import Mathlib.Data.List.Nodup
import FluentSql.Migration.Tables
import FluentSql.Proofs.Migration.Table

/-!
# A database with a ledger

The store in memory serves as the ledger of a database that has other tables as well. It
reports these, lets anyone drop them, and its ledger can be cleared. Whatever its dialect and
whatever it refuses, its ledger is a table of unique names.
-/

namespace FluentSql.Store

/-- The statements that carry the name of a migration. -/
def namedTexts : List String :=
  [Ledger.lookup, Ledger.insertion, Ledger.removal]

/-- The one of them that the dialect sends so. -/
def namedText? (d : Dialect) (sql : String) : Option String :=
  namedTexts.find? fun text => d.lowerPlaceholders text == sql

/-- A database of any dialect that reports other tables and lets its ledger be cleared. -/
def database (d : Dialect) (tables : List String) (refuses : BoundStatement → Bool) :
    Backend Store where
  answer statement s :=
    if refuses statement then (.error (.driver "refused"), s)
    else match statement.params, namedText? d statement.sql with
      | [.string name], some text => s.answerNamed text name
      | _, _ =>
        if statement.sql = MigrationTarget.tableListing d then
          (.ok (.rows (tables.map fun name => ⟨[("name", .string name)]⟩)), s)
        else if statement.sql = Ledger.clearing then
          (.ok (.affected (!s.names.isEmpty)), emptyStore)
        else s.answer statement
  note _ s := s

variable {d : Dialect} {tables : List String} {refuses : BoundStatement → Bool} {s s' : Store}

/-- Their kinds tell the statements with a name apart, in any dialect. -/
theorem namedText?_lowerPlaceholders (d : Dialect) {text : String} (h : text ∈ namedTexts) :
    namedText? d (d.lowerPlaceholders text) = some text := by
  have hkinds : (namedTexts.map StatementKind.classify).Nodup := by decide
  have heq : ∀ other ∈ namedTexts, d.lowerPlaceholders other = d.lowerPlaceholders text →
      other = text := by
    intro other hother hsql
    have hkind := congrArg StatementKind.classify hsql
    rw [StatementKind.classify_lowerPlaceholders, StatementKind.classify_lowerPlaceholders] at hkind
    exact List.inj_on_of_nodup_map hkinds hother h hkind
  cases hfound : namedText? d (d.lowerPlaceholders text) with
  | none =>
    have hmissed := List.find?_eq_none.mp hfound text h
    exact absurd (beq_self_eq_true _) hmissed
  | some other =>
    have hsql : d.lowerPlaceholders other = d.lowerPlaceholders text := by
      simpa using List.find?_some hfound
    rw [heq other (List.mem_of_find?_eq_some hfound) hsql]

theorem eq_of_database_error {statement : BoundStatement} {e : Error}
    (h : (database d tables refuses).answer statement s = (.error e, s')) : s' = s := by
  unfold database at h
  dsimp only at h
  split at h
  · exact (Prod.mk.inj h).2.symm
  · split at h
    · exact eq_of_answerNamed_error h
    · split at h
      · cases h
      · split at h
        · cases h
        · have hanswer : (backend fun _ => false).answer statement s = (.error e, s') := h
          exact eq_of_answer_error hanswer

/-- A statement with the name of a migration reaches the store as it is written. -/
theorem answer_named_of_ok {text name : String} (htext : text ∈ namedTexts) {output : Output}
    (h : (database d tables refuses).answer (d.bound text [.string name]) s = (.ok output, s')) :
    (backend fun _ => false).answer (Dialect.sqlite.bound text [.string name]) s =
      (.ok output, s') := by
  unfold database Dialect.bound at h
  dsimp only at h
  rw [namedText?_lowerPlaceholders d htext] at h
  split at h
  · cases h
  · exact h

/-- A statement without values is left to the store unless it lists the tables or clears the
ledger. -/
theorem answer_unnamed_of_ok {sql : String} {output : Output}
    (hlisting : sql ≠ MigrationTarget.tableListing d) (hclearing : sql ≠ Ledger.clearing)
    (h : (database d tables refuses).answer ⟨sql, []⟩ s = (.ok output, s')) :
    (backend fun _ => false).answer ⟨sql, []⟩ s = (.ok output, s') := by
  unfold database at h
  dsimp only at h
  rw [if_neg hlisting, if_neg hclearing] at h
  split at h
  · cases h
  · exact h

theorem classify_tableListing (d : Dialect) :
    StatementKind.classify (MigrationTarget.tableListing d) = .select := by
  have hselect : ∀ {lead : String} (more rest : String), lead = "SELECT" ++ " " ++ more →
      StatementKind.classify (lead ++ rest) = .select := fun more rest hlead =>
    (StatementKind.classify_lead _ "SELECT" more hlead (by decide) (by decide) rest).trans
      (by decide)
  cases d with
  | mySql => exact hselect "TABLE_NAME AS name FROM INFORMATION_SCHEMA.TABLES " _ rfl
  | postgreSql =>
    exact (congrArg StatementKind.classify String.append_assoc).trans
      (hselect "table_name::text AS name FROM information_schema.tables " _ rfl)
  | sqlite => exact hselect "name FROM sqlite_master WHERE type = 'table' " _ rfl

/-- A statement without values changes no name unless it clears the ledger. -/
theorem eq_of_answer_unnamed {sql : String} {reply : Except Error Output}
    (hclearing : sql ≠ Ledger.clearing)
    (h : (database d tables refuses).answer ⟨sql, []⟩ s = (reply, s')) : s' = s := by
  cases reply with
  | error e => exact eq_of_database_error h
  | ok output =>
    by_cases hlisting : sql = MigrationTarget.tableListing d
    · unfold database at h
      dsimp only at h
      rw [if_pos hlisting] at h
      split at h <;> exact (Prod.mk.inj h).2.symm
    · exact eq_of_answer_without_name (answer_unnamed_of_ok hlisting hclearing h)

theorem ne_clearing_of_ddl {sql : String} (hddl : StatementKind.classify sql = .ddl) :
    sql ≠ Ledger.clearing := by
  rintro rfl
  exact absurd hddl (by decide)

theorem eq_of_answer_ddl {sql : String} (hddl : StatementKind.classify sql = .ddl)
    {reply : Except Error Output}
    (h : (database d tables refuses).answer (d.bound sql []) s = (reply, s')) : s' = s :=
  eq_of_answer_unnamed
    (ne_clearing_of_ddl ((StatementKind.classify_lowerPlaceholders d sql).trans hddl)) h

/-- In a database of any dialect, too, the ledger is a table of unique names. -/
def databaseTable (d : Dialect) (tables : List String) (refuses : BoundStatement → Bool) :
    LedgerTable d (database d tables refuses) where
  names := names
  unique := unique
  logged _ _ := rfl
  failed h := congrArg names (eq_of_database_error h)
  created h := by
    have hddl : StatementKind.classify (Ledger.creation d) = .ddl :=
      (congrArg StatementKind.classify String.append_assoc).trans
        ((StatementKind.classify_lead _ "CREATE" "TABLE IF NOT EXISTS migrations (id " rfl
          (by decide) (by decide) _).trans (by decide))
    exact congrArg names (eq_of_answer_ddl hddl h)
  lookedUp h := (ledgerTable fun _ => false).lookedUp
    (answer_named_of_ok List.mem_cons_self h)
  inserted hnew h := (ledgerTable fun _ => false).inserted hnew
    (answer_named_of_ok (List.mem_cons_of_mem _ List.mem_cons_self) h)
  removed h := (ledgerTable fun _ => false).removed
    (answer_named_of_ok (List.mem_cons_of_mem _ (List.mem_cons_of_mem _ List.mem_cons_self)) h)
  listed h := by
    have hlowered : d.lowerPlaceholders Ledger.listing = Ledger.listing := by
      cases d <;> decide
    have hlisting : Ledger.listing ≠ MigrationTarget.tableListing d := by
      cases d <;> decide
    rw [Dialect.bound, hlowered] at h
    exact (ledgerTable fun _ => false).listed (answer_unnamed_of_ok hlisting (by decide) h)
  completed {sql s output s'} hddl h := by
    have hlisting : sql ≠ MigrationTarget.tableListing d := by
      rintro rfl
      rw [classify_tableListing] at hddl
      cases hddl
    exact (ledgerTable fun _ => false).completed hddl
      (answer_unnamed_of_ok hlisting (ne_clearing_of_ddl hddl) h)

theorem databaseTable_spares {sql : String} (hddl : StatementKind.classify sql = .ddl) :
    (databaseTable d tables refuses).Spares sql :=
  fun h => congrArg names (eq_of_answer_ddl hddl h)

theorem database_clears {output : Output}
    (h : (database d tables refuses).answer (d.bound Ledger.clearing []) s = (.ok output, s')) :
    s'.names = [] := by
  have hlowered : d.lowerPlaceholders Ledger.clearing = Ledger.clearing := by
    cases d <;> decide
  have hlisting : Ledger.clearing ≠ MigrationTarget.tableListing d := by
    cases d <;> decide
  unfold database Dialect.bound at h
  dsimp only at h
  rw [hlowered, if_neg hlisting, if_pos rfl] at h
  split at h
  · cases h
  · rw [← (Prod.mk.inj h).2]
    rfl

end FluentSql.Store
