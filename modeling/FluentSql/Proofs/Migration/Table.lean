import FluentSql.Migration.Ledger
import FluentSql.Proofs.Session.Exchange
import FluentSql.Proofs.Session.Kind

/-!
# Ledgers as tables of names

What a backend has to do for the ledger to be a table of unique names. Any statement may
fail, and then the names stay; what is answered looks a name up, adds it at the end, takes
it out or lists all of them. A small store in memory does so, whatever it refuses.
-/

namespace FluentSql

/-- The names that a state of the backend records, and how its answers go with them. -/
structure LedgerTable {σ : Type} (d : Dialect) (b : Backend σ) where
  names : σ → List String
  unique : ∀ s, (names s).Nodup
  logged : ∀ entry s, names (b.note entry s) = names s
  created : ∀ {s reply s'}, b.answer (d.bound (Ledger.creation d) []) s = (reply, s') →
    names s' = names s
  /-- A statement that fails has no effect. -/
  failed : ∀ {statement s e s'}, b.answer statement s = (.error e, s') → names s' = names s
  lookedUp : ∀ {name s output s'},
    b.answer (d.bound Ledger.lookup [.string name]) s = (.ok output, s') →
      names s' = names s ∧ (output.toRows ≠ [] ↔ name ∈ names s)
  inserted : ∀ {name s output s'}, name ∉ names s →
    b.answer (d.bound Ledger.insertion [.string name]) s = (.ok output, s') →
      names s' = names s ++ [name] ∧ output.insertId? ≠ none
  removed : ∀ {name s output s'},
    b.answer (d.bound Ledger.removal [.string name]) s = (.ok output, s') →
      names s' = (names s).erase name ∧ (output.toBool = true ↔ name ∈ names s)
  listed : ∀ {s output s'}, b.answer (d.bound Ledger.listing []) s = (.ok output, s') →
    names s' = names s ∧ Ledger.column "migration_name" output.toRows = .ok (names s)
  /-- A DDL statement that goes through has no count to report. -/
  completed : ∀ {sql s output s'}, StatementKind.classify sql = .ddl →
    b.answer ⟨sql, []⟩ s = (.ok output, s') → output = .done

/-- The statement leaves the ledger alone. -/
def LedgerTable.Spares {σ : Type} {d : Dialect} {b : Backend σ} (table : LedgerTable d b)
    (sql : String) : Prop :=
  ∀ {s reply s'}, b.answer (d.bound sql []) s = (reply, s') → table.names s' = table.names s

/-- A ledger in memory: names that do not repeat. -/
structure Store where
  names : List String
  unique : names.Nodup

namespace Store

def row (name : String) : Row :=
  ⟨[("migration_name", .string name)]⟩

def insert (s : Store) (name : String) (h : name ∉ s.names) : Store where
  names := s.names ++ [name]
  unique := by
    rw [List.nodup_append]
    refine ⟨s.unique, by simp, ?_⟩
    rintro a ha b hb rfl
    exact h (List.mem_singleton.mp hb ▸ ha)

def remove (s : Store) (name : String) : Store where
  names := s.names.erase name
  unique := s.unique.erase name

/-- The answer to a statement with the name of a migration. -/
def answerNamed (s : Store) (sql name : String) : Except Error Output × Store :=
  if sql = Ledger.lookup then (.ok (.rows (if name ∈ s.names then [row name] else [])), s)
  else if sql = Ledger.insertion then
    if h : name ∈ s.names then (.error (.driver "UNIQUE constraint failed"), s)
    else (.ok (.insertId (.int (Int64.ofNat (s.names.length + 1)))), s.insert name h)
  else if sql = Ledger.removal then (.ok (.affected (name ∈ s.names)), s.remove name)
  else (.error (.driver "syntax error"), s)

/-- The answer to any statement; those that are not about the ledger change nothing. -/
def answer (s : Store) (statement : BoundStatement) : Except Error Output × Store :=
  match statement.params with
  | [.string name] => s.answerNamed statement.sql name
  | _ =>
    if statement.sql = Ledger.listing then (.ok (.rows (s.names.map row)), s)
    else (.ok (.ofCounts (StatementKind.classify statement.sql) 0 none), s)

/-- A backend that refuses some statements. -/
def backend (refuses : BoundStatement → Bool) : Backend Store where
  answer statement s :=
    if refuses statement then (.error (.driver "refused"), s) else s.answer statement
  note _ s := s

theorem column_rows (names : List String) :
    Ledger.column "migration_name" (names.map row) = .ok names := by
  induction names with
  | nil => rfl
  | cons name names ih =>
    have hcons : Ledger.column "migration_name" ((name :: names).map row) =
        (do
          let head ← (row name).get String "migration_name"
          let tail ← Ledger.column "migration_name" (names.map row)
          return head :: tail) := List.mapM_cons
    rw [hcons, ih]
    rfl

variable {refuses : BoundStatement → Bool} {s s' : Store}

theorem answer_of_ok {statement : BoundStatement} {output : Output}
    (h : (backend refuses).answer statement s = (.ok output, s')) :
    s.answer statement = (.ok output, s') := by
  unfold backend at h
  dsimp only at h
  split at h
  · cases h
  · exact h

theorem eq_of_answer_without_name {sql : String} {reply : Except Error Output}
    (h : (backend refuses).answer ⟨sql, []⟩ s = (reply, s')) : s' = s := by
  unfold backend answer at h
  dsimp only at h
  split at h
  · exact (Prod.mk.inj h).2.symm
  · split at h <;> exact (Prod.mk.inj h).2.symm

theorem eq_of_answerNamed_error {sql name : String} {e : Error}
    (h : s.answerNamed sql name = (.error e, s')) : s' = s := by
  revert h
  fun_cases answerNamed s sql name with
  | case1 | case3 | case4 =>
    intro h
    cases h
  | case2 | case5 => exact fun h => (Prod.mk.inj h).2.symm

theorem eq_of_answer_error {statement : BoundStatement} {e : Error}
    (h : (backend refuses).answer statement s = (.error e, s')) : s' = s := by
  unfold backend answer at h
  dsimp only at h
  split at h
  · exact (Prod.mk.inj h).2.symm
  · split at h
    · exact eq_of_answerNamed_error h
    · split at h <;> cases h

theorem answer_insertion {name : String} (h : name ∉ s.names) :
    s.answer (Dialect.sqlite.bound Ledger.insertion [.string name]) =
      (.ok (.insertId (.int (Int64.ofNat (s.names.length + 1)))), s.insert name h) := by
  show s.answerNamed Ledger.insertion name = _
  rw [answerNamed, if_neg (by decide), if_pos rfl, dif_neg h]

/-- Whatever the store refuses, its ledger is a table of unique names. -/
def ledgerTable (refuses : BoundStatement → Bool) : LedgerTable .sqlite (backend refuses) where
  names := names
  unique := unique
  logged _ _ := rfl
  created h := congrArg names (eq_of_answer_without_name h)
  failed h := congrArg names (eq_of_answer_error h)
  lookedUp {name s output s'} h := by
    obtain ⟨hreply, rfl⟩ := Prod.mk.inj (answer_of_ok h)
    obtain rfl := Except.ok.inj hreply
    refine ⟨rfl, ?_⟩
    show (if name ∈ s.names then [row name] else []) ≠ [] ↔ _
    split
    · next hmem => exact ⟨fun _ => hmem, fun _ => List.cons_ne_nil _ _⟩
    · next hmem => exact ⟨fun hne => absurd rfl hne, fun h => absurd h hmem⟩
  inserted hnew h := by
    have hanswer := answer_of_ok h
    rw [answer_insertion hnew] at hanswer
    obtain ⟨hreply, rfl⟩ := Prod.mk.inj hanswer
    obtain rfl := Except.ok.inj hreply
    exact ⟨rfl, Option.some_ne_none _⟩
  removed h := by
    obtain ⟨hreply, rfl⟩ := Prod.mk.inj (answer_of_ok h)
    obtain rfl := Except.ok.inj hreply
    exact ⟨rfl, decide_eq_true_iff⟩
  listed {s output s'} h := by
    obtain ⟨hreply, rfl⟩ := Prod.mk.inj (answer_of_ok h)
    obtain rfl := Except.ok.inj hreply
    exact ⟨rfl, column_rows s.names⟩
  completed hddl h := by
    have hanswer := answer_of_ok h
    unfold answer at hanswer
    dsimp only at hanswer
    split at hanswer
    · next hlisting =>
      have hselect : StatementKind.classify Ledger.listing = .select := by decide
      rw [hlisting, hselect] at hddl
      cases hddl
    · rw [hddl] at hanswer
      exact (Except.ok.inj (Prod.mk.inj hanswer).1).symm

/-- The store has no statement but those of the ledger that would change it. -/
theorem spares (refuses : BoundStatement → Bool) (sql : String) :
    (ledgerTable refuses).Spares sql :=
  fun h => congrArg names (eq_of_answer_without_name h)

/-- A store that has recorded one name. -/
def tagStore : Store := ⟨["tags"], by decide⟩

/-- A store that has recorded nothing. -/
def emptyStore : Store := ⟨[], List.nodup_nil⟩

end Store

end FluentSql
