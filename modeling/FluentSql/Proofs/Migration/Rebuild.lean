import FluentSql.Proofs.Migration.Teardown
import FluentSql.Proofs.Schema.Sending

/-!
# Starting afresh

A fresh start drops every table that the database reports and clears the ledger, and then its
migrations run as they do on an empty ledger. Each table is dropped by a statement with its
quoted name; where question marks are numbered, one in the name is lowered like any other, and
then the statement names another table.
-/

namespace FluentSql

open Text

variable {σ : Type} {b : Backend σ}

/-! ## The name in a statement -/

/-- What drops a table is sent as what drops the table of the lowered name. -/
theorem Dialect.lowerPlaceholders_dropText (d : Dialect) (table : String) :
    d.lowerPlaceholders (d.dropText table) = d.dropText (d.lowerPlaceholders table) := by
  have hlead : Closed "DROP TABLE IF EXISTS " := by decide
  have hend : ∀ quoted, openCount '?' quoted (SchemaPiece.renderAll d
      (if d = .postgreSql then [.verbatim " CASCADE"] else [])).toList = 0 := by
    intro quoted
    cases d <;> cases quoted <;> decide
  have hsplit : ∀ table, (d.dropText table).toList = "DROP TABLE IF EXISTS ".toList ++
      ((d.quoteIdentifier table).toList ++ (SchemaPiece.renderAll d
        (if d = .postgreSql then [.verbatim " CASCADE"] else [])).toList) := by
    intro table
    rw [dropText, SchemaPiece.toList_renderAll_cons, SchemaPiece.toList_renderAll_cons]
    rfl
  have hlowered : d.lowerPlaceholders table = String.ofList (d.written 1 table.toList) := by
    rw [← toList_lowerPlaceholders, String.ofList_toList]
  rw [← String.toList_inj, toList_lowerPlaceholders, hsplit, hsplit, d.written_append hlead.1,
    d.written_of_closed hlead, hlead.2, written_quoteIdentifier d _ _ hend, hlowered]

/-- A reader of the statement finds this name and no other. -/
def BoundStatement.Names (d : Dialect) (name : String) (statement : BoundStatement) : Prop :=
  (d.schemaTokens statement.sql).map (List.filterMap SchemaToken.name?) = some [name]

/-- A table is dropped under the name as it is lowered. -/
theorem names_dropping_iff {d : Dialect} {table name : String} :
    (d.dropping table).Names d name ↔ name = d.lowerPlaceholders (Text.trim table) := by
  have hspelled : SchemaPiece.Spelled (fun s => d.identifierQuote ∉ s.toList)
      (.verbatim "DROP TABLE IF EXISTS " :: .identifier (d.lowerPlaceholders (Text.trim table)) ::
        if d = .postgreSql then [.verbatim " CASCADE"] else []) := by
    refine .copied (by cases d <;> decide) ?_
    split
    · exact .named _ (by cases d <;> decide) (by decide) .nil
    · exact .name _
  have hname : (SchemaPiece.verbatim "DROP TABLE IF EXISTS " ::
      .identifier (d.lowerPlaceholders (Text.trim table)) ::
        if d = .postgreSql then [.verbatim " CASCADE"] else []).filterMap SchemaPiece.name? =
      [d.lowerPlaceholders (Text.trim table)] := by
    split <;> rfl
  rw [BoundStatement.Names, Dialect.dropping, Dialect.bound, d.lowerPlaceholders_dropText,
    Dialect.dropText, SchemaPiece.schemaTokens_renderAll hspelled, Option.map_some,
    SchemaPiece.filterMap_tokens, hname, Option.some_inj, List.singleton_inj, eq_comm]

/-! ## What is sent before the migrations -/

namespace MigrationTarget

variable {t : MigrationTarget} {s : σ} {tables : List String}

/-- On SQLite the foreign keys are switched by a statement. -/
def switching (t : MigrationTarget) (on : Bool) : List BoundStatement :=
  if t.dialect = .sqlite then [foreignKeys on] else []

/-- The statements that drop all tables. -/
def droppings (t : MigrationTarget) (tables : List String) : List BoundStatement :=
  if tables.isEmpty then []
  else t.switching false ++ tables.map t.dialect.dropping ++ t.switching true

/-- The statements of a fresh start before its migrations run. -/
def clearance (t : MigrationTarget) (tables : List String) : List BoundStatement :=
  t.inspection ++ t.droppings tables ++ [t.dialect.bound Ledger.clearing []]

/-- Drops all tables and clears the ledger. -/
def teardown (t : MigrationTarget) : Session Unit := do
  let tables ← t.inspect
  t.dropAll tables
  t.runText Ledger.clearing

theorem fresh_eq_teardown (t : MigrationTarget) (ms : List Migration) :
    t.fresh ms = t.teardown >>= fun _ => t.migrate ms := by
  rw [fresh_eq, teardown, Session.bind_assoc]
  simp only [Session.bind_assoc]
  rfl

theorem runText_yields {sql : String} (h : (t.runText sql).AllAnswered b s) :
    ∃ output s', b.answer (t.dialect.bound sql []) s = (.ok output, s') ∧
      (t.runText sql).Yields b s [b.exchange (t.dialect.bound sql []) s] (.ok ()) s' := by
  obtain ⟨output, s', hanswer⟩ := (Session.allAnswered_of_bind h).query
  exact ⟨output, s', hanswer, runText_of_answered hanswer⟩

theorem switchForeignKeys_yields {on : Bool} (h : (t.switchForeignKeys on).AllAnswered b s) :
    ∃ es s', (t.switchForeignKeys on).Yields b s es (.ok ()) s' ∧
      es.map Exchange.statement = t.switching on := by
  unfold switchForeignKeys switching at *
  split at h
  · next hsqlite =>
    obtain ⟨_, s', _, hyields⟩ := runText_yields h
    rw [if_pos hsqlite, if_pos hsqlite]
    refine ⟨_, s', hyields, ?_⟩
    rw [hsqlite]
    rfl
  · next hother =>
    rw [if_neg hother, if_neg hother]
    exact ⟨[], s, Session.yields_pure b () s, rfl⟩

theorem dropAll_yields (hnamed : ∀ table ∈ tables, Text.trim table ≠ "")
    (h : (t.dropAll tables).AllAnswered b s) :
    ∃ es s', (t.dropAll tables).Yields b s es (.ok ()) s' ∧
      es.map Exchange.statement = t.droppings tables := by
  unfold dropAll droppings at *
  split at h
  · next hempty =>
    rw [if_pos hempty, if_pos hempty]
    exact ⟨[], _, Session.yields_note b _ _ s, rfl⟩
  · next hsome =>
    rw [if_neg hsome, if_neg hsome]
    obtain ⟨offs, s₁, hoff, hoffs⟩ := switchForeignKeys_yields (Session.allAnswered_of_bind h)
    have h := Session.allAnswered_bind hoff h
    obtain ⟨drops, r, s₂, hdrop, hcourse⟩ := dropEach_course b t tables s₁
    obtain ⟨rfl, hdrops⟩ := hcourse.of_answered hnamed
      (hdrop.exchanges_eq ▸ Session.allAnswered_of_bind h)
    have h := Session.allAnswered_bind hdrop h
    obtain ⟨ons, s₃, hon, hons⟩ := switchForeignKeys_yields (Session.allAnswered_of_bind h)
    refine ⟨_, _, hoff.bind (hdrop.bind (hon.bind (Session.yields_note b _ _ s₃))), ?_⟩
    rw [List.append_nil, List.map_append, List.map_append, hoffs, hdrops, hons, List.append_assoc]

/-- Where it is answered, the tables that are reported are dropped and the ledger is cleared. -/
theorem teardown_yields (hreports : t.Reports b s tables)
    (hnamed : ∀ table ∈ tables, Text.trim table ≠ "") (h : t.teardown.AllAnswered b s) :
    ∃ es s₁ s₂ output, t.teardown.Yields b s es (.ok ()) s₂ ∧
      es.map Exchange.statement = t.clearance tables ∧
      b.answer (t.dialect.bound Ledger.clearing []) s₁ = (.ok output, s₂) := by
  obtain ⟨reads, r, s₁, hinspect, _, hstatements⟩ := inspect_yields b t s
  obtain rfl : r = .ok tables := (congrArg Prod.fst hinspect.run_eq).symm.trans hreports
  have h := Session.allAnswered_bind hinspect h
  obtain ⟨drops, s₂, hdrop, hdrops⟩ := dropAll_yields hnamed (Session.allAnswered_of_bind h)
  have h := Session.allAnswered_bind hdrop h
  obtain ⟨output, s₃, hclearing, hcleared⟩ := runText_yields h
  refine ⟨_, s₂, s₃, output, hinspect.bind (hdrop.bind hcleared), ?_, hclearing⟩
  rw [List.map_append, List.map_append, hstatements tables rfl, hdrops, clearance,
    List.append_assoc]
  rfl

end MigrationTarget

/-! ## The ledger behind a run in which nothing fails -/

/-- The names behind a migration that does not fail: its own is added unless it is there or
there is no statement. -/
def Migration.record (d : Dialect) (recorded : List String) (m : Migration) : List String :=
  if (m.up d).isOk ∧ m.name ∉ recorded then recorded ++ [m.name] else recorded

theorem Attempt.Follows.record {d : Dialect} {table : LedgerTable d b} {recorded : List String}
    {a : Attempt σ} (h : a.Follows table recorded) (hall : ∀ e ∈ a.sent, e.answered = true) :
    a.migration.record d recorded = recorded ++ a.names := by
  unfold Migration.record
  cases h with
  | unbuildable hup =>
    rw [hup, if_neg fun hok => nomatch hok.1]
    exact (List.append_nil recorded).symm
  | sought hup hlook hstop =>
    rcases hstop with hstop | hmem
    · rw [hall _ List.mem_cons_self] at hstop
      cases hstop
    · rw [if_neg fun hnew => hnew.2 hmem]
      exact (List.append_nil recorded).symm
  | refused hup hlook hfound hnew hrun hstop =>
    rw [hall _ (List.mem_cons_of_mem _ List.mem_cons_self)] at hstop
    cases hstop
  | executed hup hlook hfound hnew hrun hdone hrecord =>
    rw [hup, if_pos ⟨rfl, hnew⟩, Attempt.names, Attempt.added_eq _ hfound hdone, if_pos]
    exact hall _ (by simp)

/-- The names that a run adds to some others, where nothing fails in it. -/
theorem LedgerTable.Ran.foldl_record {d : Dialect} {table : LedgerTable d b}
    {recorded : List String} {attempts : List (Attempt σ)} (h : table.Ran recorded attempts)
    (hall : ∀ a ∈ attempts, ∀ e ∈ a.sent, e.answered = true) :
    (attempts.map Attempt.migration).foldl (Migration.record d) recorded =
      recorded ++ attempts.flatMap Attempt.names := by
  induction attempts generalizing recorded with
  | nil => exact (List.append_nil recorded).symm
  | cons a rest ih =>
    obtain ⟨hfirst, hrest⟩ := h
    rw [List.map_cons, List.foldl_cons, hfirst.record (hall a List.mem_cons_self),
      ih hrest fun a ha => hall a (List.mem_cons_of_mem _ ha), List.flatMap_cons,
      List.append_assoc]

namespace MigrationTarget

variable {t : MigrationTarget} {s s₁ : σ} {tables : List String} {ms : List Migration}

/-- Where nothing fails in a run on an empty ledger, its migrations alone say what is recorded. -/
theorem Migrates.names_of_answered {table : LedgerTable t.dialect b} {attempts : List (Attempt σ)}
    (h : t.Migrates table ms s attempts) (hempty : table.names s = [])
    (hall : (t.migrate ms).AllAnswered b s) :
    table.names ((t.migrate ms).run b s).2 = ms.foldl (Migration.record t.dialect) [] ∧
      ((t.migrate ms).run b s).1 =
        .ok (ms.foldl (Migration.record t.dialect) []).length := by
  have hsent : ∀ a ∈ attempts, ∀ e ∈ a.sent, e.answered = true := by
    intro a ha e he
    apply hall
    rw [h.exchanges]
    exact List.mem_cons_of_mem _ (List.mem_flatMap.mpr ⟨a, ha, he⟩)
  have hrecorded := h.ran.foldl_record hsent
  rw [h.migrations, hempty, List.nil_append] at hrecorded
  rw [h.names, h.result, hempty, hrecorded]
  exact ⟨rfl, rfl⟩

/-- What a fresh start is that gets as far as its migrations. -/
structure Rebuilds (t : MigrationTarget) (table : LedgerTable t.dialect b) (tables : List String)
    (ms : List Migration) (s s₁ : σ) : Prop where
  /-- The tables are dropped in their order and the ledger is cleared before anything else. -/
  exchanges : ∃ front, (t.fresh ms).exchanges b s = front ++ (t.migrate ms).exchanges b s₁ ∧
    front.map Exchange.statement = t.clearance tables
  cleared : table.names s₁ = []
  /-- It ends as the run of the migrations on the cleared ledger does. -/
  run : (t.fresh ms).run b s = (t.migrate ms).run b s₁
  /-- Where the ledger can be created, this is a run of attempts on no names. -/
  migrates : (b.exchange (t.dialect.bound (Ledger.creation t.dialect) []) s₁).answered = true →
    ∃ attempts, t.Migrates table ms s₁ attempts
  /-- Where nothing fails in it, the ledger before the fresh start does not count. -/
  names : (t.migrate ms).AllAnswered b s₁ →
    table.names ((t.fresh ms).run b s).2 = ms.foldl (Migration.record t.dialect) [] ∧
      ((t.fresh ms).run b s).1 = .ok (ms.foldl (Migration.record t.dialect) []).length

/-- Whatever the ledger recorded: where nothing fails before its migrations, a fresh start drops
each reported table, clears the ledger and runs the migrations on an empty one. The statement
that drops a table names it exactly if, where question marks are numbered, the name shows none. -/
theorem fresh_rebuilds (table : LedgerTable t.dialect b)
    (hclears : ∀ {s output s'},
      b.answer (t.dialect.bound Ledger.clearing []) s = (.ok output, s') → table.names s' = [])
    (hups : ∀ m ∈ ms, ∀ sql, m.up t.dialect = .ok sql →
      StatementKind.classify sql = .ddl ∧ table.Spares sql)
    (hnamed : ∀ name ∈ tables, name ≠ "" ∧ Text.trim name = name)
    (hreports : t.Reports b s tables) (hanswered : t.teardown.AllAnswered b s) :
    (∃ s₁, t.Rebuilds table tables ms s s₁) ∧
      ∀ name ∈ tables, (t.dialect.dropping name).Names t.dialect name ↔
        (t.dialect = .postgreSql → openCount '?' false name.toList = 0) := by
  constructor
  · have hnames : ∀ name ∈ tables, Text.trim name ≠ "" := fun name hname =>
      (hnamed name hname).2.symm ▸ (hnamed name hname).1
    obtain ⟨front, _, s₁, output, hteardown, hstatements, hclearing⟩ :=
      teardown_yields hreports hnames hanswered
    have hall := hteardown.bind (f := fun _ => t.migrate ms)
      (Session.yields_self b (t.migrate ms) s₁)
    rw [← fresh_eq_teardown] at hall
    have hcleared := hclears hclearing
    refine ⟨s₁, ⟨front, hall.exchanges_eq, hstatements⟩, hcleared, hall.run_eq,
      table.exists_migrates hups, fun hrun => ?_⟩
    obtain ⟨attempts, hmigrates⟩ := table.exists_migrates hups (hrun _ List.mem_cons_self)
    rw [hall.run_eq]
    exact hmigrates.names_of_answered hcleared hrun
  · intro name hname
    rw [names_dropping_iff, (hnamed name hname).2, eq_comm, t.dialect.lowerPlaceholders_eq_self_iff]

end MigrationTarget

namespace Store

/-- A library that starts afresh drops its tables by name, and `tags`, which was recorded, is
applied again. -/
theorem fresh_rebuilds_library :
    (∃ s₁, target.Rebuilds (databaseTable .sqlite ["books", "loans"] fun _ => false)
      ["books", "loans"] someMigrations tagStore s₁) ∧
    (∀ name ∈ ["books", "loans"], (Dialect.sqlite.dropping name).Names .sqlite name) ∧
    ((target.fresh someMigrations).run (database .sqlite ["books", "loans"] fun _ => false)
      tagStore).2.names = ["tags", "users", "posts", "labels"] := by
  have hms : ∀ m ∈ someMigrations, m = tableMigration m.name ∨ m = blankMigration := by
    simp [someMigrations, tableMigration]
  have hkeeps : ∀ m ∈ someMigrations, ∀ sql, m.up .sqlite = .ok sql →
      StatementKind.classify sql = .ddl ∧ (ledgerTable fun _ => false).Spares sql :=
    keeps_of_tables hms
  have hups : ∀ m ∈ someMigrations, ∀ sql, m.up .sqlite = .ok sql →
      StatementKind.classify sql = .ddl ∧
        (databaseTable .sqlite ["books", "loans"] fun _ => false).Spares sql := by
    intro m hm sql hup
    have hddl := (hkeeps m hm sql hup).1
    exact ⟨hddl, databaseTable_spares hddl⟩
  have hanswered : target.teardown.AllAnswered
      (database .sqlite ["books", "loans"] fun _ => false) tagStore := by
    show ∀ e ∈ _, Exchange.answered e = true
    decide
  obtain ⟨hrebuilds, hnames⟩ := MigrationTarget.fresh_rebuilds (t := target)
    (databaseTable .sqlite ["books", "loans"] fun _ => false) (fun h => database_clears h) hups
    (by decide) rfl hanswered
  have hsqlite : target.dialect ≠ .postgreSql := by decide
  exact ⟨hrebuilds, fun name hname => (hnames name hname).mpr fun h => absurd h hsqlite, rfl⟩

abbrev faqTarget : MigrationTarget := ⟨.postgreSql, none⟩

/-- A database with one table, whose name is a question. -/
abbrev faqDatabase : Backend Store :=
  database .postgreSql ["why?"] fun _ => false

set_option maxRecDepth 2000 in
/-- A database is told to drop another table than the one it reports, and nothing fails. -/
theorem fresh_drops_other_table :
    ("why?" ≠ "" ∧ Text.trim "why?" = "why?") ∧ faqTarget.Reports faqDatabase tagStore ["why?"] ∧
      ((faqTarget.fresh []).exchanges faqDatabase tagStore).map
          (fun e => (e.statement, e.answered)) =
        [(⟨Ledger.creation .postgreSql, []⟩, true),
          (⟨MigrationTarget.tableListing .postgreSql, []⟩, true),
          (⟨"DROP TABLE IF EXISTS \"why$1\" CASCADE", []⟩, true),
          (⟨"DELETE FROM migrations", []⟩, true), (⟨Ledger.creation .postgreSql, []⟩, true)] ∧
      ¬(BoundStatement.mk "DROP TABLE IF EXISTS \"why$1\" CASCADE" []).Names .postgreSql
        "why?" := by
  have hdrop : BoundStatement.mk "DROP TABLE IF EXISTS \"why$1\" CASCADE" [] =
      Dialect.postgreSql.dropping "why?" := by rfl
  refine ⟨by decide, rfl, rfl, ?_⟩
  rw [hdrop, names_dropping_iff]
  decide

end Store

end FluentSql
