import FluentSql.Migration.Runner
import FluentSql.Proofs.Migration.Steps
import FluentSql.Proofs.Migration.Table

/-!
# Running migrations against a ledger

Each migration is an attempt with some exchanges, and whatever becomes of one, the next
is attempted. An attempt that adds its name looked it up, ran its statement and recorded
it, all with success; all others leave the ledger as it was.
-/

namespace FluentSql

variable {σ : Type} {b : Backend σ}

/-- A migration of a run and what was sent for it. -/
structure Attempt (σ : Type) where
  migration : Migration
  sent : List (Exchange σ)

namespace Attempt

/-- Look-up, statement and INSERT were all sent and answered. -/
def added (a : Attempt σ) : Bool :=
  a.sent.length == 3 && a.sent.all Exchange.answered

/-- The statement of the migration went through. -/
def executed (a : Attempt σ) : Bool :=
  a.sent[1]?.any Exchange.answered

/-- The name that an attempt adds to the ledger. -/
def names (a : Attempt σ) : List String :=
  if a.added then [a.migration.name] else []

/-- Behind a look-up and a statement that went through, the INSERT decides. -/
theorem added_eq (m : Migration) {look up : Exchange σ} (hlook : look.answered = true)
    (hup : up.answered = true) (record : Exchange σ) :
    (mk m [look, up, record]).added = record.answered := by
  simp [added, hlook, hup]

end Attempt

/-- The exchange sends the text while the ledger holds the names. -/
structure Exchange.Asks {d : Dialect} (table : LedgerTable d b) (recorded : List String)
    (sql : String) (params : List Value) (e : Exchange σ) : Prop where
  statement : e.statement = d.bound sql params
  before : table.names e.before = recorded

/-- What is sent for a migration while the ledger holds the names: nothing where it cannot
be built, the statement only behind a look-up that did not find the name, and the name only
behind a statement that went through. -/
inductive Attempt.Follows {d : Dialect} (table : LedgerTable d b) (recorded : List String) :
    Attempt σ → Prop
  | unbuildable {m : Migration} {e : Error} (hup : m.up d = .error e) :
      Follows table recorded ⟨m, []⟩
  | sought {m : Migration} {sql : String} {look : Exchange σ} (hup : m.up d = .ok sql)
      (hlook : look.Asks table recorded Ledger.lookup [.string m.name])
      (hstop : look.answered = false ∨ m.name ∈ recorded) : Follows table recorded ⟨m, [look]⟩
  | refused {m : Migration} {sql : String} {look up : Exchange σ} (hup : m.up d = .ok sql)
      (hlook : look.Asks table recorded Ledger.lookup [.string m.name])
      (hfound : look.answered = true) (hnew : m.name ∉ recorded)
      (hrun : up.Asks table recorded sql []) (hstop : up.answered = false) :
      Follows table recorded ⟨m, [look, up]⟩
  | executed {m : Migration} {sql : String} {look up record : Exchange σ}
      (hup : m.up d = .ok sql)
      (hlook : look.Asks table recorded Ledger.lookup [.string m.name])
      (hfound : look.answered = true) (hnew : m.name ∉ recorded)
      (hrun : up.Asks table recorded sql []) (hdone : up.answered = true)
      (hrecord : record.Asks table recorded Ledger.insertion [.string m.name]) :
      Follows table recorded ⟨m, [look, up, record]⟩

theorem Attempt.Follows.new_of_sent {d : Dialect} {table : LedgerTable d b}
    {recorded : List String} {a : Attempt σ} (h : a.Follows table recorded) {e : Exchange σ}
    (he : e ∈ a.sent) (hparams : e.statement.params = []) :
    ∃ sql, a.migration.up d = .ok sql ∧ e.statement = d.bound sql [] ∧
      a.migration.name ∉ table.names e.before := by
  have hnamed : ∀ {sql name : String}, ¬e.Asks table recorded sql [.string name] := by
    intro sql name hasks
    rw [hasks.statement] at hparams
    cases hparams
  cases h with
  | unbuildable hup => cases he
  | sought hup hlook hstop =>
    obtain rfl := List.mem_singleton.mp he
    exact absurd hlook hnamed
  | refused hup hlook hfound hnew hrun hstop =>
    rcases List.mem_cons.mp he with rfl | he
    · exact absurd hlook hnamed
    · obtain rfl := List.mem_singleton.mp he
      exact ⟨_, hup, hrun.statement, hrun.before ▸ hnew⟩
  | executed hup hlook hfound hnew hrun hdone hrecord =>
    rcases List.mem_cons.mp he with rfl | he
    · exact absurd hlook hnamed
    · rcases List.mem_cons.mp he with rfl | he
      · exact ⟨_, hup, hrun.statement, hrun.before ▸ hnew⟩
      · obtain rfl := List.mem_singleton.mp he
        exact absurd hrecord hnamed

/-- The attempts follow one another, each on the ledger that those before it left. -/
def LedgerTable.Ran {d : Dialect} (table : LedgerTable d b) : List String → List (Attempt σ) → Prop
  | _, [] => True
  | recorded, a :: rest => a.Follows table recorded ∧ table.Ran (recorded ++ a.names) rest

namespace LedgerTable

variable {d : Dialect} (table : LedgerTable d b)

theorem ensure_yields {s : σ}
    (hcreated : (b.exchange (d.bound (Ledger.creation d) []) s).answered = true) :
    ∃ s', (Ledger.ensure d).Yields b s [b.exchange (d.bound (Ledger.creation d) []) s]
      (.ok ()) s' ∧ table.names s' = table.names s := by
  obtain ⟨output, s', hanswer⟩ := Backend.answered_exchange_iff.mp hcreated
  exact ⟨s', Ledger.ensure_of_answered hanswer, table.created hanswer⟩

/-- A name that is not recorded is added by an INSERT that is answered, and by no other. -/
theorem record_yields {name : String} {s : σ} (hnew : name ∉ table.names s) :
    ∃ e r s', (Ledger.record d name).Yields b s [e] r s' ∧
      e.Asks table (table.names s) Ledger.insertion [.string name] ∧
      (r = .ok true ↔ e.answered = true) ∧
      table.names s' = table.names s ++ if e.answered then [name] else [] := by
  rcases hanswer : b.answer (d.bound Ledger.insertion [.string name]) s with ⟨reply, s'⟩
  have hquery := Session.yields_query hanswer
  cases reply with
  | error err =>
    have hrefused := Backend.answered_exchange_of_error hanswer
    refine ⟨_, _, s', hquery.bind_error, ⟨rfl, rfl⟩, ?_, ?_⟩
    · rw [hrefused]
      constructor <;> (intro h; cases h)
    · rw [hrefused]
      exact (table.failed hanswer).trans (List.append_nil _).symm
  | ok output =>
    have hdone := Backend.answered_exchange_iff.mpr ⟨output, s', hanswer⟩
    obtain ⟨hnames, hid⟩ := table.inserted hnew hanswer
    refine ⟨_, _, _, Ledger.record_of_key hanswer hid, ⟨rfl, rfl⟩, ?_, ?_⟩
    · exact ⟨fun _ => hdone, fun _ => rfl⟩
    · rw [table.logged, hnames, hdone]
      rfl

/-- To apply the migration is to attempt it, with `true` for a name that was added. -/
def Attempts (m : Migration) (sql : String) (s : σ) : Prop :=
  ∃ sent r s', (Ledger.apply d sql m.name).Yields b s sent r s' ∧
    (Attempt.mk m sent).Follows table (table.names s) ∧
    (r = .ok true ↔ (Attempt.mk m sent).added = true) ∧
    table.names s' = table.names s ++ (Attempt.mk m sent).names

section Apply

variable {m : Migration} {sql : String} {s s₁ : σ}

/-- Behind a look-up that did not find the name, the statement is run. -/
theorem attempts_of_new (hup : m.up d = .ok sql) (hddl : StatementKind.classify sql = .ddl)
    (hspares : table.Spares sql) {found : Output}
    (hlook : b.answer (d.bound Ledger.lookup [.string m.name]) s = (.ok found, s₁))
    (hnew : m.name ∉ table.names s) : table.Attempts m sql s := by
  obtain ⟨hnames₁, hfound⟩ := table.lookedUp hlook
  have hdone₁ := Backend.answered_exchange_iff.mpr ⟨found, s₁, hlook⟩
  have hnone : found.toRows = [] := Classical.not_not.mp (mt hfound.mp hnew)
  rcases hrun : b.answer (d.bound sql []) s₁ with ⟨reply, s₂⟩
  have hnames₂ := (hspares hrun).trans hnames₁
  cases reply with
  | error e =>
    have hrefused := Backend.answered_exchange_of_error hrun
    refine ⟨_, _, _, Ledger.apply_of_refused hlook hnone hrun,
      .refused hup ⟨rfl, rfl⟩ hdone₁ hnew ⟨rfl, hnames₁⟩ hrefused, ?_, ?_⟩
    · constructor <;> (intro h; cases h)
    · exact hnames₂.trans (List.append_nil _).symm
  | ok output =>
    obtain rfl : output = .done :=
      table.completed ((StatementKind.classify_lowerPlaceholders d sql).trans hddl) hrun
    have hdone₂ := Backend.answered_exchange_iff.mpr ⟨_, s₂, hrun⟩
    have hnew₂ : m.name ∉ table.names s₂ := hnames₂ ▸ hnew
    obtain ⟨record, r, s₃, hrecord, hasks, htrue, hnames₃⟩ := table.record_yields hnew₂
    have hadded := Attempt.added_eq m hdone₁ hdone₂ record
    rw [hnames₂] at hasks hnames₃
    refine ⟨_, _, _, Ledger.apply_of_noticed hlook hnone hrun rfl hrecord,
      .executed hup ⟨rfl, rfl⟩ hdone₁ hnew ⟨rfl, hnames₁⟩ hdone₂ hasks, ?_, ?_⟩
    · rw [htrue, hadded]
    · rw [hnames₃, Attempt.names, hadded]

theorem attempts_of_ddl (hup : m.up d = .ok sql) (hddl : StatementKind.classify sql = .ddl)
    (hspares : table.Spares sql) (s : σ) : table.Attempts m sql s := by
  rcases hlook : b.answer (d.bound Ledger.lookup [.string m.name]) s with ⟨found, s₁⟩
  cases found with
  | error e =>
    have hrefused := Backend.answered_exchange_of_error hlook
    refine ⟨_, _, s₁, (Session.yields_query hlook).bind_error,
      .sought hup ⟨rfl, rfl⟩ (.inl hrefused), ?_, ?_⟩
    · constructor <;> (intro h; cases h)
    · exact (table.failed hlook).trans (List.append_nil _).symm
  | ok found =>
    by_cases hmem : m.name ∈ table.names s
    · obtain ⟨hnames₁, hfound⟩ := table.lookedUp hlook
      refine ⟨_, _, _, Ledger.apply_of_known hlook (hfound.mpr hmem),
        .sought hup ⟨rfl, rfl⟩ (.inr hmem), ?_, ?_⟩
      · constructor <;> (intro h; cases h)
      · exact hnames₁.trans (List.append_nil _).symm
    · exact table.attempts_of_new hup hddl hspares hlook hmem

end Apply

/-- The migrations of a run are attempted in turn, whatever becomes of each. -/
theorem applyEach_yields {ms : List Migration}
    (hups : ∀ m ∈ ms, ∀ sql, m.up d = .ok sql →
      StatementKind.classify sql = .ddl ∧ table.Spares sql) (count : Nat) (s : σ) :
    ∃ attempts s', attempts.map Attempt.migration = ms ∧ table.Ran (table.names s) attempts ∧
      (MigrationTarget.applyEach d count ms).Yields b s (attempts.flatMap Attempt.sent)
        (.ok (count + (attempts.flatMap Attempt.names).length)) s' ∧
      table.names s' = table.names s ++ attempts.flatMap Attempt.names := by
  induction ms generalizing count s with
  | nil => exact ⟨[], s, rfl, trivial, Session.yields_pure b count s, (List.append_nil _).symm⟩
  | cons m ms ih =>
    have hrest := ih fun m' hm' => hups m' (List.mem_cons_of_mem m hm')
    cases hup : m.up d with
    | error e =>
      obtain ⟨attempts, s', hms, hran, hyields, hnames⟩ :=
        hrest count (b.note ⟨.error, "could not build migration"⟩ s)
      rw [table.logged] at hran hnames
      refine ⟨⟨m, []⟩ :: attempts, s', congrArg _ hms, ⟨.unbuildable hup, ?_⟩, ?_, hnames⟩
      · show table.Ran (table.names s ++ []) attempts
        rw [List.append_nil]
        exact hran
      · rw [MigrationTarget.applyEach, hup]
        exact (Session.yields_note b _ _ s).bind hyields
    | ok sql =>
      obtain ⟨hddl, hspares⟩ := hups m List.mem_cons_self sql hup
      obtain ⟨sent, r, s₁, happly, hfollows, htrue, hnames₁⟩ :=
        table.attempts_of_ddl hup hddl hspares s
      -- A failed attempt is noted first; the count follows the name that was added.
      have hnext : ∃ s₂, table.names s₂ = table.names s₁ ∧ ∀ es n s',
          (MigrationTarget.applyEach d (count + (Attempt.mk m sent).names.length) ms).Yields b s₂
            es (.ok n) s' →
          (MigrationTarget.applyEach d count (m :: ms)).Yields b s (sent ++ es) (.ok n) s' := by
        rw [MigrationTarget.applyEach, hup, Attempt.names]
        match r with
        | .ok true =>
          rw [if_pos (htrue.mp rfl)]
          exact ⟨s₁, rfl, fun es n s' hyields => happly.thenWith hyields⟩
        | .ok false =>
          rw [if_neg fun hadded => nomatch htrue.mpr hadded]
          exact ⟨s₁, rfl, fun es n s' hyields => happly.thenWith hyields⟩
        | .error e =>
          rw [if_neg fun hadded => nomatch htrue.mpr hadded]
          refine ⟨b.note ⟨.error, "migration failed"⟩ s₁, table.logged _ s₁, ?_⟩
          intro es n s' hyields
          exact happly.thenWith ((Session.yields_note b _ _ s₁).bind hyields)
      obtain ⟨s₂, hnames₂, hnext⟩ := hnext
      obtain ⟨attempts, s', hms, hran, hyields, hnames⟩ :=
        hrest (count + (Attempt.mk m sent).names.length) s₂
      rw [hnames₂, hnames₁] at hran hnames
      refine ⟨⟨m, sent⟩ :: attempts, s', congrArg _ hms, ⟨hfollows, hran⟩, ?_, ?_⟩
      · have hcount : count + ((Attempt.mk m sent :: attempts).flatMap Attempt.names).length =
            count + (Attempt.mk m sent).names.length + (attempts.flatMap Attempt.names).length := by
          rw [List.flatMap_cons, List.length_append, Nat.add_assoc]
        rw [hcount]
        exact hnext _ _ _ hyields
      · rw [hnames, List.flatMap_cons, List.append_assoc]

end LedgerTable

variable {t : MigrationTarget}

/-- What a run of migrations is, told attempt by attempt. -/
structure MigrationTarget.Migrates (t : MigrationTarget) (table : LedgerTable t.dialect b)
    (ms : List Migration) (s : σ) (attempts : List (Attempt σ)) : Prop where
  /-- Every migration is attempted, in the given order. -/
  migrations : attempts.map Attempt.migration = ms
  /-- Nothing is sent but the creation of the ledger and what the attempts send. -/
  exchanges : (t.migrate ms).exchanges b s =
    b.exchange (t.dialect.bound (Ledger.creation t.dialect) []) s ::
      attempts.flatMap Attempt.sent
  ran : table.Ran (table.names s) attempts
  /-- The names that were added stand behind those that were recorded. -/
  names : table.names ((t.migrate ms).run b s).2 =
    table.names s ++ attempts.flatMap Attempt.names
  result : ((t.migrate ms).run b s).1 = .ok (attempts.flatMap Attempt.names).length

theorem LedgerTable.exists_migrates (table : LedgerTable t.dialect b)
    {ms : List Migration}
    (hups : ∀ m ∈ ms, ∀ sql, m.up t.dialect = .ok sql →
      StatementKind.classify sql = .ddl ∧ table.Spares sql) {s : σ}
    (hcreated : (b.exchange (t.dialect.bound (Ledger.creation t.dialect) []) s).answered = true) :
    ∃ attempts, t.Migrates table ms s attempts := by
  obtain ⟨s₁, hensured, hnames₁⟩ := table.ensure_yields hcreated
  obtain ⟨attempts, s₂, hms, hran, happlied, hnames₂⟩ := table.applyEach_yields hups 0 s₁
  rw [Nat.zero_add] at happlied
  rw [hnames₁] at hran hnames₂
  have hall : (t.migrate ms).Yields b s
      ([b.exchange (t.dialect.bound (Ledger.creation t.dialect) []) s] ++
        (attempts.flatMap Attempt.sent ++ ([] ++ [])))
      (.ok (attempts.flatMap Attempt.names).length) _ :=
    hensured.bind (happlied.bind ((Session.yields_note b _ _ s₂).bind
      (Session.yields_pure b _ _)))
  refine ⟨attempts, hms, ?_, hran, ?_, ?_⟩
  · rw [hall.exchanges_eq, List.append_nil, List.append_nil]
    rfl
  · rw [hall.run_eq]
    exact (table.logged _ s₂).trans hnames₂
  · rw [hall.run_eq]

/-- A statement of a migration is only sent while its name is not recorded. -/
theorem LedgerTable.Ran.new_of_sent {d : Dialect} {table : LedgerTable d b}
    {recorded : List String} {attempts : List (Attempt σ)} (h : table.Ran recorded attempts)
    {a : Attempt σ} (ha : a ∈ attempts) {e : Exchange σ} (he : e ∈ a.sent)
    (hparams : e.statement.params = []) :
    ∃ sql, a.migration.up d = .ok sql ∧ e.statement = d.bound sql [] ∧
      a.migration.name ∉ table.names e.before := by
  induction attempts generalizing recorded with
  | nil => cases ha
  | cons first rest ih =>
    obtain ⟨hfirst, hrest⟩ := h
    rcases List.mem_cons.mp ha with rfl | ha
    · exact hfirst.new_of_sent he hparams
    · exact ih hrest ha

/-- On a ledger that could be initialised, a run of migrations whose statements are DDL and
spare the ledger ends well, whatever else fails. A statement is run only for a name that is
not recorded; the names of the successful attempts are added, and counted. -/
theorem MigrationTarget.migrate_extends_ledger (table : LedgerTable t.dialect b)
    {ms : List Migration}
    (hups : ∀ m ∈ ms, ∀ sql, m.up t.dialect = .ok sql →
      StatementKind.classify sql = .ddl ∧ table.Spares sql) {s : σ}
    (hcreated : (b.exchange (t.dialect.bound (Ledger.creation t.dialect) []) s).answered = true) :
    ∃ attempts, t.Migrates table ms s attempts ∧
      (∀ a ∈ attempts, ∀ e ∈ a.sent, e.statement.params = [] →
        ∃ sql, a.migration.up t.dialect = .ok sql ∧ e.statement = t.dialect.bound sql [] ∧
          a.migration.name ∉ table.names e.before) ∧
      ∃ n, ((t.migrate ms).run b s).1 = .ok n ∧
        (table.names ((t.migrate ms).run b s).2).length = (table.names s).length + n := by
  obtain ⟨attempts, hmigrates⟩ := table.exists_migrates hups hcreated
  refine ⟨attempts, hmigrates, ?_, _, hmigrates.result, ?_⟩
  · exact fun a ha e he hparams => hmigrates.ran.new_of_sent ha he hparams
  · rw [hmigrates.names, List.length_append]

namespace Store

/-- A migration that creates and drops a table. -/
def tableMigration (table : String) : Migration :=
  ⟨table, fun _ => .ok ("CREATE TABLE " ++ (table ++ " (id INTEGER)")),
    fun _ => .ok ("DROP TABLE " ++ table)⟩

/-- A migration that cannot be built. -/
def blankMigration : Migration :=
  ⟨"blank", fun _ => .error (.argument .blankTable), fun _ => .error (.argument .blankTable)⟩

/-- Migrations that create tables, and some that cannot be built, keep to the ledger. -/
theorem keeps_of_tables {refuses : BoundStatement → Bool} {ms : List Migration}
    (hms : ∀ m ∈ ms, m = tableMigration m.name ∨ m = blankMigration) :
    ∀ m ∈ ms, ∀ sql, m.up .sqlite = .ok sql →
      StatementKind.classify sql = .ddl ∧ (ledgerTable refuses).Spares sql := by
  intro m hm sql hup
  rcases hms m hm with htable | hblank
  · rw [htable] at hup
    obtain rfl := Except.ok.inj hup
    exact ⟨StatementKind.classify_createTable _, spares refuses _⟩
  · rw [hblank] at hup
    cases hup

/-- Refuses the table `users`, and to record `labels`. -/
def refusesSome (statement : BoundStatement) : Bool :=
  statement.sql == "CREATE TABLE users (id INTEGER)" ||
    match statement.params with
    | [.string name] => statement.sql == Ledger.insertion && name == "labels"
    | _ => false

def someMigrations : List Migration :=
  [tableMigration "tags", tableMigration "users", blankMigration, tableMigration "posts",
    tableMigration "labels", tableMigration "posts"]

abbrev target : MigrationTarget := ⟨.sqlite, none⟩

/-- Of these only `posts` is added, and only once: `tags` is recorded already. -/
theorem migrate_extends_ledger_tagStore :
    ∃ attempts, target.Migrates (ledgerTable refusesSome) someMigrations tagStore attempts ∧
      attempts.flatMap Attempt.names = ["posts"] := by
  have hms : ∀ m ∈ someMigrations, m = tableMigration m.name ∨ m = blankMigration := by
    simp [someMigrations, tableMigration]
  obtain ⟨attempts, hmigrates, _⟩ := MigrationTarget.migrate_extends_ledger (t := target)
    (ledgerTable refusesSome) (keeps_of_tables hms) (s := tagStore) rfl
  refine ⟨attempts, hmigrates, ?_⟩
  have hnames : ["tags"] ++ ["posts"] = ["tags"] ++ attempts.flatMap Attempt.names :=
    hmigrates.names
  exact (List.append_cancel_left hnames).symm

end Store

end FluentSql
