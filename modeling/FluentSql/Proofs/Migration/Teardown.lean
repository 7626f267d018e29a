import FluentSql.Proofs.Migration.Database
import FluentSql.Proofs.Migration.Migrate
import FluentSql.Proofs.Schema.Plan

/-!
# Dropping the tables of a database

Before migrations are applied afresh, the tables that the database reports are dropped one by
one, up to the first that cannot be dropped. On SQLite this happens with the foreign keys
switched off. They are switched on again behind the last table, and only there.
-/

namespace FluentSql

variable {σ : Type} {b : Backend σ}

open SchemaPiece in
/-- The text that drops a table, on PostgreSQL with what depends on it. -/
def Dialect.dropText (d : Dialect) (table : String) : String :=
  renderAll d (.verbatim "DROP TABLE IF EXISTS " :: .identifier table ::
    if d = .postgreSql then [.verbatim " CASCADE"] else [])

/-- The statement that drops a table. -/
def Dialect.dropping (d : Dialect) (table : String) : BoundStatement :=
  d.bound (d.dropText (Text.trim table)) []

/-- The statement that switches the foreign keys of a SQLite database. -/
def foreignKeys (on : Bool) : BoundStatement :=
  Dialect.sqlite.bound ("PRAGMA foreign_keys = " ++ if on then "ON" else "OFF") []

theorem dropText_of_dropTable {d : Dialect} {table sql : String}
    (h : dropTable d table = .ok sql) : Text.trim table ≠ "" ∧
      (if d = .postgreSql then sql ++ " CASCADE" else sql) = d.dropText (Text.trim table) := by
  have hsql : SchemaPlan.sql d (.drop table) = .ok sql := h
  obtain ⟨hname, _, rfl⟩ := SchemaPlan.sql_ok_iff.mp hsql
  refine ⟨hname, ?_⟩
  unfold Dialect.dropText
  split
  · have hcascade : SchemaPiece.renderAll d [.verbatim " CASCADE"] = " CASCADE" :=
      String.append_empty
    have hpieces := SchemaPiece.renderAll_append d
      [.verbatim "DROP TABLE IF EXISTS ", .identifier (Text.trim table)] [.verbatim " CASCADE"]
    rw [hcascade] at hpieces
    exact hpieces.symm
  · rfl

theorem classify_dropping (d : Dialect) (table : String) :
    StatementKind.classify (d.dropping table).sql = .ddl := by
  rw [Dialect.dropping, Dialect.bound, StatementKind.classify_lowerPlaceholders]
  exact StatementKind.classify_dropTable _

theorem dropping_ne_foreignKeys (table : String) (on : Bool) :
    Dialect.sqlite.dropping table ≠ foreignKeys on := by
  intro h
  have hkind := classify_dropping .sqlite table
  rw [h] at hkind
  cases on <;> exact absurd hkind (by decide)

/-- The exchange drops the table. -/
structure Exchange.Drops (d : Dialect) (table : String) (e : Exchange σ) : Prop where
  named : Text.trim table ≠ ""
  statement : e.statement = d.dropping table
  answered : e.answered = true

/-- The courses of dropping tables one by one: what is sent, and what comes of it. -/
inductive DropCourse (d : Dialect) :
    List String → List (Exchange σ) → Except Error Unit → Prop
  | finished : DropCourse d [] [] (.ok ())
  | blank {table : String} {rest : List String} {e : Error} (hblank : Text.trim table = "") :
      DropCourse d (table :: rest) [] (.error e)
  | refused {table : String} {rest : List String} {drop : Exchange σ} {e : Error}
      (hdrop : drop.statement = d.dropping table) (hstop : drop.answered = false) :
      DropCourse d (table :: rest) [drop] (.error e)
  | dropped {table : String} {rest : List String} {drop : Exchange σ} {sent : List (Exchange σ)}
      {r : Except Error Unit} (hdrop : drop.Drops d table) (hrest : DropCourse d rest sent r) :
      DropCourse d (table :: rest) (drop :: sent) r

namespace DropCourse

variable {d : Dialect} {tables : List String} {sent : List (Exchange σ)} {r : Except Error Unit}

/-- The course ends well exactly if every statement dropped its table. -/
theorem ok_iff (h : DropCourse d tables sent r) :
    r = .ok () ↔ List.Forall₂ (Exchange.Drops d) tables sent := by
  induction h with
  | finished => exact ⟨fun _ => .nil, fun _ => rfl⟩
  | blank hblank => constructor <;> (intro h; cases h)
  | refused hdrop hstop =>
    constructor
    · intro h
      cases h
    · intro hall
      cases hall with
      | cons hdrops _ =>
        rw [hdrops.answered] at hstop
        cases hstop
  | dropped hdrop hrest ih =>
    constructor
    · exact fun hr => .cons hdrop (ih.mp hr)
    · intro hall
      cases hall with
      | cons _ hrest => exact ih.mpr hrest

theorem length_le (h : DropCourse d tables sent r) : sent.length ≤ tables.length := by
  induction h with
  | finished => exact Nat.le_refl 0
  | blank hblank => exact Nat.zero_le _
  | refused hdrop hstop => exact Nat.succ_le_succ (Nat.zero_le _)
  | dropped hdrop hrest ih => exact Nat.succ_le_succ ih

/-- Nothing is sent but to drop one of the tables. -/
theorem mem_sent (h : DropCourse d tables sent r) {e : Exchange σ} (he : e ∈ sent) :
    ∃ table ∈ tables, e.statement = d.dropping table := by
  induction h with
  | finished => cases he
  | blank hblank => cases he
  | refused hdrop hstop =>
    obtain rfl := List.mem_singleton.mp he
    exact ⟨_, List.mem_cons_self, hdrop⟩
  | dropped hdrop hrest ih =>
    rcases List.mem_cons.mp he with rfl | he
    · exact ⟨_, List.mem_cons_self, hdrop.statement⟩
    · obtain ⟨table, htable, hstatement⟩ := ih he
      exact ⟨table, List.mem_cons_of_mem _ htable, hstatement⟩

/-- Where every table is named and every statement answered, all tables are dropped. -/
theorem of_answered (h : DropCourse d tables sent r)
    (hnamed : ∀ table ∈ tables, Text.trim table ≠ "") (hall : ∀ e ∈ sent, e.answered = true) :
    r = .ok () ∧ sent.map Exchange.statement = tables.map d.dropping := by
  induction h with
  | finished => exact ⟨rfl, rfl⟩
  | blank hblank => exact absurd hblank (hnamed _ List.mem_cons_self)
  | refused hdrop hstop =>
    rw [hall _ List.mem_cons_self] at hstop
    cases hstop
  | dropped hdrop hrest ih =>
    obtain ⟨hr, hstatements⟩ := ih (fun table h => hnamed table (List.mem_cons_of_mem _ h))
      fun e he => hall e (List.mem_cons_of_mem _ he)
    rw [List.map_cons, List.map_cons, hstatements, hdrop.statement]
    exact ⟨hr, rfl⟩

end DropCourse

namespace MigrationTarget

variable {t : MigrationTarget} {s s' : σ}

theorem runText_of_answered {sql : String} {output : Output}
    (h : b.answer (t.dialect.bound sql []) s = (.ok output, s')) :
    (t.runText sql).Yields b s [b.exchange (t.dialect.bound sql []) s] (.ok ()) s' :=
  (Session.yields_query h).bind (Session.yields_pure b () s')

theorem runText_of_refused {sql : String} {e : Error}
    (h : b.answer (t.dialect.bound sql []) s = (.error e, s')) :
    (t.runText sql).Yields b s [b.exchange (t.dialect.bound sql []) s] (.error e) s' :=
  (Session.yields_query h).bind_error

/-- Tables are dropped one by one in one of the courses. -/
theorem dropEach_course (b : Backend σ) (t : MigrationTarget) (tables : List String) (s : σ) :
    ∃ sent r s', (t.dropEach tables).Yields b s sent r s' ∧
      DropCourse t.dialect tables sent r := by
  induction tables generalizing s with
  | nil => exact ⟨[], .ok (), s, Session.yields_pure b () s, .finished⟩
  | cons table rest ih =>
    rw [dropEach]
    cases hsql : dropTable t.dialect table with
    | error e =>
      refine ⟨[], .error e, s, (Session.yields_ofExcept b _ s).bind_error, .blank ?_⟩
      by_contra hname
      have hdrop : SchemaPlan.sql t.dialect (.drop table) = .ok _ :=
        SchemaPlan.sql_ok_iff.mpr ⟨hname, trivial, rfl⟩
      cases hsql.symm.trans hdrop
    | ok sql =>
      obtain ⟨hname, htext⟩ := dropText_of_dropTable hsql
      have hread := Session.yields_ofExcept b (.ok sql) s
      rcases hanswer : b.answer (t.dialect.dropping table) s with ⟨reply, s₁⟩
      cases reply with
      | error e =>
        refine ⟨_, .error e, s₁, hread.bind ?_, .refused rfl
          (Backend.answered_exchange_of_error hanswer)⟩
        rw [htext]
        exact (runText_of_refused hanswer).bind_error
      | ok output =>
        obtain ⟨sent, r, s₂, hyields, hcourse⟩ := ih s₁
        refine ⟨_, r, s₂, hread.bind ?_, .dropped
          ⟨hname, rfl, Backend.answered_exchange_iff.mpr ⟨output, s₁, hanswer⟩⟩ hcourse⟩
        rw [htext]
        exact (runText_of_answered hanswer).bind hyields

/-! ## What is sent before tables are dropped -/

/-- Creates the ledger and reads what tables there are. -/
def inspect (t : MigrationTarget) : Session (List String) := do
  Ledger.ensure t.dialect
  t.userTables

/-- The database reports the tables. -/
def Reports (t : MigrationTarget) (b : Backend σ) (s : σ) (tables : List String) : Prop :=
  (t.inspect.run b s).1 = .ok tables

/-- The statements by which tables are read. -/
def inspection (t : MigrationTarget) : List BoundStatement :=
  [t.dialect.bound (Ledger.creation t.dialect) [],
    t.dialect.bound (tableListing t.dialect) t.listingParams]

/-- Clears the ledger, then applies the migrations. -/
def rebuild (t : MigrationTarget) (ms : List Migration) : Session Nat := do
  t.runText Ledger.clearing
  t.migrate ms

theorem fresh_eq (t : MigrationTarget) (ms : List Migration) :
    t.fresh ms = t.inspect >>= fun tables => t.dropAll tables >>= fun _ => t.rebuild ms := by
  rw [inspect, Session.bind_assoc]
  rfl

/-- Tables are read by both statements, or there is an error. -/
theorem inspect_yields (b : Backend σ) (t : MigrationTarget) (s : σ) :
    ∃ es r s', t.inspect.Yields b s es r s' ∧
      es.map Exchange.statement <+: t.inspection ∧
      ∀ tables, r = .ok tables → es.map Exchange.statement = t.inspection := by
  rcases hcreation : b.answer (t.dialect.bound (Ledger.creation t.dialect) []) s with ⟨reply, s₁⟩
  cases reply with
  | error e =>
    exact ⟨_, _, s₁, (Ledger.ensure_of_refused hcreation).bind_error, ⟨[_], rfl⟩, nofun⟩
  | ok output =>
    have hensured := Ledger.ensure_of_answered hcreation
    rcases hlisting : b.answer (t.dialect.bound (tableListing t.dialect) t.listingParams) s₁
      with ⟨reply, s₂⟩
    cases reply with
    | error e =>
      exact ⟨_, _, s₂, hensured.bind (Session.yields_query hlisting).bind_error,
        List.prefix_rfl, nofun⟩
    | ok output =>
      exact ⟨_, _, s₂, hensured.bind ((Session.yields_query hlisting).bind
        (Session.yields_ofExcept b (Ledger.column "name" output.toRows) s₂)), List.prefix_rfl,
        fun _ _ => rfl⟩

end MigrationTarget

/-! ## The foreign keys of SQLite -/

/-- The courses of dropping all tables of a SQLite database: the foreign keys cannot be switched
off, a table cannot be dropped, or all are dropped and the foreign keys are switched on. -/
inductive SwitchCourse (tables : List String) :
    List (Exchange σ) → Except Error Unit → Prop
  | locked {off : Exchange σ} {e : Error} (hoff : off.statement = foreignKeys false)
      (hstop : off.answered = false) : SwitchCourse tables [off] (.error e)
  | stopped {off : Exchange σ} {drops : List (Exchange σ)} {e : Error}
      (hoff : off.statement = foreignKeys false)
      (hdrops : DropCourse .sqlite tables drops (.error e)) :
      SwitchCourse tables (off :: drops) (.error e)
  | restored {off on : Exchange σ} {drops : List (Exchange σ)} {r : Except Error Unit}
      (hoff : off.statement = foreignKeys false) (hdone : off.answered = true)
      (hdrops : DropCourse .sqlite tables drops (.ok ()))
      (hon : on.statement = foreignKeys true) :
      SwitchCourse tables (off :: (drops ++ [on])) r

namespace MigrationTarget

variable {t : MigrationTarget} {s s' : σ} {tables : List String}

theorem dropAll_course (hsqlite : t.dialect = .sqlite) (hne : tables ≠ []) (b : Backend σ)
    (s : σ) : ∃ sent r s', (t.dropAll tables).Yields b s sent r s' ∧
      SwitchCourse tables sent r := by
  obtain ⟨_, database⟩ := t
  obtain rfl : _ = Dialect.sqlite := hsqlite
  rw [dropAll, if_neg (by simpa using hne)]
  rcases hoff : b.answer (foreignKeys false) s with ⟨reply, s₁⟩
  cases reply with
  | error e =>
    exact ⟨_, _, s₁, (runText_of_refused hoff).bind_error,
      .locked rfl (Backend.answered_exchange_of_error hoff)⟩
  | ok output =>
    have hdone := Backend.answered_exchange_iff.mpr ⟨output, s₁, hoff⟩
    obtain ⟨drops, r, s₂, hdrops, hcourse⟩ := dropEach_course b ⟨.sqlite, database⟩ tables s₁
    cases r with
    | error e =>
      exact ⟨_, _, s₂, (runText_of_answered hoff).bind hdrops.bind_error, .stopped rfl hcourse⟩
    | ok u =>
      rcases hon : b.answer (foreignKeys true) s₂ with ⟨reply, s₃⟩
      cases reply with
      | error e =>
        exact ⟨_, _, s₃, (runText_of_answered hoff).bind (hdrops.bind
          (runText_of_refused hon).bind_error), .restored rfl hdone hcourse rfl⟩
      | ok output =>
        exact ⟨_, _, _, (runText_of_answered hoff).bind (hdrops.bind
          ((runText_of_answered hon).bind (Session.yields_note b _ _ s₃))),
          .restored rfl hdone hcourse rfl⟩

/-- Behind the statement that switches the foreign keys off, they are switched on again exactly
if it was answered and every table could be dropped. -/
theorem dropAll_restores_iff {α : Type} (hsqlite : t.dialect = .sqlite) (hne : tables ≠ [])
    {f : Unit → Session α} {off : Exchange σ} {rest : List (Exchange σ)}
    (hsent : (t.dropAll tables >>= f).exchanges b s = off :: rest) :
    ((∃ on ∈ rest, on.statement = foreignKeys true) ↔
        off.answered = true ∧
          List.Forall₂ (Exchange.Drops .sqlite) tables (rest.take tables.length)) ∧
      ((∀ on ∈ rest, on.statement ≠ foreignKeys true) →
        ∃ e, ((t.dropAll tables >>= f).run b s).1 = .error e) := by
  obtain ⟨sent, r, s₁, hyields, hcourse⟩ := dropAll_course hsqlite hne b s
  have hstop : ∀ {e}, r = .error e → sent = off :: rest ∧
      ∃ e, ((t.dropAll tables >>= f).run b s).1 = .error e := by
    rintro e rfl
    have hall := hyields.bind_error (f := f)
    exact ⟨hall.exchanges_eq.symm.trans hsent, e, congrArg Prod.fst hall.run_eq⟩
  cases hcourse with
  | locked hoff hrefused =>
    obtain ⟨heq, herror⟩ := hstop rfl
    obtain ⟨rfl, rfl⟩ := List.cons.inj heq
    refine ⟨iff_of_false ?_ ?_, fun _ => herror⟩
    · rintro ⟨_, hmem, _⟩
      cases hmem
    · rintro ⟨hdone, _⟩
      rw [hrefused] at hdone
      cases hdone
  | stopped hoff hdrops =>
    obtain ⟨heq, herror⟩ := hstop rfl
    obtain ⟨rfl, rfl⟩ := List.cons.inj heq
    refine ⟨iff_of_false ?_ ?_, fun _ => herror⟩
    · rintro ⟨on, hmem, hon⟩
      obtain ⟨table, _, hdrop⟩ := hdrops.mem_sent hmem
      exact dropping_ne_foreignKeys table true (hdrop.symm.trans hon)
    · rw [List.take_of_length_le hdrops.length_le]
      intro h
      cases hdrops.ok_iff.mpr h.2
  | @restored off on drops r hoff hdone hdrops hon =>
    obtain ⟨after, hall⟩ := hyields.exchanges_bind (f := f)
    rw [hsent, List.cons_append, List.append_assoc] at hall
    obtain ⟨rfl, rfl⟩ := List.cons.inj hall
    have hmem : on ∈ drops ++ ([on] ++ after) := by simp
    have hdropped := hdrops.ok_iff.mp rfl
    refine ⟨iff_of_true ⟨on, hmem, hon⟩ ⟨hdone, ?_⟩, fun hnone => absurd hon (hnone on hmem)⟩
    rw [hdropped.length_eq, List.take_left]
    exact hdropped

/-- Where a fresh start on SQLite switches the foreign keys off, which it does behind the two
statements that read the tables, it switches them on again exactly if this was answered and every
table could be dropped. Otherwise it ends with an error. -/
theorem fresh_restores_iff (hsqlite : t.dialect = .sqlite) (ms : List Migration)
    {create list off : Exchange σ} {rest : List (Exchange σ)}
    (hsent : (t.fresh ms).exchanges b s = create :: list :: off :: rest)
    (hoff : off.statement = foreignKeys false) :
    ∃ tables, t.Reports b s tables ∧
      ((∃ on ∈ rest, on.statement = foreignKeys true) ↔
        off.answered = true ∧
          List.Forall₂ (Exchange.Drops .sqlite) tables (rest.take tables.length)) ∧
      ((∀ on ∈ rest, on.statement ≠ foreignKeys true) →
        ∃ e, ((t.fresh ms).run b s).1 = .error e) := by
  obtain ⟨es, r, s₁, hinspect, hprefix, hstatements⟩ := inspect_yields b t s
  rw [fresh_eq] at hsent ⊢
  cases r with
  | error e =>
    have hlength := hprefix.length_le
    rw [List.length_map, ← hinspect.bind_error.exchanges_eq, hsent] at hlength
    exact absurd hlength (by simp [inspection])
  | ok tables =>
    have hall := hinspect.bind (f := fun tables => t.dropAll tables >>= fun _ => t.rebuild ms)
      (Session.yields_self b (t.dropAll tables >>= fun _ => t.rebuild ms) s₁)
    have htwo : es.length = 2 := by
      rw [← List.length_map, hstatements tables rfl]
      rfl
    obtain ⟨_, _, rfl⟩ := List.length_eq_two.mp htwo
    obtain ⟨_, hsent⟩ := List.cons.inj (hall.exchanges_eq.symm.trans hsent)
    obtain ⟨_, hsent⟩ := List.cons.inj hsent
    refine ⟨tables, congrArg Prod.fst hinspect.run_eq, ?_⟩
    rw [hall.run_eq]
    refine dropAll_restores_iff hsqlite ?_ hsent
    -- Without tables the ledger is cleared next.
    rintro rfl
    obtain ⟨rfl, _⟩ := List.cons.inj hsent
    obtain ⟨_, database⟩ := t
    obtain rfl : _ = Dialect.sqlite := hsqlite
    have hclearing : Ledger.clearing ≠ (foreignKeys false).sql := by decide
    exact hclearing (congrArg BoundStatement.sql hoff)

end MigrationTarget

namespace Store

/-- Where both tables of a library can be dropped, the foreign keys are switched on again. -/
theorem fresh_restores_iff_library :
    ∃ create list off rest,
      (target.fresh []).exchanges (database .sqlite ["books", "loans"] fun _ => false) emptyStore =
        create :: list :: off :: rest ∧
      off.statement = foreignKeys false ∧ ∃ on ∈ rest, on.statement = foreignKeys true := by
  refine ⟨_, _, _, _, rfl, rfl, ?_⟩
  obtain ⟨tables, hreports, hrestores, _⟩ := MigrationTarget.fresh_restores_iff (t := target)
    (b := database .sqlite ["books", "loans"] fun _ => false) (s := emptyStore) rfl [] rfl rfl
  obtain rfl : ["books", "loans"] = tables := Except.ok.inj hreports
  refine hrestores.mpr ⟨rfl, .cons ⟨?_, rfl, rfl⟩ (.cons ⟨?_, rfl, rfl⟩ .nil)⟩
  · decide
  · decide

/-- Refuses to drop the table of books. -/
def keepsBooks (statement : BoundStatement) : Bool :=
  statement.sql == "DROP TABLE IF EXISTS \"books\""

/-- Where a table cannot be dropped, the foreign keys stay off. -/
theorem fresh_leaves_foreignKeys_off :
    ∃ create list off drop,
      (target.fresh []).exchanges (database .sqlite ["books", "loans"] keepsBooks) emptyStore =
        [create, list, off, drop] ∧
      off.statement = foreignKeys false ∧ drop.statement = Dialect.sqlite.dropping "books" ∧
      drop.statement ≠ foreignKeys true ∧
      ((target.fresh []).run (database .sqlite ["books", "loans"] keepsBooks) emptyStore).1 =
        .error (.driver "refused") :=
  ⟨_, _, _, _, rfl, rfl, rfl, dropping_ne_foreignKeys "books" true, rfl⟩

end Store

end FluentSql
