import FluentSql.Proofs.Calls
import FluentSql.Schema.Plan

/-!
# What a plan writes

Each call of a plan adds what it says, whatever was there before it. So a plan has a text
exactly if its table is named, none of its calls is refused and a new table gets a column,
and its text is a list of pieces that follows from the calls.
-/

namespace FluentSql

namespace SchemaPiece

theorem renderAll_cons (d : Dialect) (p : SchemaPiece) (ps : List SchemaPiece) :
    renderAll d (p :: ps) = p.render d ++ renderAll d ps := rfl

theorem renderAll_append (d : Dialect) (ps qs : List SchemaPiece) :
    renderAll d (ps ++ qs) = renderAll d ps ++ renderAll d qs := by
  induction ps with
  | nil => exact String.empty_append.symm
  | cons p ps ih =>
    show p.render d ++ renderAll d (ps ++ qs) = p.render d ++ renderAll d ps ++ renderAll d qs
    rw [ih, String.append_assoc]

theorem separate_cons_cons (separator : String) (part next : List SchemaPiece)
    (rest : List (List SchemaPiece)) :
    separate separator (part :: next :: rest) =
      part ++ .verbatim separator :: separate separator (next :: rest) := rfl

/-- The lists with `separator` in front of each of them. -/
def led (separator : String) (parts : List (List SchemaPiece)) : List SchemaPiece :=
  parts.flatMap (.verbatim separator :: ·)

theorem led_append (separator : String) (ps qs : List (List SchemaPiece)) :
    led separator (ps ++ qs) = led separator ps ++ led separator qs :=
  List.flatMap_append

/-- Behind the first list each further one follows its separator. -/
theorem separate_cons (separator : String) (part : List SchemaPiece)
    (rest : List (List SchemaPiece)) :
    separate separator (part :: rest) = part ++ led separator rest := by
  induction rest generalizing part with
  | nil => exact (List.append_nil part).symm
  | cons next rest ih =>
    rw [separate_cons_cons, ih]
    rfl

theorem led_eq (separator : String) {parts : List (List SchemaPiece)} (h : parts ≠ []) :
    led separator parts = .verbatim separator :: separate separator parts := by
  cases parts with
  | nil => exact absurd rfl h
  | cons part rest =>
    rw [separate_cons]
    rfl

theorem separate_append (separator : String) {ps : List (List SchemaPiece)} (h : ps ≠ [])
    (qs : List (List SchemaPiece)) :
    separate separator (ps ++ qs) = separate separator ps ++ led separator qs := by
  cases ps with
  | nil => exact absurd rfl h
  | cons p ps => rw [List.cons_append, separate_cons, separate_cons, led_append, List.append_assoc]

theorem renderAll_separate (d : Dialect) (separator : String) (parts : List (List SchemaPiece)) :
    renderAll d (separate separator parts) =
      Text.joinWith separator (parts.map (renderAll d)) := by
  induction parts with
  | nil => rfl
  | cons part rest ih =>
    cases rest with
    | nil => rfl
    | cons next rest =>
      rw [separate_cons_cons, renderAll_append]
      show renderAll d part ++ (separator ++ renderAll d (separate separator (next :: rest))) = _
      rw [ih, ← String.append_assoc]
      rfl

end SchemaPiece

open SchemaPiece

theorem schemaTable_ok_iff {raw table : String} :
    schemaTable raw = .ok table ↔ Text.trim raw ≠ "" ∧ table = Text.trim raw := by
  unfold schemaTable
  dsimp only
  split
  · next hblank => exact ⟨nofun, fun h => absurd hblank h.1⟩
  · next hname => exact ⟨fun h => ⟨hname, (Except.ok.inj h).symm⟩, fun h => congrArg _ h.2.symm⟩

namespace TableCall

/-- The entries that a call adds between the parentheses. -/
def items : TableCall → List TableItem
  | .id => [.column "id" .key]
  | .timestamps => [.column "created_at" .creationTime, .column "updated_at" .updateTime]
  | .softDeletes => [.column "deleted_at" .deletionTime]
  | .column kind name options => [.column name (.typed kind options)]
  | .foreign referring target => [.foreign referring target]
  | .primary columns => if columns.isEmpty then [] else [.primary columns]
  | .index _ => []
  | .raise _ => []

/-- The columns that a call asks an index for. -/
def indexed : TableCall → List String
  | .index indexed => [indexed]
  | _ => []

/-- The description goes on behind the call. -/
def Goes : TableCall → Prop
  | .raise _ => False
  | _ => True

end TableCall

namespace TableDefinition

theorem start_ok_iff {raw : String} {t : TableDefinition} :
    start raw = .ok t ↔ Text.trim raw ≠ "" ∧ t = ⟨Text.trim raw, [], []⟩ := by
  rw [start, bind_ok_iff]
  constructor
  · rintro ⟨table, htable, ht⟩
    obtain ⟨hname, rfl⟩ := schemaTable_ok_iff.mp htable
    exact ⟨hname, (Except.ok.inj ht).symm⟩
  · rintro ⟨hname, rfl⟩
    exact ⟨_, schemaTable_ok_iff.mpr ⟨hname, rfl⟩, rfl⟩

/-- The table with what a call adds. -/
def extend (t : TableDefinition) (call : TableCall) : TableDefinition :=
  ⟨t.table, t.items ++ call.items, t.indexed ++ call.indexed⟩

theorem apply_ok_iff {t t' : TableDefinition} {call : TableCall} :
    t.apply call = .ok t' ↔ call.Goes ∧ t' = t.extend call := by
  have hgoes : ∀ next, t.apply call = .ok next → next = t.extend call → call.Goes →
      (t.apply call = .ok t' ↔ call.Goes ∧ t' = t.extend call) := by
    rintro next happly rfl hcall
    rw [happly]
    exact ⟨fun h => ⟨hcall, (Except.ok.inj h).symm⟩, fun h => congrArg _ h.2.symm⟩
  cases call with
  | raise e => exact ⟨nofun, fun h => h.1.elim⟩
  | primary columns =>
    refine hgoes _ rfl ?_ trivial
    cases columns with
    | nil => simp [extend, TableCall.items, TableCall.indexed]
    | cons c columns => simp [extend, addItems, TableCall.items, TableCall.indexed]
  | index column =>
    refine hgoes _ rfl ?_ trivial
    rw [extend, TableCall.items, List.append_nil]
    rfl
  | _ => exact hgoes _ rfl (congrArg (mk _ _) (List.append_nil _).symm) trivial

theorem foldl_extend (t : TableDefinition) (calls : List TableCall) :
    calls.foldl extend t = ⟨t.table, t.items ++ calls.flatMap TableCall.items,
      t.indexed ++ calls.flatMap TableCall.indexed⟩ := by
  induction calls generalizing t with
  | nil => simp
  | cons call calls ih => simp [ih, extend, List.append_assoc]

theorem applyAll_ok_iff {t t' : TableDefinition} {calls : List TableCall} :
    t.applyAll calls = .ok t' ↔ (∀ call ∈ calls, call.Goes) ∧
      t' = ⟨t.table, t.items ++ calls.flatMap TableCall.items,
        t.indexed ++ calls.flatMap TableCall.indexed⟩ := by
  rw [← foldl_extend]
  have hstep : ∀ (t : TableDefinition) (call : TableCall) (t' : TableDefinition),
      t.apply call = .ok t' ↔ call.Goes ∧ t' = t.extend call := fun _ _ _ => apply_ok_iff
  exact Calls.applyAll_ok_iff hstep

theorem sql_ok_iff {d : Dialect} {table : String} {calls : List TableCall}
    {indexed : List String} {text : String} :
    sql d ⟨table, calls.flatMap TableCall.items, indexed⟩ = .ok text ↔
      (∃ call ∈ calls, call.items.any TableItem.isColumn = true) ∧
        text = renderAll d (pieces d ⟨table, calls.flatMap TableCall.items, indexed⟩) := by
  rw [← List.any_eq_true, ← List.any_flatMap, sql]
  split
  · next h => exact ⟨fun htext => ⟨h, (Except.ok.inj htext).symm⟩, fun ht => congrArg _ ht.2.symm⟩
  · next h => exact ⟨nofun, fun ht => absurd ht.1 h⟩

end TableDefinition

namespace AlterationCall

/-- The statements that a call adds. -/
def statements (d : Dialect) (table : String) (call : AlterationCall) :
    List (List SchemaPiece) :=
  match Alteration.statementsOf d table call with
  | .ok added => added
  | .error _ => []

/-- The dialect can do what the call asks, an index is asked for some column, and the
description goes on behind the call. -/
def Goes (d : Dialect) : AlterationCall → Prop
  | .addColumn .. => True
  | .modifyColumn .. => d ≠ .sqlite
  | .dropColumn _ => True
  | .addIndex _ columns => columns ≠ []
  | .dropIndex _ => True
  | .addForeignKey .. => d ≠ .sqlite
  | .raise _ => False

theorem statementsOf_ok_iff {d : Dialect} {table : String} {call : AlterationCall}
    {added : List (List SchemaPiece)} :
    Alteration.statementsOf d table call = .ok added ↔
      call.Goes d ∧ added = call.statements d table := by
  unfold statements
  cases hcall : Alteration.statementsOf d table call with
  | ok found =>
    have hgoes : call.Goes d := by
      cases call with
      | modifyColumn name type o =>
        rintro rfl
        cases hcall
      | addIndex name columns =>
        rintro rfl
        cases hcall
      | addForeignKey name column target =>
        rintro rfl
        cases hcall
      | raise e => cases hcall
      | _ => trivial
    exact ⟨fun h => ⟨hgoes, (Except.ok.inj h).symm⟩, fun h => congrArg _ h.2.symm⟩
  | error e =>
    refine ⟨nofun, fun h => absurd h.1 ?_⟩
    cases call with
    | modifyColumn name type o =>
      cases d with
      | sqlite => exact fun hgoes => hgoes rfl
      | mySql => cases hcall
      | postgreSql => cases hcall
    | addIndex name columns =>
      cases columns with
      | nil => exact fun hgoes => hgoes rfl
      | cons c columns => cases hcall
    | addForeignKey name column target =>
      cases d with
      | sqlite => exact fun hgoes => hgoes rfl
      | mySql => cases hcall
      | postgreSql => cases hcall
    | raise e => exact id
    | _ => cases hcall

end AlterationCall

namespace Alteration

variable {d : Dialect}

theorem start_ok_iff {raw : String} {a : Alteration} :
    start raw = .ok a ↔ Text.trim raw ≠ "" ∧ a = ⟨Text.trim raw, []⟩ := by
  rw [start, bind_ok_iff]
  constructor
  · rintro ⟨table, htable, ha⟩
    obtain ⟨hname, rfl⟩ := schemaTable_ok_iff.mp htable
    exact ⟨hname, (Except.ok.inj ha).symm⟩
  · rintro ⟨hname, rfl⟩
    exact ⟨_, schemaTable_ok_iff.mpr ⟨hname, rfl⟩, rfl⟩

/-- The change with what a call adds. -/
def extend (d : Dialect) (a : Alteration) (call : AlterationCall) : Alteration :=
  ⟨a.table, a.statements ++ call.statements d a.table⟩

theorem apply_ok_iff {a a' : Alteration} {call : AlterationCall} :
    a.apply d call = .ok a' ↔ call.Goes d ∧ a' = a.extend d call := by
  constructor
  · intro h
    obtain ⟨added, hadded, h⟩ := ok_of_bind h
    obtain ⟨hgoes, rfl⟩ := AlterationCall.statementsOf_ok_iff.mp hadded
    exact ⟨hgoes, (Except.ok.inj h).symm⟩
  · rintro ⟨hgoes, rfl⟩
    have hadded : statementsOf d a.table call = .ok (call.statements d a.table) :=
      AlterationCall.statementsOf_ok_iff.mpr ⟨hgoes, rfl⟩
    rw [apply, hadded]
    rfl

theorem foldl_extend (a : Alteration) (calls : List AlterationCall) :
    calls.foldl (extend d) a =
      ⟨a.table, a.statements ++ calls.flatMap (AlterationCall.statements d a.table)⟩ := by
  induction calls generalizing a with
  | nil => simp
  | cons call calls ih => simp [ih, extend, List.append_assoc]

theorem applyAll_ok_iff {a a' : Alteration} {calls : List AlterationCall} :
    a.applyAll d calls = .ok a' ↔ (∀ call ∈ calls, call.Goes d) ∧
      a' = ⟨a.table, a.statements ++ calls.flatMap (AlterationCall.statements d a.table)⟩ := by
  rw [← foldl_extend]
  have hstep : ∀ (a : Alteration) (call : AlterationCall) (a' : Alteration),
      a.apply d call = .ok a' ↔ call.Goes d ∧ a' = a.extend d call := fun _ _ _ => apply_ok_iff
  exact Calls.applyAll_ok_iff hstep

end Alteration

namespace SchemaPlan

def table : SchemaPlan → String
  | .create table _ => table
  | .alter table _ => table
  | .drop table => table

/-- What is asked of a plan apart from the name of its table. -/
def Goes (d : Dialect) : SchemaPlan → Prop
  | .create _ calls => (∀ call ∈ calls, call.Goes) ∧
      ∃ call ∈ calls, call.items.any TableItem.isColumn = true
  | .alter _ calls => ∀ call ∈ calls, call.Goes d
  | .drop _ => True

/-- A change of the calls that keeps whether each of them goes on and whether it adds a column
keeps what is asked of the plan. -/
theorem goes_create_map {f : TableCall → TableCall} (hgoes : ∀ call, (f call).Goes ↔ call.Goes)
    (hcolumn : ∀ call, (f call).items.any TableItem.isColumn = call.items.any TableItem.isColumn)
    (d : Dialect) (table table' : String) (calls : List TableCall) :
    (create table' (calls.map f)).Goes d ↔ (create table calls).Goes d := by
  have hcalls : (∀ call ∈ calls.map f, call.Goes) ↔ ∀ call ∈ calls, call.Goes := by
    simp only [List.forall_mem_map, hgoes]
  have hany : (calls.map f).any (fun call => call.items.any TableItem.isColumn) =
      calls.any (fun call => call.items.any TableItem.isColumn) := by
    rw [List.any_map]
    exact congrArg calls.any (funext hcolumn)
  refine and_congr hcalls ?_
  rw [← List.any_eq_true, ← List.any_eq_true, hany]

/-- The pieces of the text of a plan. -/
def pieces (d : Dialect) : SchemaPlan → List SchemaPiece
  | .create table calls => TableDefinition.pieces d
      ⟨Text.trim table, calls.flatMap TableCall.items, calls.flatMap TableCall.indexed⟩
  | .alter table calls =>
    separate "; " (calls.flatMap (AlterationCall.statements d (Text.trim table)))
  | .drop table => [.verbatim "DROP TABLE IF EXISTS ", .identifier (Text.trim table)]

theorem sql_ok_iff {d : Dialect} {plan : SchemaPlan} {text : String} :
    plan.sql d = .ok text ↔
      Text.trim plan.table ≠ "" ∧ plan.Goes d ∧ text = renderAll d (plan.pieces d) := by
  cases plan with
  | create table calls =>
    have hsql : SchemaPlan.sql d (.create table calls) = .ok text ↔
        ∃ start, TableDefinition.start table = .ok start ∧
          ∃ t, start.applyAll calls = .ok t ∧ t.sql d = .ok text := by
      rw [SchemaPlan.sql, bind_ok_iff]
      simp only [bind_ok_iff]
    rw [hsql]
    constructor
    · rintro ⟨start, hstart, t, ht, htext⟩
      obtain ⟨hname, rfl⟩ := TableDefinition.start_ok_iff.mp hstart
      obtain ⟨hgoes, rfl⟩ := TableDefinition.applyAll_ok_iff.mp ht
      obtain ⟨hcolumn, htext⟩ := TableDefinition.sql_ok_iff.mp htext
      exact ⟨hname, ⟨hgoes, hcolumn⟩, htext⟩
    · rintro ⟨hname, ⟨hgoes, hcolumn⟩, htext⟩
      exact ⟨_, TableDefinition.start_ok_iff.mpr ⟨hname, rfl⟩, _,
        TableDefinition.applyAll_ok_iff.mpr ⟨hgoes, rfl⟩,
        TableDefinition.sql_ok_iff.mpr ⟨hcolumn, htext⟩⟩
  | alter table calls =>
    have hsql : SchemaPlan.sql d (.alter table calls) = .ok text ↔
        ∃ start, Alteration.start table = .ok start ∧
          ∃ a, start.applyAll d calls = .ok a ∧ a.sql d = text := by
      rw [SchemaPlan.sql, bind_ok_iff]
      simp only [bind_ok_iff]
      exact exists_congr fun _ => and_congr_right fun _ => exists_congr fun _ =>
        and_congr_right fun _ => ⟨Except.ok.inj, congrArg Except.ok⟩
    rw [hsql, pieces, renderAll_separate]
    constructor
    · rintro ⟨start, hstart, a, ha, rfl⟩
      obtain ⟨hname, rfl⟩ := Alteration.start_ok_iff.mp hstart
      obtain ⟨hgoes, rfl⟩ := Alteration.applyAll_ok_iff.mp ha
      exact ⟨hname, hgoes, rfl⟩
    · rintro ⟨hname, hgoes, rfl⟩
      exact ⟨_, Alteration.start_ok_iff.mpr ⟨hname, rfl⟩, _,
        Alteration.applyAll_ok_iff.mpr ⟨hgoes, rfl⟩, rfl⟩
  | drop table =>
    constructor
    · intro h
      obtain ⟨name, hname, htext⟩ := ok_of_bind h
      obtain ⟨hne, rfl⟩ := schemaTable_ok_iff.mp hname
      exact ⟨hne, trivial, (Except.ok.inj htext).symm⟩
    · rintro ⟨hne, _, rfl⟩
      exact bind_ok_iff.mpr ⟨_, schemaTable_ok_iff.mpr ⟨hne, rfl⟩, rfl⟩

end SchemaPlan

end FluentSql
