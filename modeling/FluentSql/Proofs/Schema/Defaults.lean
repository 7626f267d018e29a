import FluentSql.Proofs.Schema.Plan
import Mathlib.Data.List.Basic

/-!
# Blank defaults

A default of white space is as good as none wherever the options of a column are written in
one piece. On PostgreSQL a column that is modified has its properties set one by one, and there
a blank default is set as any other. So a plan is written as without its blank defaults exactly
if it does not come to that, and it is refused in the same cases and with the same error.
-/

namespace FluentSql

open SchemaPiece

/-! ## Plans without their blank defaults -/

def ColumnOptions.cleared (o : ColumnOptions) : ColumnOptions :=
  { o with initial := o.initial? }

def TableCall.cleared : TableCall → TableCall
  | .column kind name options => .column kind name options.cleared
  | call => call

def AlterationCall.cleared : AlterationCall → AlterationCall
  | .addColumn name type options => .addColumn name type options.cleared
  | .modifyColumn name type options => .modifyColumn name type options.cleared
  | call => call

/-- The plan with no default where a blank one was given. -/
def SchemaPlan.cleared : SchemaPlan → SchemaPlan
  | .create table calls => .create table (calls.map TableCall.cleared)
  | .alter table calls => .alter table (calls.map AlterationCall.cleared)
  | .drop table => .drop table

/-- The call modifies a column and gives it this default, which is blank. -/
def AlterationCall.BlankDefault (blank : String) : AlterationCall → Prop
  | .modifyColumn _ _ options => options.initial = some blank ∧ Text.isBlankText blank = true
  | _ => False

/-- On PostgreSQL the plan gives a blank default to a column that it modifies. -/
def SchemaPlan.SetsBlank (d : Dialect) : SchemaPlan → Prop
  | .alter _ calls => d = .postgreSql ∧ ∃ call ∈ calls, ∃ blank, call.BlankDefault blank
  | _ => False

namespace ColumnOptions

theorem initial?_cleared (o : ColumnOptions) : o.cleared.initial? = o.initial? := by
  unfold cleared initial?
  rw [Option.filter_filter]
  simp only [Bool.and_self]

theorem sql_cleared (o : ColumnOptions) : o.cleared.sql = o.sql := by
  unfold sql
  rw [initial?_cleared]
  rfl

theorem cleared_of_blank {o : ColumnOptions} {blank : String} (hinitial : o.initial = some blank)
    (hblank : Text.isBlankText blank = true) : o.cleared = { o with initial := none } := by
  have hnone : o.initial? = none := by
    rw [initial?, hinitial, Option.filter_some, hblank]
    rfl
  rw [cleared, hnone]

theorem cleared_of_not_blank {o : ColumnOptions}
    (h : ∀ blank, o.initial = some blank → Text.isBlankText blank ≠ true) : o.cleared = o := by
  have hkept : o.initial? = o.initial := by
    unfold initial?
    cases hinitial : o.initial with
    | none => rfl
    | some expression => rw [Option.filter_some, if_pos (by simpa using h expression hinitial)]
  rw [cleared, hkept]

end ColumnOptions

/-! ## New tables -/

namespace TableCall

theorem goes_cleared (call : TableCall) : call.cleared.Goes ↔ call.Goes := by
  cases call <;> exact Iff.rfl

theorem indexed_cleared (call : TableCall) : call.cleared.indexed = call.indexed := by
  cases call <;> rfl

theorem pieces_cleared (d : Dialect) (call : TableCall) :
    call.cleared.items.map (TableItem.pieces d) = call.items.map (TableItem.pieces d) := by
  cases call with
  | column kind name options =>
    show [[SchemaPiece.identifier name, .verbatim (" " ++ (kind.sql d ++ options.cleared.sql))]] = _
    rw [options.sql_cleared]
    rfl
  | _ => rfl

theorem anyColumn_cleared (call : TableCall) :
    call.cleared.items.any TableItem.isColumn = call.items.any TableItem.isColumn := by
  cases call <;> rfl

end TableCall

namespace TableDefinition

/-- The same as far as errors are concerned. -/
def Like (t t' : TableDefinition) : Prop :=
  t.table = t'.table ∧ t.items.any TableItem.isColumn = t'.items.any TableItem.isColumn

theorem apply_cleared {t t' : TableDefinition} (h : Like t t') (call : TableCall) :
    Alike Like (t.apply call) (t'.apply call.cleared) := by
  have hadd : ∀ items items' : List TableItem,
      items.any TableItem.isColumn = items'.any TableItem.isColumn →
      Alike Like (.ok (t.addItems items)) (.ok (t'.addItems items')) := by
    intro items items' hitems
    refine .ok ⟨h.1, ?_⟩
    rw [addItems, addItems, List.any_append, List.any_append, h.2, hitems]
  cases call with
  | raise e => exact .error e
  | index column => exact .ok h
  | primary columns =>
    cases columns with
    | nil => exact .ok h
    | cons column columns => exact hadd _ _ rfl
  | _ => exact hadd _ _ rfl

end TableDefinition

/-! ## Changes of tables -/

namespace AlterationCall

theorem goes_cleared (d : Dialect) (call : AlterationCall) : call.cleared.Goes d ↔ call.Goes d := by
  cases call <;> exact Iff.rfl

theorem statementsOf_cleared (d : Dialect) (table : String) (call : AlterationCall) :
    Alike (fun _ _ => True) (Alteration.statementsOf d table call)
      (Alteration.statementsOf d table call.cleared) := by
  cases call with
  | modifyColumn name type o =>
    cases d with
    | sqlite => exact .error _
    | mySql => exact .ok trivial
    | postgreSql => exact .ok trivial
  | addIndex name columns =>
    cases columns with
    | nil => exact .error _
    | cons column columns => exact .ok trivial
  | addForeignKey name column target =>
    cases d with
    | sqlite => exact .error _
    | mySql => exact .ok trivial
    | postgreSql => exact .ok trivial
  | raise e => exact .error e
  | _ => exact .ok trivial

/-- Where no property is set by itself, a blank default is not written. -/
theorem statements_cleared {d : Dialect} {call : AlterationCall}
    (h : ¬(d = .postgreSql ∧ ∃ blank, call.BlankDefault blank)) (table : String) :
    call.cleared.statements d table = call.statements d table := by
  cases call with
  | addColumn name type o =>
    show [Alteration.alter table (Alteration.onColumn _ name (" " ++ type ++ o.cleared.sql))] = _
    rw [o.sql_cleared]
    rfl
  | modifyColumn name type o =>
    cases d with
    | mySql =>
      show [Alteration.alter table (Alteration.onColumn _ name (" " ++ type ++ o.cleared.sql))] = _
      rw [o.sql_cleared]
      rfl
    | sqlite => rfl
    | postgreSql =>
      have hkept : o.cleared = o :=
        ColumnOptions.cleared_of_not_blank fun blank hinitial hblank =>
          h ⟨rfl, blank, hinitial, hblank⟩
      rw [cleared, hkept]
  | _ => rfl

/-- On PostgreSQL a blank default has a statement of its own behind the two for the type and
for NULL. -/
theorem statements_blank (name type : String) {blank : String} {o : ColumnOptions}
    (hinitial : o.initial = some blank) (hblank : Text.isBlankText blank = true)
    (table : String) :
    ∃ properties constraint,
      (modifyColumn name type o).cleared.statements .postgreSql table =
        properties ++ constraint ∧ properties ≠ [] ∧
      (modifyColumn name type o).statements .postgreSql table =
        properties ++ Alteration.alter table (Alteration.onColumn "ALTER COLUMN " name
          (" SET DEFAULT " ++ blank)) :: constraint := by
  rw [cleared, ColumnOptions.cleared_of_blank hinitial hblank]
  obtain ⟨nullable, initial, unique⟩ := o
  obtain rfl : initial = some blank := hinitial
  exact ⟨[_, _], _, rfl, List.cons_ne_nil _ _, rfl⟩

end AlterationCall

namespace Alteration

theorem apply_cleared (d : Dialect) {a a' : Alteration} (h : a.table = a'.table)
    (call : AlterationCall) :
    Alike (fun b b' : Alteration => b.table = b'.table) (a.apply d call)
      (a'.apply d call.cleared) := by
  unfold apply
  rw [← h]
  exact (call.statementsOf_cleared d a.table).bind fun _ _ _ => .ok rfl

end Alteration

/-! ## The length of schema text -/

/-- The length of the statements, each behind a separator. -/
def SchemaPiece.extent (d : Dialect) (statements : List (List SchemaPiece)) : Nat :=
  (renderAll d (led "; " statements)).length

theorem SchemaPiece.extent_append (d : Dialect) (ps qs : List (List SchemaPiece)) :
    extent d (ps ++ qs) = extent d ps + extent d qs := by
  rw [extent, led_append, renderAll_append, String.length_append]
  rfl

theorem SchemaPiece.extent_insert (d : Dialect) (ps qs : List (List SchemaPiece))
    (statement : List SchemaPiece) : extent d (ps ++ qs) < extent d (ps ++ statement :: qs) := by
  have hlead : 0 < "; ".length := by decide
  have hstatement : 0 < extent d [statement] := by
    rw [extent, led, List.flatMap_cons, List.cons_append, renderAll_cons, render,
      String.length_append]
    omega
  have hsplit : extent d (statement :: qs) = extent d [statement] + extent d qs :=
    extent_append d [statement] qs
  rw [extent_append, extent_append, hsplit]
  omega

namespace AlterationCall

theorem extent_blank {call : AlterationCall} {blank : String} (h : call.BlankDefault blank)
    (table : String) :
    extent .postgreSql (call.cleared.statements .postgreSql table) <
        extent .postgreSql (call.statements .postgreSql table) ∧
      call.cleared.statements .postgreSql table ≠ [] := by
  cases call with
  | modifyColumn name type o =>
    obtain ⟨properties, constraint, hcleared, hne, hstatements⟩ :=
      statements_blank name type h.1 h.2 table
    rw [hcleared, hstatements]
    exact ⟨extent_insert _ _ _ _, fun hnil => hne (List.append_eq_nil_iff.mp hnil).1⟩
  | _ => exact h.elim

theorem extent_le (calls : List AlterationCall) (table : String) :
    extent .postgreSql (calls.flatMap fun call => call.cleared.statements .postgreSql table) ≤
      extent .postgreSql (calls.flatMap (statements .postgreSql table)) := by
  induction calls with
  | nil => exact Nat.le_refl _
  | cons call calls ih =>
    have hcall : extent .postgreSql (call.cleared.statements .postgreSql table) ≤
        extent .postgreSql (call.statements .postgreSql table) := by
      by_cases hblank : ∃ blank, call.BlankDefault blank
      · obtain ⟨blank, hblank⟩ := hblank
        exact Nat.le_of_lt (extent_blank hblank table).1
      · have hsame : call.cleared.statements .postgreSql table =
            call.statements .postgreSql table :=
          statements_cleared (fun hset => hblank hset.2) table
        exact Nat.le_of_eq (congrArg (extent .postgreSql) hsame)
    rw [List.flatMap_cons, List.flatMap_cons, extent_append, extent_append]
    exact Nat.add_le_add hcall ih

/-- A blank default that is set makes a text longer. -/
theorem extent_lt {calls : List AlterationCall}
    (h : ∃ call ∈ calls, ∃ blank, call.BlankDefault blank) (table : String) :
    extent .postgreSql (calls.flatMap fun call => call.cleared.statements .postgreSql table) <
      extent .postgreSql (calls.flatMap (statements .postgreSql table)) := by
  obtain ⟨call, hcall, blank, hblank⟩ := h
  obtain ⟨before, after, rfl⟩ := List.append_of_mem hcall
  have hbefore := extent_le before table
  have hafter := extent_le after table
  have hlt := (extent_blank hblank table).1
  rw [List.flatMap_append, List.flatMap_append, List.flatMap_cons, List.flatMap_cons,
    extent_append, extent_append, extent_append, extent_append]
  omega

end AlterationCall

/-! ## Plans -/

namespace SchemaPlan

variable {d : Dialect} {plan : SchemaPlan}

theorem alike_cleared (d : Dialect) (plan : SchemaPlan) :
    Alike (fun _ _ => True) (plan.sql d) (plan.cleared.sql d) := by
  cases plan with
  | create table calls =>
    refine (Alike.refl (R := TableDefinition.Like) (fun _ => ⟨rfl, rfl⟩) _).bind
      fun t t' h => ?_
    refine (Calls.applyAll_alike (fun _ _ call h => TableDefinition.apply_cleared h call) h
      calls).bind fun t t' h => ?_
    rw [TableDefinition.sql, TableDefinition.sql, ← h.1, ← h.2]
    split
    · exact .ok trivial
    · exact .error _
  | alter table calls =>
    refine (Alike.refl (R := fun a a' => a.table = a'.table) (fun _ => rfl) _).bind
      fun a a' h => ?_
    exact (Calls.applyAll_alike (fun _ _ call h => Alteration.apply_cleared d h call) h
      calls).bind fun _ _ _ => .ok trivial
  | drop table => exact .refl (fun _ => trivial) _

theorem goes_cleared (d : Dialect) (plan : SchemaPlan) : plan.cleared.Goes d ↔ plan.Goes d := by
  cases plan with
  | create table calls =>
    exact goes_create_map TableCall.goes_cleared TableCall.anyColumn_cleared d table table calls
  | alter table calls => simp only [cleared, Goes, List.forall_mem_map, AlterationCall.goes_cleared]
  | drop table => exact Iff.rfl

theorem table_cleared (plan : SchemaPlan) : plan.cleared.table = plan.table := by
  cases plan <;> rfl

theorem pieces_cleared (h : ¬plan.SetsBlank d) : plan.cleared.pieces d = plan.pieces d := by
  cases plan with
  | create table calls =>
    have hitems : ((calls.map TableCall.cleared).flatMap TableCall.items).map
        (TableItem.pieces d) = (calls.flatMap TableCall.items).map (TableItem.pieces d) := by
      rw [List.flatMap_map, List.map_flatMap, List.map_flatMap]
      exact List.flatMap_congr fun call _ => call.pieces_cleared d
    have hindexed : (calls.map TableCall.cleared).flatMap TableCall.indexed =
        calls.flatMap TableCall.indexed := by
      rw [List.flatMap_map]
      exact List.flatMap_congr fun call _ => call.indexed_cleared
    simp only [cleared, pieces, TableDefinition.pieces, hitems, hindexed]
  | alter table calls =>
    have hstatements : (calls.map AlterationCall.cleared).flatMap
          (AlterationCall.statements d (Text.trim table)) =
        calls.flatMap (AlterationCall.statements d (Text.trim table)) := by
      rw [List.flatMap_map]
      exact List.flatMap_congr fun call hcall =>
        AlterationCall.statements_cleared (fun hset => h ⟨hset.1, call, hcall, hset.2⟩) _
    rw [cleared, pieces, hstatements, pieces]
  | drop table => rfl

theorem renderAll_cleared_ne (h : plan.SetsBlank d) :
    renderAll d (plan.cleared.pieces d) ≠ renderAll d (plan.pieces d) := by
  cases plan with
  | alter table calls =>
    obtain ⟨rfl, hblank⟩ := h
    have hlt := AlterationCall.extent_lt hblank (Text.trim table)
    obtain ⟨call, hcall, blank, hblank⟩ := hblank
    have hcleared : calls.flatMap
        (fun call => call.cleared.statements .postgreSql (Text.trim table)) ≠ [] := fun hnil =>
      (AlterationCall.extent_blank hblank _).2 (List.flatMap_eq_nil_iff.mp hnil call hcall)
    have hgiven : calls.flatMap (AlterationCall.statements .postgreSql (Text.trim table)) ≠ [] := by
      intro hnil
      rw [hnil] at hlt
      exact Nat.not_lt_zero _ hlt
    rw [cleared, pieces, pieces, List.flatMap_map]
    intro htext
    have hled : renderAll .postgreSql (led "; " (calls.flatMap
          fun call => call.cleared.statements .postgreSql (Text.trim table))) =
        renderAll .postgreSql (led "; " (calls.flatMap
          (AlterationCall.statements .postgreSql (Text.trim table)))) := by
      rw [led_eq "; " hcleared, led_eq "; " hgiven]
      exact congrArg ("; " ++ ·) htext
    rw [extent, hled] at hlt
    exact Nat.lt_irrefl _ hlt
  | create table calls => exact h.elim
  | drop table => exact h.elim

/-- Blank defaults are ignored by every operation of every dialect but one: a plan that goes
through has the text that it has without them exactly if it does not modify a column on
PostgreSQL with one. Errors do not depend on blank defaults at all. -/
theorem sql_cleared_iff (d : Dialect) (plan : SchemaPlan) :
    (∀ e, plan.cleared.sql d = .error e ↔ plan.sql d = .error e) ∧
      (plan.cleared.sql d = plan.sql d ↔
        ¬(plan.SetsBlank d ∧ ∃ text, plan.sql d = .ok text)) := by
  have herrors := fun e => ((alike_cleared d plan).error_iff e).symm
  refine ⟨herrors, ?_⟩
  constructor
  · rintro hsame ⟨hset, text, htext⟩
    have hcleared := hsame.trans htext
    rw [sql_ok_iff] at htext hcleared
    exact renderAll_cleared_ne hset (hcleared.2.2.symm.trans htext.2.2)
  · intro h
    cases hsql : plan.sql d with
    | error e => exact (herrors e).mpr hsql
    | ok text =>
      have hset : ¬plan.SetsBlank d := fun hset => h ⟨hset, text, hsql⟩
      rw [sql_ok_iff] at hsql ⊢
      rw [table_cleared, goes_cleared, pieces_cleared hset]
      exact hsql

/-- A blank default of a column that is modified ends the statement where its value should
stand. -/
theorem blank_default_set :
    let plan := alter "users" [.modifyColumn "age" "BIGINT" ⟨false, some "", false⟩]
    plan.sql .postgreSql =
        .ok ("ALTER TABLE \"users\" ALTER COLUMN \"age\" TYPE BIGINT; " ++
          "ALTER TABLE \"users\" ALTER COLUMN \"age\" SET NOT NULL; " ++
          "ALTER TABLE \"users\" ALTER COLUMN \"age\" SET DEFAULT ") ∧
      plan.cleared.sql .postgreSql =
        .ok ("ALTER TABLE \"users\" ALTER COLUMN \"age\" TYPE BIGINT; " ++
          "ALTER TABLE \"users\" ALTER COLUMN \"age\" SET NOT NULL") ∧
      plan.cleared.sql .postgreSql ≠ plan.sql .postgreSql := by
  refine ⟨rfl, rfl, fun hsame => ?_⟩
  have htext := Except.ok.inj hsame
  revert htext
  decide

end SchemaPlan

end FluentSql
