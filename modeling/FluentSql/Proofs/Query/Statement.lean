import FluentSql.Proofs.Clause.Fragment
import FluentSql.Proofs.Query.Change
import FluentSql.Proofs.Query.Fragments

/-!
# Statements of changed values

A map of values that keeps NULL goes through to the parameters of a statement and leaves
its text as it is. Nothing that is written or checked on the way asks for a value.
-/

namespace FluentSql

variable (g : Value → Value)

namespace Fragment

def change : Fragment → Fragment
  | .text s => .text s
  | .literal s => .literal s
  | .slot v => .slot (g v)

theorem renderAll_change (fs : List Fragment) : renderAll (fs.map (change g)) = renderAll fs := by
  induction fs with
  | nil => rfl
  | cons f fs ih =>
    rw [List.map_cons, renderAll_cons, renderAll_cons, ih]
    cases f <;> rfl

theorem values_change (fs : List Fragment) : values (fs.map (change g)) = (values fs).map g := by
  induction fs with
  | nil => rfl
  | cons f fs ih =>
    cases f with
    | text s => exact ih
    | literal s => exact ih
    | slot v =>
      rw [List.map_cons, change, values_slot, values_slot, ih]
      rfl

theorem slots_change (vs : List Value) : (slots vs).map (change g) = slots (vs.map g) := by
  induction vs with
  | nil => rfl
  | cons v rest ih =>
    cases rest with
    | nil => rfl
    | cons w rest =>
      rw [slots, List.map_cons, List.map_cons, ih]
      rfl

end Fragment

theorem Predicate.fragments_change (p : Predicate) :
    (p.change g).fragments = p.fragments.map (Fragment.change g) := by
  cases p with
  | compare c op v => rfl
  | between c negated low high => rfl
  | inList c negated vs =>
    rw [Predicate.change, fragments, fragments, List.map_append, List.map_cons,
      Fragment.slots_change]
    rfl
  | isNull c negated => rfl

namespace Conditions

theorem furtherFragments_change (clauses : List Clause) :
    furtherFragments (clauses.map (Clause.change g)) =
      (furtherFragments clauses).map (Fragment.change g) := by
  induction clauses with
  | nil => rfl
  | cons clause clauses ih =>
    have hcons : ∀ (c : Clause) (cs : List Clause), furtherFragments (c :: cs) =
        .text (" " ++ connectiveText c.connective ++ " ") :: c.predicate.fragments ++
          furtherFragments cs := fun _ _ => rfl
    rw [List.map_cons, hcons, hcons, ih, List.map_append, List.map_cons,
      ← Predicate.fragments_change]
    rfl

theorem fragments_change (c : Conditions) (keyword : String) :
    (c.change g).fragments keyword = (c.fragments keyword).map (Fragment.change g) := by
  have hclauses : (c.change g).clauses = c.clauses.map (Clause.change g) := List.map_append.symm
  unfold fragments
  rw [hclauses]
  cases c.clauses with
  | nil => rfl
  | cons first rest =>
    rw [List.map_cons]
    dsimp only
    rw [List.map_append, List.map_cons, furtherFragments_change, ← Predicate.fragments_change]
    rfl

end Conditions

/-- Joins carry no values. -/
theorem Join.fragments_change (d : Dialect) (j : Join) :
    (j.fragments d).map (Fragment.change g) = j.fragments d := by
  unfold Join.fragments Join.onFragments
  rw [List.map_cons, List.map_flatMap]
  refine congrArg (List.cons _) (congrArg j.on.flatMap (funext fun c => ?_))
  cases c.operand with
  | column name =>
    simp only [List.map_cons, List.map_nil, Operand.fragment, Fragment.change]
  | literal s =>
    simp only [List.map_cons, List.map_nil, Operand.fragment, Fragment.change]

namespace Record

theorem columns_change (r : Record) : (Carries.change g r).columns = r.columns :=
  List.map_map

theorem bound_change (hnull : g .null = .null) (r : Record) (c : String) :
    (Carries.change g r).bound c = g (r.bound c) := by
  have hget : (Carries.change g r).get? c = (r.get? c).map (Option.map g) := by
    show ((r.entries.map (Carries.change g)).find? fun entry => entry.1 == c).map (·.2) = _
    rw [List.find?_map, Option.map_map]
    unfold get?
    rw [Option.map_map]
    rfl
  unfold bound
  rw [hget]
  cases r.get? c with
  | none => exact hnull.symm
  | some v =>
    cases v with
    | none => exact hnull.symm
    | some v => rfl

end Record

def Statement.change : Statement → Statement
  | .select => .select
  | .count => .count
  | .insert rows => .insert (Carries.change g rows)
  | .update data => .update (Carries.change g data)
  | .delete => .delete

def BoundStatement.change (s : BoundStatement) : BoundStatement :=
  ⟨s.sql, s.params.map g⟩

namespace QueryState

theorem finish_change (d : Dialect) (fs : List Fragment) :
    finish d (fs.map (Fragment.change g)) = (finish d fs).change g := by
  rw [finish, Fragment.renderAll_change, Fragment.values_change]
  rfl

theorem joinFragments_change (d : Dialect) (q : QueryState) :
    (q.joinFragments d).map (Fragment.change g) = q.joinFragments d := by
  unfold joinFragments
  rw [List.map_flatMap]
  exact congrArg q.joins.flatMap (funext fun j => Join.fragments_change g d j)

theorem columnUnion_change (rows : List Record) :
    columnUnion (Carries.change g rows) = columnUnion rows := by
  have hcolumns : (Carries.change g rows).flatMap Record.columns = rows.flatMap Record.columns := by
    show (rows.map (Carries.change g)).flatMap Record.columns = _
    rw [List.flatMap_map]
    exact congrArg rows.flatMap (funext fun r => Record.columns_change g r)
  unfold columnUnion
  rw [hcolumns]

theorem rowFragments_change (hnull : g .null = .null) (columns : List String)
    (rows : List Record) :
    rowFragments columns (Carries.change g rows) =
      (rowFragments columns rows).map (Fragment.change g) := by
  have hrow : ∀ row : Record, columns.map (Carries.change g row).bound =
      (columns.map row.bound).map g := by
    intro row
    rw [List.map_map]
    exact congrArg (fun f => columns.map f) (funext fun c => Record.bound_change g hnull row c)
  show rowFragments columns (rows.map (Carries.change g)) = _
  induction rows with
  | nil => rfl
  | cons row rows ih =>
    cases rows with
    | nil =>
      rw [List.map_cons, List.map_nil, rowFragments, rowFragments, hrow, List.map_append,
        List.map_cons, Fragment.slots_change]
      rfl
    | cons next rows =>
      rw [List.map_cons] at ih ⊢
      rw [List.map_cons, rowFragments, rowFragments, ih, hrow, List.map_append, List.map_cons,
        Fragment.slots_change]
      rfl

theorem assignmentFragments_change (hnull : g .null = .null)
    (entries : List (String × Option Value)) :
    assignmentFragments (Carries.change g entries) =
      (assignmentFragments entries).map (Fragment.change g) := by
  have hvalue : ∀ v : Option Value, (v.map g).getD .null = g (v.getD .null) := by
    intro v
    cases v with
    | none => exact hnull.symm
    | some v => rfl
  show assignmentFragments (entries.map (Carries.change g)) = _
  induction entries with
  | nil => rfl
  | cons entry entries ih =>
    obtain ⟨c, v⟩ := entry
    have hentry : Carries.change g (c, v) = (c, v.map g) := rfl
    cases entries with
    | nil =>
      rw [List.map_cons, hentry, List.map_nil, assignmentFragments, hvalue]
      rfl
    | cons next entries =>
      rw [List.map_cons] at ih ⊢
      rw [hentry, List.map_cons, assignmentFragments, ih, hvalue]
      rfl

/-- Fragments of a statement of changed values are its changed fragments. -/
theorem fragments_change (hnull : g .null = .null) (d : Dialect) (q : QueryState)
    (statement : Statement) :
    (q.change g).fragments d (statement.change g) =
      (q.fragments d statement).map (List.map (Fragment.change g)) := by
  have hjoins : (q.change g).joinFragments d = (q.joinFragments d).map (Fragment.change g) :=
    (joinFragments_change g d q).symm
  have hwhere : (q.change g).conditions.fragments "WHERE" =
      (q.conditions.fragments "WHERE").map (Fragment.change g) :=
    Conditions.fragments_change g q.conditions "WHERE"
  have hhaving : (q.change g).having.fragments "HAVING" =
      (q.having.fragments "HAVING").map (Fragment.change g) :=
    Conditions.fragments_change g q.having "HAVING"
  have hsource : (q.change g).sourceFragments d =
      (q.sourceFragments d).map (Fragment.change g) := by
    unfold sourceFragments
    rw [hjoins, hwhere, List.map_append, List.map_cons]
    rfl
  have hgroup : (q.change g).groupFragments = q.groupFragments.map (Fragment.change g) := by
    unfold groupFragments
    rw [hhaving, List.map_cons]
    rfl
  cases statement with
  | select =>
    show Except.ok ((q.change g).selectFragments d) = Except.ok _
    unfold selectFragments
    rw [hsource, hgroup, List.map_append, List.map_append, List.map_cons]
    rfl
  | count =>
    show Except.ok ((q.change g).countFragments d) = Except.ok _
    unfold countFragments
    rw [hsource, hgroup, List.map_append, List.map_cons]
    rfl
  | insert rows =>
    show insertFragments q.table (Carries.change g rows) = (insertFragments q.table rows).map _
    unfold insertFragments
    have hempty : (Carries.change g rows).isEmpty = rows.isEmpty := List.isEmpty_map
    rw [hempty, columnUnion_change]
    dsimp only
    rw [rowFragments_change g hnull]
    split
    · rfl
    · split
      · rfl
      · rfl
  | update data =>
    show (q.change g).updateFragments d (Carries.change g data) = (q.updateFragments d data).map _
    unfold updateFragments
    have hempty : (Carries.change g data).isEmpty = data.isEmpty := List.isEmpty_map
    have hentries : (Carries.change g data).entries = Carries.change g data.entries := rfl
    have hcheck : (q.change g).checkJoins d "UPDATE" = q.checkJoins d "UPDATE" := rfl
    rw [hempty, hentries, assignmentFragments_change g hnull, hjoins, hwhere, hcheck]
    split
    · rfl
    · refine bind_map_right (fun _ => congrArg Except.ok ?_) (q.checkJoins d "UPDATE")
      rw [List.map_append, List.map_append, List.map_cons, List.map_cons]
      rfl
  | delete =>
    show (q.change g).deleteFragments d = (q.deleteFragments d).map _
    unfold deleteFragments
    have hcheck : (q.change g).checkJoins d "DELETE" = q.checkJoins d "DELETE" := rfl
    rw [hjoins, hwhere, hcheck]
    refine bind_map_right (fun _ => congrArg Except.ok ?_) (q.checkJoins d "DELETE")
    rw [List.map_append, List.map_cons]
    rfl

theorem compile_change (hnull : g .null = .null) (d : Dialect) (q : QueryState)
    (statement : Statement) :
    (q.change g).compile d (statement.change g) =
      (q.compile d statement).map (BoundStatement.change g) := by
  rw [compile_eq, compile_eq, fragments_change g hnull]
  cases q.fragments d statement with
  | error e => rfl
  | ok fs => exact congrArg Except.ok (finish_change g d fs)

end QueryState

end FluentSql
