import FluentSql.Proofs.Clause.Part
import FluentSql.Proofs.Query.Closed

/-!
# Alignment of placeholders and parameters

The parts of a statement are its heads, joins, clauses, records and assignments, in the
order of the text, each with the values that it contributes. Every statement of a query
that was built from closed texts is aligned with its parts, on every dialect and with
the read guard or without it.
-/

namespace FluentSql

open FluentSql.Text

namespace Conditions

/-- One part for each clause, behind the keyword or the connective. -/
def parts (c : Conditions) (keyword : String) : List Part :=
  match c.clauses with
  | [] => []
  | first :: rest =>
    (Part.ofPredicate first.predicate).behind (" " ++ keyword ++ " ") ::
      rest.map fun clause =>
        (Part.ofPredicate clause.predicate).behind
          (" " ++ connectiveText clause.connective ++ " ")

end Conditions

namespace QueryState

def joinParts (d : Dialect) (q : QueryState) : List Part :=
  q.joins.map fun j => Part.plain (j.sql d)

/-- The values of a record, in the order of the columns of the statement. -/
def rowPart (columns : List String) (row : Record) : Part :=
  ⟨"(" ++ (commaList (columns.map fun _ => "?") ++ ")"), columns.map row.bound⟩

def assignmentPart (entry : String × Option Value) : Part :=
  ⟨entry.1 ++ " = " ++ "?", [entry.2.getD .null]⟩

/-- The parts of a statement. -/
def parts (d : Dialect) (q : QueryState) : Statement → List Part
  | .select =>
    Part.plain ("SELECT " ++ q.fieldList ++ " FROM " ++ q.table) :: Part.plain (q.hintText d) ::
      q.joinParts d ++ q.conditions.parts "WHERE" ++ Part.plain q.groupText ::
      q.having.parts "HAVING" ++ [Part.plain (q.orderText ++ q.pageText d)]
  | .count =>
    Part.plain ("SELECT COUNT(*) AS count FROM " ++ q.table) :: Part.plain (q.hintText d) ::
      q.joinParts d ++ q.conditions.parts "WHERE" ++ Part.plain q.groupText ::
      q.having.parts "HAVING"
  | .insert rows =>
    let columns := columnUnion rows
    Part.plain ("INSERT INTO " ++ q.table ++ " (" ++ commaList columns ++ ") VALUES ") ::
      Part.listed (rows.map (rowPart columns))
  | .update data =>
    Part.plain ("UPDATE " ++ q.table ++ q.hintText d) :: q.joinParts d ++ Part.plain " SET " ::
      Part.listed (data.entries.map assignmentPart) ++ q.conditions.parts "WHERE"
  | .delete =>
    Part.plain ("DELETE " ++ (if q.joins.isEmpty then "" else q.deleteTarget ++ " ") ++
      "FROM " ++ q.table) :: q.joinParts d ++ q.conditions.parts "WHERE"

end QueryState

namespace Part

theorem behind_ofPredicate (lead : String) (p : Predicate) :
    (ofPredicate p).behind lead = ofFragments (.text lead :: p.fragments) := by
  unfold ofFragments
  rw [Fragment.renderAll_cons, Fragment.values_text, Predicate.values_fragments]
  rfl

theorem cut_further (clauses : List Clause) :
    Cut (Conditions.furtherFragments clauses)
      (clauses.map fun clause =>
        (ofPredicate clause.predicate).behind
          (" " ++ Conditions.connectiveText clause.connective ++ " ")) := by
  induction clauses with
  | nil => exact Cut.nil
  | cons clause clauses ih => exact Cut.cons (behind_ofPredicate _ _) ih

theorem cut_conditions (c : Conditions) (keyword : String) :
    Cut (c.fragments keyword) (c.parts keyword) := by
  unfold Conditions.fragments Conditions.parts
  cases c.clauses with
  | nil => exact Cut.nil
  | cons first rest => exact Cut.cons (behind_ofPredicate _ _) (cut_further rest)

theorem values_joinFragments (d : Dialect) (j : Join) : Fragment.values (j.fragments d) = [] := by
  have hoperand : ∀ o : Operand, Fragment.values [o.fragment] = [] := by
    intro o
    cases o <;> rfl
  have hon : ∀ on : List OnCondition, Fragment.values (Join.onFragments on) = [] := by
    intro on
    induction on with
    | nil => rfl
    | cons c on ih =>
      show Fragment.values (.text _ :: ([c.operand.fragment] ++ Join.onFragments on)) = []
      rw [Fragment.values_text, Fragment.values_append, hoperand, ih]
      rfl
  exact hon j.on

theorem cut_joins (d : Dialect) (q : QueryState) : Cut (q.joinFragments d) (q.joinParts d) := by
  unfold QueryState.joinFragments QueryState.joinParts
  induction q.joins with
  | nil => exact Cut.nil
  | cons j joins ih =>
    refine Cut.cons ?_ ih
    unfold ofFragments
    rw [values_joinFragments]
    rfl

/-- Slots between parentheses, up to a closing text. -/
theorem slots_eq_ofFragments (columns : List String) (row : Record) (close : String) :
    ⟨"(" ++ (commaList (columns.map fun _ => "?") ++ close), columns.map row.bound⟩ =
      ofFragments (.text "(" :: Fragment.slots (columns.map row.bound) ++ [.text close]) := by
  unfold ofFragments
  rw [List.cons_append, Fragment.renderAll_cons, Fragment.renderAll_append,
    Fragment.renderAll_slots, Fragment.renderAll_singleton, Fragment.values_text,
    Fragment.values_append, Fragment.values_slots, List.map_map]
  rw [Fragment.values_text, Fragment.values, List.filterMap_nil, List.append_nil]
  rfl

theorem cut_rows (columns : List String) (rows : List Record) :
    Cut (QueryState.rowFragments columns rows)
      (listed (rows.map (QueryState.rowPart columns))) := by
  induction rows with
  | nil => exact Cut.nil
  | cons row rows ih =>
    cases rows with
    | nil =>
      rw [← List.append_nil (QueryState.rowFragments columns [row])]
      exact Cut.cons (slots_eq_ofFragments columns row ")") Cut.nil
    | cons next rows =>
      have hfragments : QueryState.rowFragments columns (row :: next :: rows) =
          (.text "(" :: Fragment.slots (columns.map row.bound) ++ [.text "), "]) ++
            QueryState.rowFragments columns (next :: rows) := by
        rw [QueryState.rowFragments, List.append_assoc]
        rfl
      rw [hfragments]
      refine Cut.cons ?_ ih
      rw [← slots_eq_ofFragments, QueryState.rowPart, String.append_assoc, String.append_assoc]
      rfl

theorem cut_assignments (entries : List (String × Option Value)) :
    Cut (QueryState.assignmentFragments entries)
      (listed (entries.map QueryState.assignmentPart)) := by
  induction entries with
  | nil => exact Cut.nil
  | cons entry entries ih =>
    obtain ⟨c, v⟩ := entry
    cases entries with
    | nil =>
      rw [← List.append_nil (QueryState.assignmentFragments [(c, v)])]
      refine Cut.cons ?_ Cut.nil
      rfl
    | cons next entries =>
      have hfragments : QueryState.assignmentFragments ((c, v) :: next :: entries) =
          [.text (c ++ " = "), .slot (v.getD .null), .text ", "] ++
            QueryState.assignmentFragments (next :: entries) := rfl
      rw [hfragments]
      refine Cut.cons ?_ ih
      unfold ofFragments QueryState.assignmentPart
      rw [Fragment.renderAll_cons, Fragment.renderAll_cons, Fragment.renderAll_singleton,
        String.append_assoc]
      rfl

theorem cut_source (d : Dialect) (q : QueryState) :
    Cut (q.sourceFragments d)
      (plain (q.hintText d) :: q.joinParts d ++ q.conditions.parts "WHERE") :=
  (Cut.text _ (cut_joins d q)).append (cut_conditions _ _)

theorem cut_group (q : QueryState) :
    Cut q.groupFragments (plain q.groupText :: q.having.parts "HAVING") :=
  Cut.text _ (cut_conditions _ _)

/-- The fragments of a statement are cut into its parts. -/
theorem cut_fragments {d : Dialect} {q : QueryState} {statement : Statement}
    {fs : List Fragment} (h : q.fragments d statement = .ok fs) :
    Cut fs (q.parts d statement) := by
  cases statement with
  | select =>
    obtain rfl := Except.ok.inj h
    exact ((Cut.text _ (cut_source d q)).append (cut_group q)).append (Cut.text _ Cut.nil)
  | count =>
    obtain rfl := Except.ok.inj h
    exact (Cut.text _ (cut_source d q)).append (cut_group q)
  | insert rows =>
    obtain ⟨_, rfl⟩ := QueryState.insertFragments_ok_iff.mp h
    exact Cut.text _ (cut_rows _ rows)
  | update data =>
    obtain ⟨_, _, rfl⟩ := QueryState.updateFragments_ok_iff.mp h
    exact ((Cut.text _ (cut_joins d q)).append (Cut.text _ (cut_assignments data.entries))).append
      (cut_conditions _ _)
  | delete =>
    obtain ⟨_, rfl⟩ := QueryState.deleteFragments_ok_iff.mp h
    exact (Cut.text _ (cut_joins d q)).append (cut_conditions _ _)

end Part

namespace QueryState

/-- A statement of closed texts is written exactly when the dialect admits it, and then
its placeholders and parameters are those of its parts. -/
theorem compile_aligned (d : Dialect) {q r : QueryState} (hbuilt : q.Built .closed)
    (hread : r = q ∨ r = q.guardReads) {statement : Statement} (hpayload : statement.Closed) :
    ((∃ s, r.compile d statement = .ok s) ↔ r.Admits d statement) ∧
      ∀ s, r.compile d statement = .ok s → Part.Aligned d (r.parts d statement) s := by
  have hwithin : r.Within .closed := by
    obtain rfl | rfl := hread
    · exact hbuilt.within
    · have hmarker : Text.Closed Model.markerColumn := by decide
      exact hbuilt.within.guardReads hmarker
  refine ⟨exists_compile_iff d r statement, ?_⟩
  intro s hs
  obtain ⟨fs, hfs, rfl⟩ := compile_ok hs
  exact (Part.cut_fragments hfs).aligned (closed_fragments hwithin hpayload hfs) d

/-- An UPDATE with an assignment and a clause, whose values look like placeholders. -/
theorem compile_aligned_update :
    ∃ q : QueryState, q.Built .closed ∧ ∃ s,
      q.guardReads.compile .postgreSql (.update ⟨[("title", some (.string "'?"))]⟩) = .ok s ∧
        Part.Aligned .postgreSql
          (q.guardReads.parts .postgreSql (.update ⟨[("title", some (.string "'?"))]⟩)) s := by
  have hbuilt : Built .closed
      ⟨"posts", [], ⟨[⟨.compare "note" .eq (.string "?"), none⟩], []⟩, [], [], .empty, [], none,
        none, []⟩ := by
    refine ⟨"posts", ⟨"posts", [], .empty, [], [], .empty, [], none, none, []⟩, ?_, rfl, ?_⟩
    · show Free "posts"
      decide
    · have hcall : QueryCall.Within .closed
          (.filter .where_ .and (.equals "note" (.string "?"))) := by
        show Text.Closed "note"
        decide
      exact .step hcall rfl (.refl _)
  have hpayload : Statement.Closed (.update ⟨[("title", some (.string "'?"))]⟩) := by
    intro c hc
    obtain rfl := List.mem_singleton.mp hc
    decide
  obtain ⟨hadmitted, haligned⟩ := compile_aligned .postgreSql hbuilt (.inr rfl) hpayload
  obtain ⟨s, hs⟩ := hadmitted.mpr ⟨List.cons_ne_nil _ _, .inl rfl⟩
  exact ⟨_, hbuilt, s, hs, haligned s hs⟩

end QueryState

end FluentSql
