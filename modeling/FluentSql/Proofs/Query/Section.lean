import FluentSql.Proofs.Query.Alignment
import FluentSql.Proofs.Query.Linked

/-!
# The WHERE part of a statement

Every statement but an INSERT has the clauses of its query between leading and trailing
parts. What stands there in the compiled text is read back, with the parameters of the
statement, as the formula of the conditions.
-/

namespace FluentSql

open FluentSql.Text

namespace Part

variable {d : Dialect} {parts leading middle trailing : List Part} {s : BoundStatement}

theorem textOf_append (ps qs : List Part) : textOf (ps ++ qs) = textOf ps ++ textOf qs :=
  List.flatMap_append

theorem valuesOf_append (ps qs : List Part) : valuesOf (ps ++ qs) = valuesOf ps ++ valuesOf qs :=
  List.flatMap_append

/-- The text of an aligned statement in three stretches. -/
theorem Aligned.text_split (h : Aligned d parts s) (hbalanced : ∀ p ∈ parts, p.Balanced)
    (hparts : parts = leading ++ middle ++ trailing) :
    s.sql.toList = d.written 1 (textOf leading) ++
      d.written ((valuesOf leading).length + 1) (textOf middle) ++
        d.written ((valuesOf leading).length + 1 + (valuesOf middle).length) (textOf trailing) := by
  have hleading := scan_textOf fun p hp => hbalanced p
    (hparts ▸ List.mem_append_left trailing (List.mem_append_left middle hp))
  have hmiddle := scan_textOf fun p hp => hbalanced p
    (hparts ▸ List.mem_append_left trailing (List.mem_append_right leading hp))
  rw [h.text, hparts, List.append_assoc, textOf_append, textOf_append,
    d.written_append hleading.1, hleading.2, d.written_append hmiddle.1, hmiddle.2,
    List.append_assoc, Nat.add_comm 1]

theorem Aligned.params_drop (h : Aligned d parts s)
    (hparts : parts = leading ++ middle ++ trailing) :
    valuesOf middle <+: s.params.drop (valuesOf leading).length := by
  rw [h.params, hparts, List.append_assoc, valuesOf_append, valuesOf_append, List.drop_left]
  exact List.prefix_append _ _

end Part

/-- The statements that select rows by the clauses of the query. -/
def Statement.Filters : Statement → Prop
  | .insert _ => False
  | _ => True

theorem Conditions.valuesOf_parts (c : Conditions) (keyword : String) :
    Part.valuesOf (c.parts keyword) = c.values := by
  unfold Part.valuesOf Conditions.parts Conditions.values
  cases c.clauses with
  | nil => rfl
  | cons first rest =>
    dsimp only
    rw [List.flatMap_cons, List.flatMap_cons, List.flatMap_map]
    rfl

namespace QueryState

theorem parts_split (d : Dialect) (q : QueryState) {statement : Statement}
    (h : statement.Filters) :
    ∃ leading trailing,
      q.parts d statement = leading ++ q.conditions.parts "WHERE" ++ trailing := by
  cases statement with
  | select =>
    refine ⟨Part.plain ("SELECT " ++ q.fieldList ++ " FROM " ++ q.table) ::
      Part.plain (q.hintText d) :: q.joinParts d, Part.plain q.groupText ::
        q.having.parts "HAVING" ++ [Part.plain (q.orderText ++ q.pageText d)], ?_⟩
    rw [← List.append_assoc]
    rfl
  | count => exact ⟨_, _, rfl⟩
  | insert rows => exact h.elim
  | update data =>
    refine ⟨Part.plain ("UPDATE " ++ q.table ++ q.hintText d) :: q.joinParts d ++
      Part.plain " SET " :: Part.listed (data.entries.map assignmentPart), [], ?_⟩
    rw [List.append_nil]
    rfl
  | delete =>
    refine ⟨Part.plain ("DELETE " ++ (if q.joins.isEmpty then "" else q.deleteTarget ++ " ") ++
      "FROM " ++ q.table) :: q.joinParts d, [], ?_⟩
    rw [List.append_nil]
    rfl

/-- Between the leading and the trailing parts of a statement stands a text that reads
as the formula of the clauses. -/
theorem readSection_compile {d : Dialect} {q : QueryState} (hwithin : q.Within .plain)
    (hlinked : q.Linked) {statement : Statement} (hfilters : statement.Filters)
    (hpayload : statement.Closed) (hsome : q.conditions.clauses ≠ []) {s : BoundStatement}
    (hs : q.compile d statement = .ok s) :
    ∃ leading trailing text,
      q.parts d statement = leading ++ q.conditions.parts "WHERE" ++ trailing ∧
      s.sql.toList = d.written 1 (Part.textOf leading) ++ text ++
        d.written ((Part.valuesOf leading).length + 1 +
          (Part.valuesOf (q.conditions.parts "WHERE")).length) (Part.textOf trailing) ∧
      Reading.readSection d s.params "WHERE" (Part.valuesOf leading).length text =
        some q.conditions.formula := by
  obtain ⟨fs, hfs, rfl⟩ := compile_ok hs
  obtain ⟨leading, trailing, hparts⟩ := parts_split d q hfilters
  have hcut := Part.cut_fragments hfs
  have hclosed := closed_fragments hwithin.closed hpayload hfs
  have haligned := hcut.aligned hclosed d
  have hwhere := Part.cut_conditions q.conditions "WHERE"
  refine ⟨leading, trailing, _, hparts,
    haligned.text_split (hcut.balanced hclosed) hparts, ?_⟩
  have hvalues : q.conditions.values <+:
      (Fragment.values fs).drop (Part.valuesOf leading).length := by
    have hdrop := haligned.params_drop hparts
    rw [Conditions.valuesOf_parts] at hdrop
    exact hdrop
  rw [hwhere.textOf_eq, Fragment.written_renderAll d (closed_whereFragments hwithin.closed)]
  exact Reading.readSection_fragments hlinked.conditions
    (fun clause hm => (hwithin.conditions clause hm).readable) hsome (by decide) hvalues

end QueryState

end FluentSql
