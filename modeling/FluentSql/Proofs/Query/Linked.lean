import FluentSql.Proofs.Clause.Precedence
import FluentSql.Proofs.Query.Closed
import FluentSql.Proofs.Query.Invariant

/-!
# Linked conditions

Calls keep the buckets of a query linked, join callbacks included: a scope counts the
primary clauses of its query, so an alternative that it brings has a clause before it
once the scope is closed. Queries on plain columns can therefore be read back.
-/

namespace FluentSql

open FluentSql.Text

namespace Conditions

variable {preceding : Nat}

theorem linked_empty : Linked preceding empty where
  primary := by
    intro clause h
    cases h
  alternatives := by
    intro clause h
    cases h
  started h := absurd rfl h

theorem Linked.addAnd {c : Conditions} (h : c.Linked preceding) (p : Predicate) :
    (c.addAnd p preceding).Linked preceding where
  primary := by
    refine forall_mem_concat h.primary ?_
    dsimp only
    split
    · intro hnone
      cases hnone
    · intro hor
      cases hor
  alternatives := h.alternatives
  started _ := by
    simp only [Conditions.addAnd, List.length_append, List.length_singleton]
    omega

theorem Linked.add {c c' : Conditions} {k : Connective} {p : Predicate} {part : String}
    (h : c.Linked preceding) (hadd : c.add k p preceding part = .ok c') :
    c'.Linked preceding := by
  have heffect := add_ok hadd
  cases k with
  | and =>
    have heq : c' = c.addAnd p preceding := heffect
    rw [heq]
    exact h.addAnd p
  | or =>
    obtain ⟨hstarted, rfl⟩ := heffect
    exact {
      primary := h.primary
      alternatives := forall_mem_concat h.alternatives rfl
      started := fun _ => hstarted }

/-- A scope that counted the primary clauses can be absorbed. -/
theorem Linked.absorb {c scope : Conditions} (h : c.Linked 0)
    (hscope : scope.Linked c.primary.length) : (c.absorb scope).Linked 0 where
  primary := List.forall_mem_append.mpr ⟨h.primary, hscope.primary⟩
  alternatives := List.forall_mem_append.mpr ⟨h.alternatives, hscope.alternatives⟩
  started hne := by
    have hlength : (c.absorb scope).primary.length = c.primary.length + scope.primary.length :=
      List.length_append
    rw [hlength, Nat.zero_add]
    by_cases hc : c.alternatives = []
    · have hs : scope.alternatives ≠ [] := by
        intro hs
        apply hne
        simp only [Conditions.absorb, hc, hs, List.append_nil]
      exact hscope.started hs
    · have hstarted := h.started hc
      omega

theorem linked_isInductive : IsInductive Linked where
  empty _ := linked_empty
  add h hadd := h.add hadd
  absorb h hscope := h.absorb hscope

/-- The connectives of primary clauses behind `preceding` others: none for the first clause
of a query, AND for each one behind it. -/
def Joined : Nat → List Clause → Prop
  | _, [] => True
  | preceding, clause :: rest =>
    clause.connective = (if preceding = 0 then none else some .and) ∧ Joined (preceding + 1) rest

theorem joined_append {a b : List Clause} :
    Joined preceding (a ++ b) ↔ Joined preceding a ∧ Joined (preceding + a.length) b := by
  induction a generalizing preceding with
  | nil => exact (true_and _).symm.to_iff
  | cons clause a ih =>
    rw [List.cons_append, Joined, Joined, ih, List.length_cons, and_assoc, Nat.add_right_comm,
      Nat.add_assoc preceding]

theorem joined_isInductive : IsInductive fun preceding c => Joined preceding c.primary where
  empty _ := trivial
  add {preceding c c' k p part} h hadd := by
    have heffect := add_ok hadd
    cases k with
    | and =>
      have heq : c' = c.addAnd p preceding := heffect
      rw [heq]
      exact joined_append.mpr ⟨h, rfl, trivial⟩
    | or =>
      obtain ⟨_, rfl⟩ := heffect
      exact h
  absorb h hscope := by
    refine joined_append.mpr ⟨h, ?_⟩
    rw [Nat.zero_add]
    exact hscope

end Conditions

namespace QueryState

structure Linked (q : QueryState) : Prop where
  conditions : q.conditions.Linked 0
  having : q.having.Linked 0

theorem Built.linked {V : Vocabulary} {q : QueryState} (h : q.Built V) : q.Linked := by
  obtain ⟨hconditions, hhaving⟩ := h.keeps Conditions.linked_isInductive
  exact ⟨hconditions, hhaving⟩

theorem Linked.guardReads {q : QueryState} (hq : q.Linked) : q.guardReads.Linked := by
  unfold QueryState.guardReads
  split
  · exact hq
  · exact ⟨hq.conditions.addAnd _, hq.having⟩

end QueryState

/-- Columns of clauses are plain once they are trimmed; all other texts are closed. -/
def Vocabulary.plain : Vocabulary where
  table := Free
  column s := Plain (trim s)
  fragment := Closed
  table_trim _ h := h.trim
  table_word _ h _ hw := h.word hw
  fragment_trim _ h := h.trim

theorem Predicate.Within.plain {V : Vocabulary} {p : Predicate} (h : p.Within V)
    (hplain : Plain p.column) : p.Within .plain := by
  obtain ⟨f, _, hp⟩ := h
  rw [(Filter.column_of_predicate hp).1] at hplain
  exact ⟨f, hplain, hp⟩

theorem Predicate.Within.readable {p : Predicate} (h : p.Within .plain) : p.Readable := by
  obtain ⟨f, hf, hp⟩ := h
  refine ⟨?_, ?_⟩
  · rw [(Filter.column_of_predicate hp).1]
    exact hf
  · rintro c negated vs rfl
    obtain ⟨_, htest⟩ := Filter.predicate_ok hp
    obtain ⟨column, test⟩ := f
    cases test with
    | compare raw v =>
      obtain ⟨op, _, heq⟩ := htest
      cases heq
    | between negated' low high => cases htest
    | inList negated' vs' =>
      obtain ⟨hne, heq⟩ := htest
      cases heq
      exact hne
    | isNull negated' => cases htest

theorem Predicate.Within.closed {p : Predicate} (h : p.Within .plain) : p.Within .closed := by
  obtain ⟨f, hf, hp⟩ := h
  have hclosed : Closed (trim f.column) := hf.2.closed
  exact ⟨f, closed_trim_iff.mp hclosed, hp⟩

theorem QueryState.Within.closed {q : QueryState} (h : q.Within .plain) : q.Within .closed where
  table := h.table
  fields := h.fields
  conditions clause hm := (h.conditions clause hm).closed
  joins j hj := by
    obtain ⟨⟨htable, halias⟩, hon, hhints⟩ := h.joins j hj
    exact ⟨⟨htable, halias⟩, fun c hc => ⟨(hon c hc).column, (hon c hc).operand⟩, hhints⟩
  groupBy := h.groupBy
  having clause hm := (h.having clause hm).closed
  orderBy := h.orderBy
  indexHints := h.indexHints

end FluentSql
