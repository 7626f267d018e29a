import FluentSql.Proofs.Query.Vocabulary

/-!
# Invariants of conditions

WHERE and HAVING parts grow by single clauses, and a WHERE part also by the clauses of a
join scope, which counted the primary clauses before its own. What both ways of growing
keep holds of the conditions of every query.
-/

namespace FluentSql

/-- Holds where there are no clauses and stays so when conditions grow; the number is that of
the primary clauses before them. -/
structure Conditions.IsInductive (I : Nat → Conditions → Prop) : Prop where
  empty : ∀ preceding, I preceding .empty
  add : ∀ {preceding : Nat} {c c' : Conditions} {k : Connective} {p : Predicate} {part : String},
    I preceding c → c.add k p preceding part = .ok c' → I preceding c'
  absorb : ∀ {c scope : Conditions}, I 0 c → I c.primary.length scope → I 0 (c.absorb scope)

variable {I : Nat → Conditions → Prop} (hI : Conditions.IsInductive I)
include hI

/-- A call inside a join callback, which leaves the count of the scope alone. -/
theorem JoinScope.keeps_apply {s s' : JoinScope} {call : JoinCall}
    (hs : I s.parentClauses s.conditions) (h : s.apply call = .ok s') :
    I s'.parentClauses s'.conditions ∧ s'.parentClauses = s.parentClauses := by
  have heffect := JoinScope.apply_ok h
  cases call with
  | on column operator operand =>
    obtain ⟨op, _, _, rfl⟩ := heffect
    exact ⟨hs, rfl⟩
  | orOn column operator operand =>
    obtain ⟨_, op, _, _, rfl⟩ := heffect
    exact ⟨hs, rfl⟩
  | filter k f =>
    obtain ⟨p, c, _, hc, rfl⟩ := heffect
    exact ⟨hI.add hs hc, rfl⟩
  | useIndex name =>
    obtain ⟨_, rfl⟩ := heffect
    exact ⟨hs, rfl⟩
  | raise e => exact heffect.elim

namespace QueryState

theorem keeps_apply {q q' : QueryState} {call : QueryCall} (hq : I 0 q.conditions ∧ I 0 q.having)
    (h : q.apply call = .ok q') : I 0 q'.conditions ∧ I 0 q'.having := by
  have heffect := apply_ok h
  cases call with
  | select columns =>
    obtain rfl := heffect
    exact hq
  | filter part k f =>
    cases part with
    | where_ =>
      obtain ⟨p, c, _, hc, rfl⟩ := heffect
      exact ⟨hI.add hq.1 hc, hq.2⟩
    | having =>
      obtain ⟨p, c, _, hc, rfl⟩ := heffect
      exact ⟨hq.1, hI.add hq.2 hc⟩
  | join kind target column operator operand =>
    obtain ⟨t, op, _, _, _, rfl⟩ := heffect
    exact hq
  | joinWith kind target calls tolerant =>
    obtain ⟨t, scope, _, hreach, rfl⟩ := heffect
    -- The count of the scope stays that of the query it was opened in.
    have hscope : I scope.parentClauses scope.conditions ∧
        scope.parentClauses = q.conditions.primary.length := by
      apply hreach.invariant (P := fun s => I s.parentClauses s.conditions ∧
        s.parentClauses = q.conditions.primary.length)
      · intro s c s' _ hs happly
        obtain ⟨hnext, hparent⟩ := JoinScope.keeps_apply hI hs.1 happly
        exact ⟨hnext, hparent.trans hs.2⟩
      · exact ⟨hI.empty _, rfl⟩
    have hconditions := hscope.1
    rw [hscope.2] at hconditions
    exact ⟨hI.absorb hq.1 hconditions, hq.2⟩
  | groupBy columns =>
    obtain ⟨_, _, rfl⟩ := heffect
    exact hq
  | orderBy column direction =>
    obtain ⟨dir, _, _, rfl⟩ := heffect
    exact hq
  | limit n =>
    obtain ⟨_, rfl⟩ := heffect
    exact hq
  | offset n =>
    obtain rfl := heffect
    exact hq
  | useIndex names =>
    obtain ⟨_, _, rfl⟩ := heffect
    exact hq

/-- Every query keeps the invariant, whatever it was built with. -/
theorem Built.keeps {V : Vocabulary} {q : QueryState} (h : q.Built V) :
    I 0 q.conditions ∧ I 0 q.having := by
  obtain ⟨table, q₀, _, hstart, hreach⟩ := h
  obtain ⟨_, rfl⟩ := start_ok hstart
  exact hreach.invariant (fun _ _ _ _ hq happly => keeps_apply hI hq happly)
    ⟨hI.empty 0, hI.empty 0⟩

end QueryState

end FluentSql
