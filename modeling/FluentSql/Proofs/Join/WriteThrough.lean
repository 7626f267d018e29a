import FluentSql.Proofs.Query.Step

/-!
# Clauses written through a join callback

A scope keeps clauses of its own and knows only how many primary clauses its query had.
Absorbed at the end, they are what the same calls would have added to the query itself,
with the same connectives and the same refusals.
-/

namespace FluentSql

/-- The call on the query that does outside a callback what this call does inside. -/
def JoinCall.outside? : JoinCall → Option QueryCall
  | .filter k f => some (.filter .where_ k f)
  | _ => none

namespace Conditions

/-- A clause added behind those of a scope goes where the scope would have added it. -/
theorem add_absorb (c scope : Conditions) (k : Connective) (p : Predicate) (part : String) :
    (c.absorb scope).add k p 0 part =
      (scope.add k p c.primary.length part).map c.absorb := by
  have hcount : 0 + (c.primary ++ scope.primary).length =
      c.primary.length + scope.primary.length := by
    rw [Nat.zero_add, List.length_append]
  cases k with
  | and =>
    show Except.ok ((c.absorb scope).addAnd p 0) =
      Except.ok (c.absorb (scope.addAnd p c.primary.length))
    simp only [addAnd, absorb, hcount, List.append_assoc]
  | or =>
    show (c.absorb scope).addOr p 0 part = (scope.addOr p c.primary.length part).map c.absorb
    simp only [addOr, absorb, hcount]
    split
    · rfl
    · rw [List.append_assoc]
      rfl

theorem absorb_empty (c : Conditions) : c.absorb empty = c := by
  simp only [absorb, empty, List.append_nil]

end Conditions

namespace JoinScope

/-- Only calls for the query touch the clauses of a scope, and none its count. -/
theorem attempt_of_outside_none {s : JoinScope} {call : JoinCall} (h : call.outside? = none) :
    (Calls.attempt apply s call).2.conditions = s.conditions ∧
      (Calls.attempt apply s call).2.parentClauses = s.parentClauses := by
  unfold Calls.attempt
  cases hcall : s.apply call with
  | error e => exact ⟨rfl, rfl⟩
  | ok s' =>
    have heffect := apply_ok hcall
    cases call with
    | on column operator operand =>
      obtain ⟨op, _, _, rfl⟩ := heffect
      exact ⟨rfl, rfl⟩
    | orOn column operator operand =>
      obtain ⟨_, op, _, _, rfl⟩ := heffect
      exact ⟨rfl, rfl⟩
    | filter k f => cases h
    | useIndex name =>
      obtain ⟨_, rfl⟩ := heffect
      exact ⟨rfl, rfl⟩
    | raise e => exact heffect.elim

end JoinScope

namespace QueryState

/-- The query with a join and no more clauses than before. -/
def withJoin (q : QueryState) (j : Join) : QueryState :=
  { q with joins := q.joins ++ [j] }

/-- A state beside a scope of `q`: it has the clauses of `q` and behind them those that
the scope has so far, and is `base` otherwise. -/
structure Beside (q base : QueryState) (s : JoinScope) (r : QueryState) : Prop where
  count : s.parentClauses = q.conditions.primary.length
  state : r = { base with conditions := q.conditions.absorb s.conditions }

/-- A clause is added to both, or refused by both with the same error. -/
theorem filter_beside {q base r : QueryState} {s : JoinScope} (h : Beside q base s r)
    (k : Connective) (f : Filter) :
    (Calls.attempt JoinScope.apply s (.filter k f)).1 =
        (Calls.attempt apply r (.filter .where_ k f)).1 ∧
      Beside q base (Calls.attempt JoinScope.apply s (.filter k f)).2
        (Calls.attempt apply r (.filter .where_ k f)).2 := by
  obtain ⟨hcount, rfl⟩ := h
  have hadd := fun p => Conditions.add_absorb q.conditions s.conditions k p "where"
  unfold Calls.attempt
  simp only [JoinScope.apply, JoinScope.filter, apply, filter, Section.label]
  cases hp : f.predicate with
  | error e => exact ⟨rfl, hcount, rfl⟩
  | ok p =>
    simp only [bind, Except.bind, hadd, hcount]
    cases s.conditions.add k p q.conditions.primary.length "where" with
    | error e => exact ⟨rfl, hcount, rfl⟩
    | ok c => exact ⟨rfl, rfl, rfl⟩

/-- The calls of a callback and the same filters on the query run side by side. -/
theorem applyEach_beside {q base r : QueryState} {s : JoinScope} (h : Beside q base s r)
    (calls : List JoinCall) :
    Beside q base (Calls.lastState s (s.applyEach calls))
        (Calls.lastState r (Calls.applyEach apply r (calls.filterMap JoinCall.outside?))) ∧
      (Calls.applyEach apply r (calls.filterMap JoinCall.outside?)).map (·.1) =
        ((calls.zip (s.applyEach calls)).filter fun tried =>
          tried.1.outside?.isSome).map (·.2.1) := by
  apply Calls.applyEach_simulates _ _ h
  · intro s r call hbeside hnone
    obtain ⟨hconditions, hparent⟩ := JoinScope.attempt_of_outside_none (s := s) hnone
    refine ⟨hparent.trans hbeside.count, ?_⟩
    rw [hconditions]
    exact hbeside.state
  · intro s r call outside hbeside hsome
    cases call with
    | filter k f =>
      obtain rfl := Option.some.inj hsome
      exact filter_beside hbeside k f
    | _ => cases hsome

/-- A join callback that goes on after failing calls adds its join and, behind it, what
its filters would have added in place; each of them has the same outcome in both. -/
theorem joinWith_writes_through (q : QueryState) (kind : JoinKind) (target : String)
    (calls : List JoinCall) :
    match q.openScope kind target with
    | .error e => q.apply (.joinWith kind target calls true) = .error e
    | .ok scope =>
      let tried := scope.applyEach calls
      let joined := q.withJoin (Calls.lastState scope tried).join
      let direct := Calls.applyEach apply joined (calls.filterMap JoinCall.outside?)
      q.apply (.joinWith kind target calls true) = .ok (Calls.lastState joined direct) ∧
        direct.map (·.1) =
          ((calls.zip tried).filter fun call => call.1.outside?.isSome).map (·.2.1) := by
  cases hopen : q.openScope kind target with
  | error e =>
    show (q.openScope kind target >>= _) = _
    rw [hopen]
    rfl
  | ok scope =>
    dsimp only
    have hopened : scope.parentClauses = q.conditions.primary.length ∧
        scope.conditions = .empty := by
      obtain ⟨t, _, rfl⟩ := JoinScope.start_ok hopen
      exact ⟨rfl, rfl⟩
    let last := Calls.lastState scope (scope.applyEach calls)
    have hstart : Beside q (q.withJoin last.join) scope (q.withJoin last.join) := by
      refine ⟨hopened.1, ?_⟩
      rw [hopened.2, Conditions.absorb_empty]
      rfl
    obtain ⟨hbeside, houtcomes⟩ := applyEach_beside hstart calls
    refine ⟨?_, houtcomes⟩
    have hclosed : q.apply (.joinWith kind target calls true) = .ok (q.closeScope last) := by
      show (q.openScope kind target >>= _) = _
      rw [hopen]
      rfl
    rw [hclosed, hbeside.state]
    rfl

end QueryState

end FluentSql
