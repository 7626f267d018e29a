import FluentSql.Proofs.Query.Step
import FluentSql.Proofs.Value.Carried

/-!
# Queries of changed values

A map of values acts on everything that a query is built of. The calls commute with it:
which of them fail, and with which error, does not depend on a value.
-/

namespace FluentSql

namespace Calls

variable {α β : Type} {apply : α → β → Except Error α} {F : α → α} {G : β → β}

theorem applyAll_map (h : ∀ a call, apply (F a) (G call) = (apply a call).map F) (a : α)
    (calls : List β) : applyAll apply (F a) (calls.map G) = (applyAll apply a calls).map F := by
  induction calls generalizing a with
  | nil => rfl
  | cons call calls ih =>
    rw [List.map_cons, applyAll, applyAll, h]
    exact bind_map (fun next => ih next) (apply a call)

theorem lastState_map (h : ∀ a call, apply (F a) (G call) = (apply a call).map F) (a : α)
    (calls : List β) :
    lastState (F a) (applyEach apply (F a) (calls.map G)) =
      F (lastState a (applyEach apply a calls)) := by
  induction calls generalizing a with
  | nil => rfl
  | cons call calls ih =>
    have hstate : (attempt apply (F a) (G call)).2 = F (attempt apply a call).2 := by
      unfold attempt
      rw [h]
      cases apply a call with
      | error e => rfl
      | ok next => rfl
    rw [List.map_cons, applyEach, applyEach, lastState_cons, lastState_cons, hstate]
    exact ih _

end Calls

variable (g : Value → Value)

def Predicate.change : Predicate → Predicate
  | .compare c op v => .compare c op (g v)
  | .between c negated low high => .between c negated (g low) (g high)
  | .inList c negated vs => .inList c negated (vs.map g)
  | .isNull c negated => .isNull c negated

def Clause.change (c : Clause) : Clause :=
  { c with predicate := c.predicate.change g }

def Conditions.change (c : Conditions) : Conditions :=
  ⟨c.primary.map (Clause.change g), c.alternatives.map (Clause.change g)⟩

def JoinScope.change (s : JoinScope) : JoinScope :=
  { s with conditions := s.conditions.change g }

def QueryState.change (q : QueryState) : QueryState :=
  { q with conditions := q.conditions.change g, having := q.having.change g }

theorem Filter.predicate_change (f : Filter) :
    (Carries.change g f).predicate = f.predicate.map (Predicate.change g) := by
  obtain ⟨column, test⟩ := f
  cases test with
  | compare raw v =>
    refine bind_map_right (fun op => ?_) (Operator.read raw)
    refine bind_map_right (fun c => ?_) (checkedColumn column)
    rfl
  | between negated low high =>
    refine bind_map_right (fun c => ?_) (checkedColumn column)
    rfl
  | inList negated vs =>
    refine bind_map_right (fun c => ?_) (checkedColumn column)
    cases vs with
    | nil => rfl
    | cons v vs => rfl
  | isNull negated =>
    refine bind_map_right (fun c => ?_) (checkedColumn column)
    rfl

namespace Conditions

theorem addAnd_change (c : Conditions) (p : Predicate) (preceding : Nat) :
    (c.change g).addAnd (p.change g) preceding = (c.addAnd p preceding).change g := by
  simp only [addAnd, Conditions.change, List.length_map, List.map_append, List.map_cons,
    List.map_nil, Clause.change]

theorem add_change (c : Conditions) (k : Connective) (p : Predicate) (preceding : Nat)
    (part : String) :
    (c.change g).add k (p.change g) preceding part =
      (c.add k p preceding part).map (Conditions.change g) := by
  cases k with
  | and =>
    show Except.ok ((c.change g).addAnd (p.change g) preceding) = _
    rw [addAnd_change]
    rfl
  | or =>
    show (c.change g).addOr (p.change g) preceding part = (c.addOr p preceding part).map _
    have hlength : (c.change g).primary.length = c.primary.length := List.length_map _
    unfold addOr
    rw [hlength]
    split
    · rfl
    · simp only [Except.map, Conditions.change, List.map_append, List.map_cons, List.map_nil,
        Clause.change]

theorem absorb_change (c other : Conditions) :
    (c.change g).absorb (other.change g) = (c.absorb other).change g := by
  simp only [absorb, Conditions.change, List.map_append]

theorem isEmpty_change (c : Conditions) : (c.change g).isEmpty = c.isEmpty := by
  simp only [isEmpty, Conditions.change, List.isEmpty_map]

end Conditions

namespace JoinScope

theorem addOn_change (s : JoinScope) (k : Connective) (column operator operand : String) :
    (s.change g).addOn k column operator operand =
      (s.addOn k column operator operand).map (JoinScope.change g) := by
  unfold addOn
  refine bind_map_right (fun op => ?_) (Operator.read operator)
  dsimp only
  split
  · rfl
  · rfl

theorem filter_change (s : JoinScope) (k : Connective) (f : Filter) :
    (s.change g).filter k (Carries.change g f) = (s.filter k f).map (JoinScope.change g) := by
  unfold filter
  rw [Filter.predicate_change]
  refine bind_map (fun p => ?_) f.predicate
  have hadd : (s.change g).conditions.add k (p.change g) (s.change g).parentClauses "where" =
      (s.conditions.add k p s.parentClauses "where").map (Conditions.change g) :=
    Conditions.add_change g s.conditions k p s.parentClauses "where"
  rw [hadd]
  refine bind_map (fun c => ?_) (s.conditions.add k p s.parentClauses "where")
  rfl

theorem apply_change (s : JoinScope) (call : JoinCall) :
    (s.change g).apply (Carries.change g call) = (s.apply call).map (JoinScope.change g) := by
  cases call with
  | on column operator operand => exact addOn_change g s .and column operator operand
  | orOn column operator operand =>
    show (s.change g).orOn column operator operand = (s.orOn column operator operand).map _
    unfold orOn
    have hjoin : (s.change g).join = s.join := rfl
    rw [hjoin]
    split
    · rfl
    · exact addOn_change g s .or column operator operand
  | filter k f => exact filter_change g s k f
  | useIndex name =>
    show (s.change g).useIndex name = (s.useIndex name).map _
    unfold useIndex
    dsimp only
    split
    · rfl
    · rfl
  | raise e => rfl

end JoinScope

namespace QueryState

theorem filter_change (q : QueryState) (part : Section) (k : Connective) (f : Filter) :
    (q.change g).filter part k (Carries.change g f) =
      (q.filter part k f).map (QueryState.change g) := by
  unfold filter
  rw [Filter.predicate_change]
  refine bind_map (fun p => ?_) f.predicate
  cases part with
  | where_ =>
    have hadd : (q.change g).conditions.add k (p.change g) 0 "where" =
        (q.conditions.add k p 0 "where").map (Conditions.change g) :=
      Conditions.add_change g q.conditions k p 0 "where"
    dsimp only [Section.label]
    rw [hadd]
    refine bind_map (fun c => ?_) (q.conditions.add k p 0 "where")
    rfl
  | having =>
    have hadd : (q.change g).having.add k (p.change g) 0 "having" =
        (q.having.add k p 0 "having").map (Conditions.change g) :=
      Conditions.add_change g q.having k p 0 "having"
    dsimp only [Section.label]
    rw [hadd]
    refine bind_map (fun c => ?_) (q.having.add k p 0 "having")
    rfl

theorem closeScope_change (q : QueryState) (scope : JoinScope) :
    (q.change g).closeScope (scope.change g) = (q.closeScope scope).change g := by
  unfold closeScope
  show { q.change g with
    joins := q.joins ++ [scope.join]
    conditions := (q.conditions.change g).absorb (scope.conditions.change g) } = _
  rw [Conditions.absorb_change]
  rfl

theorem joinWith_change (q : QueryState) (kind : JoinKind) (target : String)
    (calls : List JoinCall) (tolerant : Bool) :
    (q.change g).apply (Carries.change g (.joinWith kind target calls tolerant)) =
      (q.apply (.joinWith kind target calls tolerant)).map (QueryState.change g) := by
  have hlength : (q.change g).conditions.primary.length = q.conditions.primary.length :=
    List.length_map _
  show (q.change g).joinWith kind target (fun scope =>
      if tolerant then .ok (Calls.lastState scope (scope.applyEach (calls.map (Carries.change g))))
      else scope.applyAll (calls.map (Carries.change g))) =
    (q.joinWith kind target fun scope =>
      if tolerant then .ok (Calls.lastState scope (scope.applyEach calls))
      else scope.applyAll calls).map _
  unfold joinWith openScope
  rw [hlength]
  cases hstart : JoinScope.start target kind q.conditions.primary.length with
  | error e => rfl
  | ok scope =>
    -- An opened scope has no clauses yet, so a change leaves it as it is.
    have hscope : scope = scope.change g := by
      obtain ⟨t, _, rfl⟩ := JoinScope.start_ok hstart
      rfl
    cases tolerant with
    | true =>
      show Except.ok ((q.change g).closeScope
          (Calls.lastState scope
            (Calls.applyEach JoinScope.apply scope (calls.map (Carries.change g))))) =
        Except.ok ((q.closeScope
          (Calls.lastState scope (Calls.applyEach JoinScope.apply scope calls))).change g)
      rw [← closeScope_change, ← Calls.lastState_map (JoinScope.apply_change g), ← hscope]
    | false =>
      show (Calls.applyAll JoinScope.apply scope (calls.map (Carries.change g)) >>= fun scope =>
          pure ((q.change g).closeScope scope)) =
        Except.map _ (Calls.applyAll JoinScope.apply scope calls >>= fun scope =>
          pure (q.closeScope scope))
      have hcalls := Calls.applyAll_map (JoinScope.apply_change g) scope calls
      rw [← hscope] at hcalls
      rw [hcalls]
      refine bind_map (fun built => ?_) (Calls.applyAll JoinScope.apply scope calls)
      exact congrArg Except.ok (closeScope_change g q built)

theorem join_change (q : QueryState) (kind : JoinKind) (target column operator operand : String) :
    (q.change g).join kind target column operator operand =
      (q.join kind target column operator operand).map (QueryState.change g) := by
  rw [join, join, ← bind_assoc, ← bind_assoc]
  refine bind_map_right (fun scope => ?_) _
  rfl

theorem apply_change (q : QueryState) (call : QueryCall) :
    (q.change g).apply (Carries.change g call) = (q.apply call).map (QueryState.change g) := by
  cases call with
  | select columns => rfl
  | filter part k f => exact filter_change g q part k f
  | join kind target column operator operand =>
    exact join_change g q kind target column operator operand
  | joinWith kind target calls tolerant => exact joinWith_change g q kind target calls tolerant
  | groupBy columns =>
    show (q.change g).groupByColumns columns = (q.groupByColumns columns).map _
    unfold groupByColumns
    split
    · rfl
    · split
      · rfl
      · rfl
  | orderBy column direction =>
    show (q.change g).orderByColumn column direction = (q.orderByColumn column direction).map _
    unfold orderByColumn
    refine bind_map_right (fun dir => ?_) (Direction.read direction)
    dsimp only
    split
    · rfl
    · rfl
  | limit n =>
    show (q.change g).withLimit n = (q.withLimit n).map _
    unfold withLimit
    split
    · rfl
    · rfl
  | offset n => rfl
  | useIndex names =>
    show (q.change g).useIndex names = (q.useIndex names).map _
    unfold useIndex
    split
    · rfl
    · split
      · rfl
      · rfl

theorem hasClauses_change (q : QueryState) : (q.change g).hasClauses = q.hasClauses := by
  unfold hasClauses
  have hconditions : (q.change g).conditions.isEmpty = q.conditions.isEmpty :=
    Conditions.isEmpty_change g q.conditions
  have hhaving : (q.change g).having.isEmpty = q.having.isEmpty :=
    Conditions.isEmpty_change g q.having
  rw [hconditions, hhaving]
  rfl

/-- Whether a query asks for live rows does not depend on its values. -/
theorem guardReads_change (q : QueryState) : (q.change g).guardReads = q.guardReads.change g := by
  have hsame : ∀ p : Predicate, (p.change g).same Model.liveRows = p.same Model.liveRows := by
    intro p
    cases p <;> rfl
  have hcontains : (q.change g).conditions.contains Model.liveRows =
      q.conditions.contains Model.liveRows := by
    show (q.conditions.primary.map (Clause.change g)).any _ = q.conditions.primary.any _
    rw [List.any_map]
    exact congrArg q.conditions.primary.any (funext fun clause => hsame clause.predicate)
  unfold guardReads
  rw [hcontains]
  split
  · rfl
  · have hadd := Conditions.addAnd_change g q.conditions Model.liveRows 0
    show { q.change g with
      conditions := (q.conditions.change g).addAnd (Model.liveRows.change g) 0 } = _
    rw [hadd]
    rfl

end QueryState

end FluentSql
