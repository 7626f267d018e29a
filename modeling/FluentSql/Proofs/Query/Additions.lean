import FluentSql.Proofs.Clause.SectionText
import FluentSql.Proofs.Query.Linked

/-!
# Clauses that calls add

A clause call adds one predicate to a bucket, a join callback one for each of its filters
that succeeds. The buckets of a query hold what its calls added, in the order of the
calls, and the guard of reads comes last.
-/

namespace FluentSql

/-- A predicate and the bucket it was added to. -/
structure Addition where
  part : Section
  connective : Connective
  predicate : Predicate

namespace Addition

/-- The predicate, if it was added to this bucket. -/
def pick (part : Section) (k : Connective) (a : Addition) : Option Predicate :=
  if a.part = part ∧ a.connective = k then some a.predicate else none

/-- What was added to a bucket, in order. -/
def select (part : Section) (k : Connective) (log : List Addition) : List Predicate :=
  log.filterMap (pick part k)

theorem exists_of_mem_select {part : Section} {k : Connective} {log : List Addition}
    {p : Predicate} (h : p ∈ select part k log) : ∃ a ∈ log, a.predicate = p := by
  obtain ⟨a, ha, hpick⟩ := List.mem_filterMap.mp h
  unfold pick at hpick
  split at hpick
  · exact ⟨a, ha, Option.some.inj hpick⟩
  · cases hpick

end Addition

def Filter.additions (f : Filter) (part : Section) (k : Connective) : List Addition :=
  match f.predicate with
  | .ok p => [⟨part, k, p⟩]
  | .error _ => []

def JoinCall.additions : JoinCall → List Addition
  | .filter k f => f.additions .where_ k
  | _ => []

namespace Conditions

theorem predicates_empty (k : Connective) : empty.predicates k = [] := by
  cases k <;> rfl

theorem predicates_addAnd (c : Conditions) (p : Predicate) (preceding : Nat) (k : Connective) :
    (c.addAnd p preceding).predicates k =
      c.predicates k ++ if k = .and then [p] else [] := by
  cases k with
  | and => exact List.map_append
  | or => exact (List.append_nil _).symm

theorem predicates_add {c c' : Conditions} {k : Connective} {p : Predicate} {preceding : Nat}
    {part : String} (h : c.add k p preceding part = .ok c') (k' : Connective) :
    c'.predicates k' = c.predicates k' ++ if k' = k then [p] else [] := by
  have hadd := add_ok h
  cases k with
  | and =>
    have heq : c' = c.addAnd p preceding := hadd
    rw [heq, predicates_addAnd]
  | or =>
    obtain ⟨_, rfl⟩ := hadd
    cases k' with
    | and => exact (List.append_nil _).symm
    | or => exact List.map_append

theorem predicates_absorb (c scope : Conditions) (k : Connective) :
    (c.absorb scope).predicates k = c.predicates k ++ scope.predicates k := by
  cases k <;> exact List.map_append

/-- A filter that was added extends its bucket by its own addition. -/
theorem predicates_add_filter {c c' : Conditions} {k : Connective} {f : Filter} {p : Predicate}
    {preceding : Nat} {label : String} (hp : f.predicate = .ok p)
    (h : c.add k p preceding label = .ok c') (part : Section) (k' : Connective) :
    c'.predicates k' = c.predicates k' ++ Addition.select part k' (f.additions part k) := by
  rw [predicates_add h]
  unfold Filter.additions Addition.select Addition.pick
  rw [hp]
  by_cases hk : k = k'
  · subst hk
    simp
  · simp [hk, Ne.symm hk]

end Conditions

theorem Addition.select_other {part part' : Section} (h : part ≠ part') (k k' : Connective)
    (f : Filter) : Addition.select part k' (f.additions part' k) = [] := by
  unfold Filter.additions Addition.select Addition.pick
  cases f.predicate with
  | error e => rfl
  | ok p => simp [Ne.symm h]

theorem JoinScope.predicates_apply {s s' : JoinScope} {call : JoinCall}
    (h : s.apply call = .ok s') (k : Connective) :
    s'.conditions.predicates k =
      s.conditions.predicates k ++ Addition.select .where_ k call.additions := by
  have heffect := apply_ok h
  cases call with
  | on column operator operand =>
    obtain ⟨op, _, _, rfl⟩ := heffect
    exact (List.append_nil _).symm
  | orOn column operator operand =>
    obtain ⟨_, op, _, _, rfl⟩ := heffect
    exact (List.append_nil _).symm
  | filter k' f =>
    obtain ⟨p, c, hp, hc, rfl⟩ := heffect
    exact Conditions.predicates_add_filter hp hc .where_ k
  | useIndex name =>
    obtain ⟨_, rfl⟩ := heffect
    exact (List.append_nil _).symm
  | raise e => exact heffect.elim

namespace JoinScope

/-- What the calls of a callback add to the query, as far as they succeed. -/
def additionsOf (s : JoinScope) (calls : List JoinCall) : List Addition :=
  Calls.logged apply (fun _ call => call.additions) s calls

theorem predicates_applyEach (s : JoinScope) (calls : List JoinCall) (k : Connective) :
    (Calls.lastState s (s.applyEach calls)).conditions.predicates k =
      s.conditions.predicates k ++ Addition.select .where_ k (s.additionsOf calls) :=
  Calls.view_lastState (fun s => s.conditions.predicates k) (Addition.pick .where_ k)
    (fun _ _ _ happly => predicates_apply happly k) s calls

/-- What a callback adds goes to the WHERE part. -/
theorem select_having_additionsOf (s : JoinScope) (calls : List JoinCall) (k : Connective) :
    Addition.select .having k (s.additionsOf calls) = [] := by
  have hnone : ∀ call : JoinCall, Addition.select .having k call.additions = [] := by
    intro call
    cases call with
    | filter k' f =>
      show Addition.select .having k (f.additions .where_ k') = []
      exact Addition.select_other (by decide) k' k f
    | _ => rfl
  exact (Calls.view_lastState (fun _ => []) (Addition.pick .having k)
    (fun _ call _ _ => (hnone call).symm) s calls).symm

end JoinScope

namespace QueryState

/-- The conditions of a part of the query. -/
def section_ (q : QueryState) : Section → Conditions
  | .where_ => q.conditions
  | .having => q.having

/-- What a call adds when it succeeds. A callback is followed call by call, as far as its
own calls succeed. -/
def additions (q : QueryState) : QueryCall → List Addition
  | .filter part k f => f.additions part k
  | .joinWith kind target calls _ =>
    match q.openScope kind target with
    | .ok scope => scope.additionsOf calls
    | .error _ => []
  | _ => []

/-- What the calls of a run add, failing ones left out. -/
def additionsOf (q : QueryState) (calls : List QueryCall) : List Addition :=
  Calls.logged apply additions q calls

/-- The state after a run of calls, failing ones left out. -/
def afterCalls (q : QueryState) (calls : List QueryCall) : QueryState :=
  Calls.lastState q (Calls.applyEach apply q calls)

/-- A strict callback that succeeds ends where a tolerant one does. -/
theorem joinWith_closes {q q' : QueryState} {kind : JoinKind} {target : String}
    {calls : List JoinCall} {tolerant : Bool}
    (h : q.apply (.joinWith kind target calls tolerant) = .ok q') :
    ∃ scope, q.openScope kind target = .ok scope ∧
      q' = q.closeScope (Calls.lastState scope (scope.applyEach calls)) := by
  obtain ⟨scope, hopen, h⟩ := ok_of_bind h
  obtain ⟨last, hbuild, h⟩ := ok_of_bind h
  refine ⟨scope, hopen, ?_⟩
  have hlast : Calls.lastState scope (scope.applyEach calls) = last := by
    cases tolerant with
    | false => exact Calls.lastState_of_applyAll hbuild
    | true => exact Except.ok.inj hbuild
  rw [hlast]
  exact (Except.ok.inj h).symm

/-- Each call extends the buckets by what it adds. -/
theorem predicates_apply {q q' : QueryState} {call : QueryCall} (h : q.apply call = .ok q')
    (part : Section) (k : Connective) :
    (q'.section_ part).predicates k =
      (q.section_ part).predicates k ++ Addition.select part k (q.additions call) := by
  have heffect := apply_ok h
  cases call with
  | filter part' k' f =>
    cases part' with
    | where_ =>
      obtain ⟨p, c, hp, hc, rfl⟩ := heffect
      cases part with
      | where_ => exact Conditions.predicates_add_filter hp hc .where_ k
      | having =>
        rw [additions, Addition.select_other (by decide), List.append_nil]
        rfl
    | having =>
      obtain ⟨p, c, hp, hc, rfl⟩ := heffect
      cases part with
      | where_ =>
        rw [additions, Addition.select_other (by decide), List.append_nil]
        rfl
      | having => exact Conditions.predicates_add_filter hp hc .having k
  | joinWith kind target calls tolerant =>
    obtain ⟨scope, hopen, rfl⟩ := joinWith_closes h
    have hlog : q.additions (.joinWith kind target calls tolerant) =
        scope.additionsOf calls := by
      simp only [additions, hopen]
    rw [hlog]
    cases part with
    | where_ =>
      have hempty : scope.conditions = .empty := by
        obtain ⟨t, _, rfl⟩ := JoinScope.start_ok hopen
        rfl
      have hscope := scope.predicates_applyEach calls k
      rw [hempty, Conditions.predicates_empty, List.nil_append] at hscope
      rw [← hscope]
      exact Conditions.predicates_absorb _ _ k
    | having =>
      rw [JoinScope.select_having_additionsOf, List.append_nil]
      rfl
  | select columns =>
    obtain rfl := heffect
    cases part <;> exact (List.append_nil _).symm
  | join kind target column operator operand =>
    obtain ⟨t, op, _, _, _, rfl⟩ := heffect
    cases part <;> exact (List.append_nil _).symm
  | groupBy columns =>
    obtain ⟨_, _, rfl⟩ := heffect
    cases part <;> exact (List.append_nil _).symm
  | orderBy column direction =>
    obtain ⟨dir, _, _, rfl⟩ := heffect
    cases part <;> exact (List.append_nil _).symm
  | limit n =>
    obtain ⟨_, rfl⟩ := heffect
    cases part <;> exact (List.append_nil _).symm
  | offset n =>
    obtain rfl := heffect
    cases part <;> exact (List.append_nil _).symm
  | useIndex names =>
    obtain ⟨_, _, rfl⟩ := heffect
    cases part <;> exact (List.append_nil _).symm

/-- A run extends the buckets by the additions of its calls. -/
theorem predicates_afterCalls (q : QueryState) (calls : List QueryCall) (part : Section)
    (k : Connective) :
    ((q.afterCalls calls).section_ part).predicates k =
      (q.section_ part).predicates k ++ Addition.select part k (q.additionsOf calls) :=
  Calls.view_lastState (fun q => (q.section_ part).predicates k) (Addition.pick part k)
    (fun _ _ _ happly => predicates_apply happly part k) q calls

end QueryState

end FluentSql
