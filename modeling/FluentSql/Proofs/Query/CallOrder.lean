import FluentSql.Proofs.Query.Additions
import FluentSql.Proofs.Query.WellFormed
import FluentSql.Query.Compile

/-!
# The order of calls

Each clause call goes to sections of the query, a join callback to the joins with its
conditions and hints, and to the WHERE sections with its filters. A state is determined by what
its calls brought to each section, in their order there: how calls to different sections are
interleaved leaves no trace, although connectives and refusals are decided at each call from the
clauses there are by then.
-/

namespace FluentSql

/-- A join with the calls on it, in order. -/
structure JoinCalls where
  kind : JoinKind
  target : String
  calls : List JoinCall

namespace JoinCall

/-- The filters of a callback with this connective. -/
def filters (k : Connective) : JoinCall → List Filter
  | .filter k' f => if k' = k then [f] else []
  | _ => []

/-- Whether the call is on the join itself. -/
def own : JoinCall → Bool
  | .filter _ _ => false
  | _ => true

end JoinCall

namespace QueryCall

@[simp]
def fields : QueryCall → List String
  | .select columns => columns
  | _ => []

def filters (part : Section) (k : Connective) : QueryCall → List Filter
  | .filter part' k' f => if part' = part ∧ k' = k then [f] else []
  | .joinWith _ _ calls _ => if part = .where_ then calls.flatMap (JoinCall.filters k) else []
  | _ => []

/-- The join of a call. Its filters belong to other sections. -/
@[simp]
def joins : QueryCall → List JoinCalls
  | .join kind target column operator operand => [⟨kind, target, [.on column operator operand]⟩]
  | .joinWith kind target calls _ => [⟨kind, target, calls.filter JoinCall.own⟩]
  | _ => []

@[simp]
def groupColumns : QueryCall → List String
  | .groupBy columns => columns
  | _ => []

/-- A column and a direction to sort by, as they are given. -/
@[simp]
def sortings : QueryCall → List (String × String)
  | .orderBy column direction => [(column, direction)]
  | _ => []

@[simp]
def indexNames : QueryCall → List String
  | .useIndex names => names
  | _ => []

@[simp]
def limit? : QueryCall → Option Nat
  | .limit n => some n
  | _ => none

@[simp]
def offset? : QueryCall → Option Nat
  | .offset n => some n
  | _ => none

end QueryCall

/-- What calls bring to each section, in their order; of limits and offsets the last. -/
structure SectionCalls where
  fields : List String
  filters : Section → Connective → List Filter
  joins : List JoinCalls
  groupColumns : List String
  sortings : List (String × String)
  indexNames : List String
  limit : Option Nat
  offset : Option Nat

def SectionCalls.of (calls : List QueryCall) : SectionCalls where
  fields := calls.flatMap QueryCall.fields
  filters part k := calls.flatMap (QueryCall.filters part k)
  joins := calls.flatMap QueryCall.joins
  groupColumns := calls.flatMap QueryCall.groupColumns
  sortings := calls.flatMap QueryCall.sortings
  indexNames := calls.flatMap QueryCall.indexNames
  limit := (calls.filterMap QueryCall.limit?).getLast?
  offset := (calls.filterMap QueryCall.offset?).getLast?

/-- The calls of a callback that succeed. -/
def JoinScope.successes (s : JoinScope) (calls : List JoinCall) : List JoinCall :=
  Calls.logged apply (fun _ call => [call]) s calls

namespace QueryState

/-- The call without the calls that fail inside its callback. -/
def success (q : QueryState) (call : QueryCall) : QueryCall :=
  match call with
  | .joinWith kind target calls tolerant =>
    match q.openScope kind target with
    | .ok scope => .joinWith kind target (scope.successes calls) tolerant
    | .error _ => call
  | _ => call

/-- The calls of a run that succeed, those inside callbacks included. -/
def successes (q : QueryState) (calls : List QueryCall) : List QueryCall :=
  Calls.logged apply (fun q call => [q.success call]) q calls

/-- A strict callback that goes through has no call that fails. -/
theorem success_of_apply {q q' : QueryState} {call : QueryCall} (h : q.apply call = .ok q')
    (hstrict : ∀ kind target calls, call ≠ .joinWith kind target calls true) :
    q.success call = call := by
  cases call with
  | joinWith kind target calls tolerant =>
    cases tolerant with
    | true => exact absurd rfl (hstrict kind target calls)
    | false =>
      obtain ⟨scope, hopen, h⟩ := ok_of_bind h
      obtain ⟨last, hbuild, _⟩ := ok_of_bind h
      have hall : scope.successes calls = calls :=
        Calls.logged_of_applyAll (fun _ call => call) (fun _ _ _ _ _ => rfl) hbuild
      simp only [success, hopen, hall]
  | _ => rfl

/-- Where callbacks are strict, all calls of a run that goes through succeed. -/
theorem successes_of_strict {q q' : QueryState} {calls : List QueryCall}
    (hstrict : ∀ call ∈ calls, ∀ kind target inner, call ≠ .joinWith kind target inner true)
    (h : q.applyAll calls = .ok q') : q.successes calls = calls :=
  Calls.logged_of_applyAll success
    (fun _ _ call hmem happly => success_of_apply happly (hstrict call hmem)) h

end QueryState

/-! What the clauses become -/

/-- The predicate of a filter that passes its checks. -/
def Filter.passed (f : Filter) : List Predicate :=
  f.predicate.toOption.toList

theorem Addition.select_additions (part part' : Section) (k k' : Connective) (f : Filter) :
    select part k (f.additions part' k') = if part' = part ∧ k' = k then f.passed else [] := by
  unfold Filter.additions Filter.passed select pick
  cases f.predicate with
  | error e => simp [Except.toOption]
  | ok p =>
    by_cases h : part' = part ∧ k' = k
    · simp [h, Except.toOption]
    · simp [h]

theorem JoinCall.select_additions (k : Connective) (call : JoinCall) :
    Addition.select .where_ k call.additions = (call.filters k).flatMap Filter.passed := by
  cases call with
  | filter k' f =>
    show Addition.select .where_ k (f.additions .where_ k') = _
    rw [Addition.select_additions, filters]
    by_cases h : k' = k
    · simp [h]
    · simp [h]
  | _ => rfl

theorem JoinScope.select_additionsOf (s : JoinScope) (calls : List JoinCall) (k : Connective) :
    Addition.select .where_ k (s.additionsOf calls) =
      ((s.successes calls).flatMap (JoinCall.filters k)).flatMap Filter.passed := by
  have hlog : s.additionsOf calls = (s.successes calls).flatMap JoinCall.additions :=
    Calls.logged_eq_flatMap _ s calls
  have hselect : ∀ log : List JoinCall, Addition.select .where_ k (log.flatMap JoinCall.additions) =
      (log.flatMap (JoinCall.filters k)).flatMap Filter.passed := by
    intro log
    rw [Addition.select, List.filterMap_flatMap, List.flatMap_assoc]
    exact congrArg log.flatMap (funext fun call => JoinCall.select_additions k call)
  rw [hlog, hselect]

/-- A call that succeeds adds what its filters ask for. -/
theorem QueryState.select_additions {q q' : QueryState} {call : QueryCall}
    (h : q.apply call = .ok q') (part : Section) (k : Connective) :
    Addition.select part k (q.additions call) =
      ((q.success call).filters part k).flatMap Filter.passed := by
  cases call with
  | filter part' k' f =>
    have hsuccess : q.success (.filter part' k' f) = .filter part' k' f := rfl
    rw [hsuccess, additions, Addition.select_additions, QueryCall.filters]
    split
    · simp
    · rfl
  | joinWith kind target calls tolerant =>
    obtain ⟨scope, hopen, _⟩ := joinWith_closes h
    simp only [additions, success, hopen, QueryCall.filters]
    cases part with
    | where_ => exact scope.select_additionsOf calls k
    | having => exact scope.select_having_additionsOf calls k
  | _ => rfl

namespace Conditions

/-- The conditions of these predicates. -/
def ofPredicates (primary alternatives : List Predicate) : Conditions where
  primary := primary.mapIdx fun i p => ⟨p, if i = 0 then none else some .and⟩
  alternatives := alternatives.map fun p => ⟨p, some .or⟩

/-- Well-formed conditions are determined by their predicates. -/
theorem WellFormed.eq_ofPredicates {c : Conditions} (h : c.WellFormed) :
    c = ofPredicates (c.predicates .and) (c.predicates .or) := by
  have hprimary : c.primary =
      (c.predicates .and).mapIdx fun i p => ⟨p, if i = 0 then none else some .and⟩ := by
    apply List.ext_getElem?
    intro i
    cases hi : c.primary[i]? with
    | none => simp [Conditions.predicates, bucket, hi]
    | some clause => simp [Conditions.predicates, bucket, hi, ← h.primary i clause hi]
  have halternatives : c.alternatives = (c.predicates .or).map fun p => ⟨p, some .or⟩ := by
    have hmap : ∀ clause ∈ c.alternatives, Clause.mk clause.predicate (some .or) = clause := by
      intro clause hclause
      rw [← h.alternatives clause hclause]
    rw [Conditions.predicates, bucket, List.map_map]
    exact (List.map_id' _).symm.trans (List.map_congr_left fun clause h => (hmap clause h).symm)
  rw [ofPredicates, ← hprimary, ← halternatives]

end Conditions

/-! What the joins become -/

namespace Join

def withCondition (j : Join) (k : Connective) (column operator operand : String) : Join :=
  match Operator.read operator with
  | .ok op =>
    { j with on := j.on ++ [⟨Text.trim column, op, Operand.read operand,
        if j.on.isEmpty then none else some k⟩] }
  | .error _ => j

/-- What a call that succeeds makes of the join. -/
def after (j : Join) : JoinCall → Join
  | .on column operator operand => j.withCondition .and column operator operand
  | .orOn column operator operand => j.withCondition .or column operator operand
  | .useIndex name => { j with indexHints := j.indexHints ++ [Text.trim name] }
  | _ => j

theorem foldl_after_own (j : Join) (calls : List JoinCall) :
    (calls.filter JoinCall.own).foldl after j = calls.foldl after j := by
  have hafter : (fun j call => if JoinCall.own call then after j call else j) = after := by
    funext j call
    split
    · rfl
    · next hown =>
      cases call with
      | filter k f => rfl
      | _ => exact absurd rfl hown
  rw [List.foldl_filter, hafter]

end Join

namespace JoinScope

theorem join_apply {s s' : JoinScope} {call : JoinCall} (h : s.apply call = .ok s') :
    s'.join = s.join.after call := by
  have heffect := apply_ok h
  cases call with
  | on column operator operand =>
    obtain ⟨op, hop, _, rfl⟩ := heffect
    simp only [Join.after, Join.withCondition, hop]
  | orOn column operator operand =>
    obtain ⟨_, op, hop, _, rfl⟩ := heffect
    simp only [Join.after, Join.withCondition, hop]
  | filter k f =>
    obtain ⟨p, c, _, _, rfl⟩ := heffect
    rfl
  | useIndex name =>
    obtain ⟨_, rfl⟩ := heffect
    rfl
  | raise e => exact heffect.elim

/-- The calls that succeed build the join, whatever clauses the query had. -/
theorem join_lastState (s : JoinScope) (calls : List JoinCall) :
    (Calls.lastState s (s.applyEach calls)).join = (s.successes calls).foldl Join.after s.join := by
  have hstart : s.join = ([] : List JoinCall).foldl Join.after s.join := rfl
  refine Calls.logged_invariant
    (R := fun (b : JoinScope) log => b.join = log.foldl Join.after s.join) ?_ hstart calls
  intro b log call c hjoin happly
  rw [join_apply happly, hjoin, List.foldl_append]
  rfl

end JoinScope

/-- The join that the calls build. -/
def JoinCalls.built (j : JoinCalls) : List Join :=
  match JoinTarget.read j.target with
  | .ok target => [j.calls.foldl Join.after ⟨target, j.kind, [], []⟩]
  | .error _ => []

def SortKey.read (sorting : String × String) : List SortKey :=
  match Direction.read sorting.2 with
  | .ok direction => [⟨Text.trim sorting.1, direction⟩]
  | .error _ => []

namespace QueryState

/-- Each part holds what its section brought. -/
structure Holds (q : QueryState) (table : String) (calls : SectionCalls) : Prop where
  table : q.table = table
  fields : q.fields = calls.fields
  predicates : ∀ part k,
    (q.section_ part).predicates k = (calls.filters part k).flatMap Filter.passed
  joins : q.joins = calls.joins.flatMap JoinCalls.built
  groupBy : q.groupBy = calls.groupColumns
  orderBy : q.orderBy = calls.sortings.flatMap SortKey.read
  indexHints : q.indexHints = calls.indexNames
  limit : q.limit = calls.limit
  offset : q.offset = calls.offset

/-- What a call brings to the sections without conditions. -/
structure Brings (q : QueryState) (call : QueryCall) (q' : QueryState) : Prop where
  fields : q'.fields = q.fields ++ call.fields
  joins : q'.joins = q.joins ++ call.joins.flatMap JoinCalls.built
  groupBy : q'.groupBy = q.groupBy ++ call.groupColumns
  orderBy : q'.orderBy = q.orderBy ++ call.sortings.flatMap SortKey.read
  indexHints : q'.indexHints = q.indexHints ++ call.indexNames
  limit : q'.limit = call.limit?.or q.limit
  offset : q'.offset = call.offset?.or q.offset

theorem brings_of_apply {q q' : QueryState} {call : QueryCall} (h : q.apply call = .ok q') :
    Brings q (q.success call) q' := by
  have heffect := apply_ok h
  cases call with
  | select columns =>
    obtain rfl := heffect
    constructor <;> simp [success]
  | filter part k f =>
    cases part with
    | where_ =>
      obtain ⟨p, c, _, _, rfl⟩ := heffect
      constructor <;> simp [success]
    | having =>
      obtain ⟨p, c, _, _, rfl⟩ := heffect
      constructor <;> simp [success]
  | join kind target column operator operand =>
    obtain ⟨t, op, ht, hop, _, rfl⟩ := heffect
    have hbuilt : JoinCalls.built ⟨kind, target, [.on column operator operand]⟩ =
        [⟨t, kind, [⟨Text.trim column, op, Operand.read operand, none⟩], []⟩] := by
      simp [JoinCalls.built, ht, Join.after, Join.withCondition, hop]
    constructor <;> simp [success, hbuilt]
  | joinWith kind target calls tolerant =>
    obtain ⟨scope, hopen, rfl⟩ := joinWith_closes h
    obtain ⟨t, ht, hscope⟩ := JoinScope.start_ok hopen
    have hbuilt : JoinCalls.built ⟨kind, target, (scope.successes calls).filter JoinCall.own⟩ =
        [(Calls.lastState scope (scope.applyEach calls)).join] := by
      simp only [JoinCalls.built, ht, JoinScope.join_lastState, Join.foldl_after_own, hscope]
    constructor <;> simp [success, hopen, closeScope, hbuilt]
  | groupBy columns =>
    obtain ⟨_, _, rfl⟩ := heffect
    constructor <;> simp [success]
  | orderBy column direction =>
    obtain ⟨dir, hdir, _, rfl⟩ := heffect
    constructor <;> simp [success, SortKey.read, hdir]
  | limit n =>
    obtain ⟨_, rfl⟩ := heffect
    constructor <;> simp [success]
  | offset n =>
    obtain rfl := heffect
    constructor <;> simp [success]
  | useIndex names =>
    obtain ⟨_, _, rfl⟩ := heffect
    constructor <;> simp [success]

theorem holds_start {table : String} {q : QueryState} (h : start table = .ok q) :
    q.Holds (Text.trim table) (.of []) := by
  obtain ⟨_, rfl⟩ := start_ok h
  constructor
  case predicates =>
    intro part k
    cases part <;> exact Conditions.predicates_empty k
  all_goals rfl

/-- A call that succeeds goes behind those of its sections. -/
theorem Holds.apply {q q' : QueryState} {table : String} {calls : List QueryCall}
    {call : QueryCall} (hq : q.Holds table (.of calls)) (h : q.apply call = .ok q') :
    q'.Holds table (.of (calls ++ [q.success call])) := by
  have hbrings := brings_of_apply h
  constructor
  case table => rw [table_apply h, hq.table]
  case predicates =>
    intro part k
    rw [predicates_apply h, hq.predicates, select_additions h]
    simp [SectionCalls.of]
  case fields => simp [hbrings.fields, hq.fields, SectionCalls.of]
  case joins => simp [hbrings.joins, hq.joins, SectionCalls.of]
  case groupBy => simp [hbrings.groupBy, hq.groupBy, SectionCalls.of]
  case orderBy => simp [hbrings.orderBy, hq.orderBy, SectionCalls.of]
  case indexHints => simp [hbrings.indexHints, hq.indexHints, SectionCalls.of]
  case limit =>
    rw [hbrings.limit, hq.limit]
    simp [SectionCalls.of]
  case offset =>
    rw [hbrings.offset, hq.offset]
    simp [SectionCalls.of]

theorem holds_afterCalls {table : String} {q : QueryState} (h : start table = .ok q)
    (calls : List QueryCall) :
    (q.afterCalls calls).Holds (Text.trim table) (.of (q.successes calls)) :=
  Calls.logged_invariant (R := fun (q : QueryState) log => q.Holds (Text.trim table) (.of log))
    (fun _ _ _ _ hq happly => hq.apply happly) (holds_start h) calls

theorem Holds.conditions_unique {q q' : QueryState} {table : String} {calls : SectionCalls}
    (hq : q.Holds table calls) (hq' : q'.Holds table calls) (part : Section)
    (hwf : (q.section_ part).WellFormed) (hwf' : (q'.section_ part).WellFormed) :
    q.section_ part = q'.section_ part := by
  rw [hwf.eq_ofPredicates, hwf'.eq_ofPredicates]
  simp only [hq.predicates, hq'.predicates]

/-- Nothing but the sections is in a well-formed state. -/
theorem Holds.unique {q q' : QueryState} {table : String} {calls : SectionCalls}
    (hq : q.Holds table calls) (hq' : q'.Holds table calls) (hwf : q.WellFormed)
    (hwf' : q'.WellFormed) : q = q' := by
  have hconditions : q.conditions = q'.conditions :=
    hq.conditions_unique hq' .where_ hwf.conditions hwf'.conditions
  have hhaving : q.having = q'.having :=
    hq.conditions_unique hq' .having hwf.having hwf'.having
  obtain ⟨table, fields, conditions, joins, groupBy, having, orderBy, limit, offset, hints⟩ := q
  rw [mk.injEq]
  exact ⟨hq.table.trans hq'.table.symm, hq.fields.trans hq'.fields.symm, hconditions,
    hq.joins.trans hq'.joins.symm, hq.groupBy.trans hq'.groupBy.symm, hhaving,
    hq.orderBy.trans hq'.orderBy.symm, hq.limit.trans hq'.limit.symm,
    hq.offset.trans hq'.offset.symm, hq.indexHints.trans hq'.indexHints.symm⟩

/-- Two runs on the same new query that agree section by section on the calls that succeed
in them end in the same state, and so in the same statements with the same values. Runs with
strict callbacks consist of such calls (`successes_of_strict`). -/
theorem applyAll_eq_of_sections {table : String} {q₀ q q' : QueryState}
    (hstart : start table = .ok q₀) {calls calls' : List QueryCall}
    (h : q₀.applyAll calls = .ok q) (h' : q₀.applyAll calls' = .ok q')
    (hagree : SectionCalls.of (q₀.successes calls) = SectionCalls.of (q₀.successes calls')) :
    q = q' ∧ q.bindings = q'.bindings ∧
      ∀ d statement, q.compile d statement = q'.compile d statement := by
  have hholds := holds_afterCalls hstart calls
  have hholds' := holds_afterCalls hstart calls'
  rw [← hagree] at hholds'
  have hlast : q₀.afterCalls calls = q := Calls.lastState_of_applyAll h
  have hlast' : q₀.afterCalls calls' = q' := Calls.lastState_of_applyAll h'
  rw [hlast] at hholds
  rw [hlast'] at hholds'
  obtain rfl := hholds.unique hholds' (wellFormed_of_applyAll hstart h)
    (wellFormed_of_applyAll hstart h')
  exact ⟨rfl, rfl, fun _ _ => rfl⟩

/-- An alternative before the clause of a callback, and the page first. -/
def pagedPosts : List QueryCall :=
  [.limit 9, .filter .where_ .and (.equals "a" (.int 1)),
    .filter .where_ .or (.equals "b" (.int 2)), .offset 3, .orderBy "a" "desc",
    .joinWith .left "users u" [.filter .or (.equals "c" (.int 3)),
      .on "u.id" "=" "posts.user_id", .filter .and (.equals "d" (.int 4))] false,
    .limit 5, .select ["a"], .useIndex ["by_a"]]

/-- The same calls, the clauses that have to hold before the alternatives. -/
def pagedPostsByPart : List QueryCall :=
  [.select ["a"], .filter .where_ .and (.equals "a" (.int 1)),
    .joinWith .left "users u" [.on "u.id" "=" "posts.user_id",
      .filter .and (.equals "d" (.int 4))] false,
    .filter .where_ .or (.equals "b" (.int 2)), .filter .where_ .or (.equals "c" (.int 3)),
    .orderBy "a" "desc", .limit 5, .offset 3, .useIndex ["by_a"]]

theorem applyAll_eq_of_sections_pagedPosts :
    ∃ q₀ q q', start "posts" = .ok q₀ ∧ q₀.applyAll pagedPosts = .ok q ∧
      q₀.applyAll pagedPostsByPart = .ok q' ∧ q = q' ∧
      q.compileSelect .sqlite = q'.compileSelect .sqlite := by
  have hfilters : ∀ part k, pagedPosts.flatMap (QueryCall.filters part k) =
      pagedPostsByPart.flatMap (QueryCall.filters part k) := by
    intro part k
    cases part <;> cases k <;> rfl
  have hagree : SectionCalls.of pagedPosts = SectionCalls.of pagedPostsByPart := by
    simp only [SectionCalls.of, hfilters]
    rfl
  have hstrict : ∀ call ∈ pagedPosts ++ pagedPostsByPart, ∀ kind target inner,
      call ≠ .joinWith kind target inner true := by
    simp [pagedPosts, pagedPostsByPart]
  obtain ⟨hone, hother⟩ := List.forall_mem_append.mp hstrict
  refine ⟨_, _, _, rfl, rfl, rfl, ?_⟩
  have heq := @applyAll_eq_of_sections "posts" _ _ _ rfl pagedPosts pagedPostsByPart rfl rfl
    (by rw [successes_of_strict hone rfl, successes_of_strict hother rfl, hagree])
  exact ⟨heq.1, congrArg _ heq.1⟩

end QueryState

end FluentSql
