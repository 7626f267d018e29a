import FluentSql.Model.Guard
import FluentSql.Proofs.Join.Target
import FluentSql.Proofs.Query.Step

/-!
# Vocabularies

A vocabulary says which texts a caller writes at each place of a query. Calls that keep
to it build states that keep to it, whatever their operands and values are: every text
of a state is one that a call brought, perhaps trimmed or cut into words.
-/

namespace FluentSql

/-- The texts admitted at each place; what a call stores of them stays admitted. -/
structure Vocabulary where
  /-- Tables and the words of join targets. -/
  table : String → Prop
  /-- Columns that WHERE and HAVING clauses test. -/
  column : String → Prop
  /-- Fields, group and sort columns, columns of join conditions, index hints. -/
  fragment : String → Prop
  table_trim : ∀ s, table s → table (Text.trim s)
  table_word : ∀ s, table s → ∀ w ∈ Text.words s, table w
  fragment_trim : ∀ s, fragment s → fragment (Text.trim s)

variable {V : Vocabulary}

/-- What a call inside a join callback writes. -/
def JoinCall.Within (V : Vocabulary) : JoinCall → Prop
  | .on column _ _ => V.fragment column
  | .orOn column _ _ => V.fragment column
  | .filter _ f => V.column f.column
  | .useIndex name => V.fragment name
  | .raise _ => True

/-- What a clause call writes. -/
def QueryCall.Within (V : Vocabulary) : QueryCall → Prop
  | .select columns => ∀ c ∈ columns, V.fragment c
  | .filter _ _ f => V.column f.column
  | .join _ target column _ _ => V.table target ∧ V.fragment column
  | .joinWith _ target calls _ => V.table target ∧ ∀ call ∈ calls, call.Within V
  | .groupBy columns => ∀ c ∈ columns, V.fragment c
  | .orderBy column _ => V.fragment column
  | .limit _ => True
  | .offset _ => True
  | .useIndex names => ∀ name ∈ names, V.fragment name

/-- Every text is admitted. -/
def Vocabulary.any : Vocabulary where
  table _ := True
  column _ := True
  fragment _ := True
  table_trim _ _ := trivial
  table_word _ _ _ _ := trivial
  fragment_trim _ _ := trivial

theorem QueryCall.within_any (call : QueryCall) : call.Within .any := by
  cases call with
  | join kind target column operator operand => exact ⟨trivial, trivial⟩
  | joinWith kind target calls tolerant =>
    refine ⟨trivial, ?_⟩
    intro call _
    cases call <;> trivial
  | select columns => exact fun _ _ => trivial
  | groupBy columns => exact fun _ _ => trivial
  | useIndex names => exact fun _ _ => trivial
  | filter part k f => trivial
  | orderBy column direction => trivial
  | limit n => trivial
  | offset n => trivial

/-- The predicate of a filter on a column of the vocabulary. -/
def Predicate.Within (V : Vocabulary) (p : Predicate) : Prop :=
  ∃ f : Filter, V.column f.column ∧ f.predicate = .ok p

namespace Conditions

/-- Every clause is a checked filter on a column of the vocabulary. -/
def Within (V : Vocabulary) (c : Conditions) : Prop :=
  ∀ clause ∈ c.clauses, clause.predicate.Within V

theorem within_empty : Within V empty := by
  intro clause h
  cases h

theorem Within.absorb {c other : Conditions} (hc : c.Within V) (hother : other.Within V) :
    (c.absorb other).Within V := by
  intro clause h
  simp only [clauses, Conditions.absorb, List.mem_append] at h
  obtain (h | h) | (h | h) := h
  · exact hc clause (List.mem_append_left _ h)
  · exact hother clause (List.mem_append_left _ h)
  · exact hc clause (List.mem_append_right _ h)
  · exact hother clause (List.mem_append_right _ h)

theorem Within.addAnd {c : Conditions} {p : Predicate} (hc : c.Within V)
    (hp : p.Within V) (preceding : Nat) : (c.addAnd p preceding).Within V := by
  intro clause h
  simp only [clauses, Conditions.addAnd, List.mem_append, List.mem_singleton] at h
  obtain (h | rfl) | h := h
  · exact hc clause (List.mem_append_left _ h)
  · exact hp
  · exact hc clause (List.mem_append_right _ h)

theorem Within.add {c c' : Conditions} {k : Connective} {p : Predicate} {preceding : Nat}
    {part : String} (hc : c.Within V) (hp : p.Within V)
    (h : c.add k p preceding part = .ok c') : c'.Within V := by
  have hadd := add_ok h
  cases k with
  | and =>
    have heq : c' = c.addAnd p preceding := hadd
    rw [heq]
    exact hc.addAnd hp preceding
  | or =>
    obtain ⟨_, rfl⟩ := hadd
    intro clause hm
    simp only [clauses, List.mem_append, List.mem_singleton] at hm
    obtain hm | hm | rfl := hm
    · exact hc clause (List.mem_append_left _ hm)
    · exact hc clause (List.mem_append_right _ hm)
    · exact hp

end Conditions

structure JoinTarget.Within (V : Vocabulary) (t : JoinTarget) : Prop where
  table : V.table t.table
  aliasName : ∀ name ∈ t.aliasName, V.table name

theorem JoinTarget.within_read {target : String} {t : JoinTarget}
    (h : JoinTarget.read target = .ok t) (htarget : V.table target) : t.Within V := by
  have hword := V.table_word target htarget
  obtain ⟨htable, hname⟩ := (names_of_read h).mem
  exact ⟨hword _ htable, fun name hmem => hword name (hname name hmem)⟩

/-- The operand of a join condition is read from any text. -/
structure OnCondition.Within (V : Vocabulary) (c : OnCondition) : Prop where
  column : V.fragment c.column
  operand : ∃ raw, c.operand = Operand.read raw

theorem OnCondition.within_read {column : String} (h : V.fragment column) (op : Operator)
    (operand : String) (k : Option Connective) :
    Within V ⟨Text.trim column, op, Operand.read operand, k⟩ := by
  refine ⟨V.fragment_trim _ h, operand, ?_⟩
  -- Reducing the projection first keeps the operand from being evaluated.
  dsimp only

structure Join.Within (V : Vocabulary) (j : Join) : Prop where
  target : j.target.Within V
  on : ∀ c ∈ j.on, c.Within V
  indexHints : ∀ name ∈ j.indexHints, V.fragment name

structure JoinScope.Within (V : Vocabulary) (s : JoinScope) : Prop where
  join : s.join.Within V
  conditions : s.conditions.Within V

/-- A text admitted behind admitted texts. -/
theorem forall_mem_concat {α : Type} {P : α → Prop} {xs : List α} {x : α}
    (hxs : ∀ y ∈ xs, P y) (hx : P x) : ∀ y ∈ xs ++ [x], P y :=
  List.forall_mem_append.mpr ⟨hxs, List.forall_mem_singleton.mpr hx⟩

theorem JoinScope.within_apply {s s' : JoinScope} {call : JoinCall} (hcall : call.Within V)
    (hs : s.Within V) (h : s.apply call = .ok s') : s'.Within V := by
  obtain ⟨⟨htarget, hon, hhints⟩, hconditions⟩ := hs
  have heffect := JoinScope.apply_ok h
  cases call with
  | on column operator operand =>
    obtain ⟨op, _, _, rfl⟩ := heffect
    exact ⟨⟨htarget, forall_mem_concat hon (OnCondition.within_read hcall _ _ _), hhints⟩,
      hconditions⟩
  | orOn column operator operand =>
    obtain ⟨_, op, _, _, rfl⟩ := heffect
    exact ⟨⟨htarget, forall_mem_concat hon (OnCondition.within_read hcall _ _ _), hhints⟩,
      hconditions⟩
  | filter k f =>
    obtain ⟨p, c, hp, hc, rfl⟩ := heffect
    exact ⟨⟨htarget, hon, hhints⟩, hconditions.add ⟨f, hcall, hp⟩ hc⟩
  | useIndex name =>
    obtain ⟨_, rfl⟩ := heffect
    exact ⟨⟨htarget, hon, forall_mem_concat hhints (V.fragment_trim _ hcall)⟩, hconditions⟩
  | raise e => exact heffect.elim

namespace QueryState

structure Within (V : Vocabulary) (q : QueryState) : Prop where
  table : V.table q.table
  fields : ∀ c ∈ q.fields, V.fragment c
  conditions : q.conditions.Within V
  joins : ∀ j ∈ q.joins, j.Within V
  groupBy : ∀ c ∈ q.groupBy, V.fragment c
  having : q.having.Within V
  orderBy : ∀ o ∈ q.orderBy, V.fragment o.column
  indexHints : ∀ name ∈ q.indexHints, V.fragment name

/-- Built from a table of the vocabulary by calls that keep to it. -/
def Built (V : Vocabulary) (q : QueryState) : Prop :=
  ∃ table q₀, V.table table ∧ start table = .ok q₀ ∧
    Calls.Reaches apply (QueryCall.Within V) q₀ q

theorem within_start {table : String} {q : QueryState} (htable : V.table table)
    (h : start table = .ok q) : q.Within V := by
  obtain ⟨_, rfl⟩ := start_ok h
  constructor
  · exact V.table_trim table htable
  · intro c hc; cases hc
  · exact Conditions.within_empty
  · intro j hj; cases hj
  · intro c hc; cases hc
  · exact Conditions.within_empty
  · intro o ho; cases ho
  · intro name hname; cases hname

theorem within_apply {q q' : QueryState} {call : QueryCall} (hcall : call.Within V)
    (hq : q.Within V) (h : q.apply call = .ok q') : q'.Within V := by
  have heffect := apply_ok h
  cases call with
  | select columns =>
    obtain rfl := heffect
    exact { hq with fields := List.forall_mem_append.mpr ⟨hq.fields, hcall⟩ }
  | filter part k f =>
    cases part with
    | where_ =>
      obtain ⟨p, c, hp, hc, rfl⟩ := heffect
      exact { hq with conditions := hq.conditions.add ⟨f, hcall, hp⟩ hc }
    | having =>
      obtain ⟨p, c, hp, hc, rfl⟩ := heffect
      exact { hq with having := hq.having.add ⟨f, hcall, hp⟩ hc }
  | join kind target column operator operand =>
    obtain ⟨t, op, ht, _, _, rfl⟩ := heffect
    have hjoin : Join.Within V ⟨t, kind,
        [⟨Text.trim column, op, Operand.read operand, none⟩], []⟩ := by
      refine ⟨JoinTarget.within_read ht hcall.1, ?_, ?_⟩
      · intro c hc
        obtain rfl := List.mem_singleton.mp hc
        exact OnCondition.within_read hcall.2 _ _ _
      · intro name hname
        cases hname
    exact { hq with joins := forall_mem_concat hq.joins hjoin }
  | joinWith kind target calls tolerant =>
    obtain ⟨t, scope, ht, hreach, rfl⟩ := heffect
    have hopened : JoinScope.Within V
        ⟨⟨t, kind, [], []⟩, q.conditions.primary.length, .empty⟩ := by
      refine ⟨⟨JoinTarget.within_read ht hcall.1, ?_, ?_⟩, Conditions.within_empty⟩
      · intro c hc; cases hc
      · intro name hname; cases hname
    have hscope : scope.Within V :=
      hreach.invariant (fun s c s' hc hs happly => JoinScope.within_apply (hcall.2 c hc) hs happly)
        hopened
    exact { hq with
      joins := forall_mem_concat hq.joins hscope.join
      conditions := hq.conditions.absorb hscope.conditions }
  | groupBy columns =>
    obtain ⟨_, _, rfl⟩ := heffect
    exact { hq with groupBy := List.forall_mem_append.mpr ⟨hq.groupBy, hcall⟩ }
  | orderBy column direction =>
    obtain ⟨dir, _, _, rfl⟩ := heffect
    exact { hq with orderBy := forall_mem_concat hq.orderBy (V.fragment_trim _ hcall) }
  | limit n =>
    obtain ⟨_, rfl⟩ := heffect
    exact { hq with }
  | offset n =>
    obtain rfl := heffect
    exact { hq with }
  | useIndex names =>
    obtain ⟨_, _, rfl⟩ := heffect
    exact { hq with indexHints := List.forall_mem_append.mpr ⟨hq.indexHints, hcall⟩ }

theorem Built.within {q : QueryState} (h : q.Built V) : q.Within V := by
  obtain ⟨table, q₀, htable, hstart, hreach⟩ := h
  exact hreach.invariant (fun _ _ _ hcall hq happly => within_apply hcall hq happly)
    (within_start htable hstart)

theorem Within.guardReads {q : QueryState} (hq : q.Within V)
    (hmarker : V.column Model.markerColumn) : q.guardReads.Within V := by
  unfold QueryState.guardReads
  split
  · exact hq
  · have hlive : Model.liveRows.Within V := ⟨⟨Model.markerColumn, .isNull false⟩, hmarker, rfl⟩
    exact { hq with conditions := hq.conditions.addAnd hlive 0 }

end QueryState

end FluentSql
