import FluentSql.Proofs.Calls
import FluentSql.Query.State

/-!
# What a clause call does

Each successful call changes one part of the state, in the way stated here with all the
checks that it passed. Invariants of states are derived from these inversions and do not
open the calls again.
-/

namespace FluentSql

theorem checkedColumn_ok {column name : String} (h : checkedColumn column = .ok name) :
    name = Text.trim column ∧ name ≠ "" := by
  unfold checkedColumn at h
  dsimp only at h
  split at h
  · cases h
  · next hne =>
    obtain rfl := Except.ok.inj h
    exact ⟨rfl, hne⟩

/-- A checked filter names its column without blanks around it and keeps its test. -/
theorem Filter.predicate_ok {f : Filter} {p : Predicate} (h : f.predicate = .ok p) :
    Text.trim f.column ≠ "" ∧
      match f.test with
      | .compare raw v => ∃ op, Operator.read raw = .ok op ∧
          p = .compare (Text.trim f.column) op v
      | .between negated low high => p = .between (Text.trim f.column) negated low high
      | .inList negated vs => vs ≠ [] ∧ p = .inList (Text.trim f.column) negated vs
      | .isNull negated => p = .isNull (Text.trim f.column) negated := by
  obtain ⟨column, test⟩ := f
  cases test with
  | compare raw v =>
    obtain ⟨op, hop, h⟩ := ok_of_bind h
    obtain ⟨name, hname, h⟩ := ok_of_bind h
    obtain ⟨rfl, hne⟩ := checkedColumn_ok hname
    exact ⟨hne, op, hop, (Except.ok.inj h).symm⟩
  | between negated low high =>
    obtain ⟨name, hname, h⟩ := ok_of_bind h
    obtain ⟨rfl, hne⟩ := checkedColumn_ok hname
    exact ⟨hne, (Except.ok.inj h).symm⟩
  | inList negated vs =>
    obtain ⟨name, hname, h⟩ := ok_of_bind h
    obtain ⟨rfl, hne⟩ := checkedColumn_ok hname
    cases vs with
    | nil => contradiction
    | cons v vs => exact ⟨hne, List.cons_ne_nil v vs, (Except.ok.inj h).symm⟩
  | isNull negated =>
    obtain ⟨name, hname, h⟩ := ok_of_bind h
    obtain ⟨rfl, hne⟩ := checkedColumn_ok hname
    exact ⟨hne, (Except.ok.inj h).symm⟩

theorem Filter.column_of_predicate {f : Filter} {p : Predicate} (h : f.predicate = .ok p) :
    p.column = Text.trim f.column ∧ p.column ≠ "" := by
  obtain ⟨hne, hp⟩ := Filter.predicate_ok h
  obtain ⟨column, test⟩ := f
  cases test with
  | compare raw v =>
    obtain ⟨op, _, rfl⟩ := hp
    exact ⟨rfl, hne⟩
  | between negated low high =>
    obtain rfl := hp
    exact ⟨rfl, hne⟩
  | inList negated vs =>
    obtain ⟨_, rfl⟩ := hp
    exact ⟨rfl, hne⟩
  | isNull negated =>
    obtain rfl := hp
    exact ⟨rfl, hne⟩

/-- An alternative needs a clause before it; each clause goes to the end of its bucket. -/
theorem Conditions.add_ok {c c' : Conditions} {k : Connective} {p : Predicate}
    {preceding : Nat} {part : String} (h : c.add k p preceding part = .ok c') :
    match k with
    | .and => c' = c.addAnd p preceding
    | .or => preceding + c.primary.length ≠ 0 ∧
        c' = { c with alternatives := c.alternatives ++ [⟨p, some .or⟩] } := by
  cases k with
  | and => exact (Except.ok.inj h).symm
  | or =>
    change c.addOr p preceding part = .ok c' at h
    unfold Conditions.addOr at h
    split at h
    · cases h
    · next hne => exact ⟨hne, (Except.ok.inj h).symm⟩

namespace JoinScope

theorem addOn_ok {s s' : JoinScope} {k : Connective} {column operator operand : String}
    (h : s.addOn k column operator operand = .ok s') :
    ∃ op, Operator.read operator = .ok op ∧ Text.trim column ≠ "" ∧
      s' = { s with join.on := s.join.on ++ [⟨Text.trim column, op, Operand.read operand,
        if s.join.on.isEmpty then none else some k⟩] } := by
  unfold addOn at h
  obtain ⟨op, hop, h⟩ := ok_of_bind h
  dsimp only at h
  split at h
  · cases h
  · next hne => exact ⟨op, hop, hne, (Except.ok.inj h).symm⟩

theorem start_ok {target : String} {kind : JoinKind} {parent : Nat} {s : JoinScope}
    (h : start target kind parent = .ok s) :
    ∃ t, JoinTarget.read target = .ok t ∧ s = ⟨⟨t, kind, [], []⟩, parent, .empty⟩ := by
  obtain ⟨t, ht, h⟩ := ok_of_bind h
  exact ⟨t, ht, (Except.ok.inj h).symm⟩

/-- What a successful call inside a join callback does. -/
def Effect (s : JoinScope) (call : JoinCall) (s' : JoinScope) : Prop :=
  match call with
  | .on column operator operand => ∃ op, Operator.read operator = .ok op ∧
      Text.trim column ≠ "" ∧
      s' = { s with join.on := s.join.on ++ [⟨Text.trim column, op, Operand.read operand,
        if s.join.on.isEmpty then none else some .and⟩] }
  | .orOn column operator operand => s.join.on.isEmpty = false ∧
      ∃ op, Operator.read operator = .ok op ∧ Text.trim column ≠ "" ∧
      s' = { s with join.on := s.join.on ++ [⟨Text.trim column, op, Operand.read operand,
        if s.join.on.isEmpty then none else some .or⟩] }
  | .filter k f => ∃ p c, f.predicate = .ok p ∧
      s.conditions.add k p s.parentClauses "where" = .ok c ∧ s' = { s with conditions := c }
  | .useIndex name => Text.trim name ≠ "" ∧
      s' = { s with join.indexHints := s.join.indexHints ++ [Text.trim name] }
  | .raise _ => False

theorem apply_ok {s s' : JoinScope} {call : JoinCall} (h : s.apply call = .ok s') :
    Effect s call s' := by
  cases call with
  | on column operator operand => exact addOn_ok h
  | orOn column operator operand =>
    change s.orOn column operator operand = .ok s' at h
    unfold orOn at h
    split at h
    · cases h
    · next hne => exact ⟨by simpa using hne, addOn_ok h⟩
  | filter k f =>
    obtain ⟨p, hp, h⟩ := ok_of_bind h
    obtain ⟨c, hc, h⟩ := ok_of_bind h
    exact ⟨p, c, hp, hc, (Except.ok.inj h).symm⟩
  | useIndex name =>
    change s.useIndex name = .ok s' at h
    unfold useIndex at h
    dsimp only at h
    split at h
    · cases h
    · next hne => exact ⟨hne, (Except.ok.inj h).symm⟩
  | raise e => cases h

end JoinScope

namespace QueryState

theorem start_ok {table : String} {q : QueryState} (h : start table = .ok q) :
    Text.trim table ≠ "" ∧
      q = ⟨Text.trim table, [], .empty, [], [], .empty, [], none, none, []⟩ := by
  unfold start at h
  dsimp only at h
  split at h
  · cases h
  · next hne => exact ⟨hne, (Except.ok.inj h).symm⟩

theorem join_ok {q q' : QueryState} {kind : JoinKind}
    {target column operator operand : String}
    (h : q.join kind target column operator operand = .ok q') :
    ∃ t op, JoinTarget.read target = .ok t ∧ Operator.read operator = .ok op ∧
      Text.trim column ≠ "" ∧
      q' = { q with joins := q.joins ++
        [⟨t, kind, [⟨Text.trim column, op, Operand.read operand, none⟩], []⟩] } := by
  obtain ⟨scope, hstart, h⟩ := ok_of_bind h
  obtain ⟨t, ht, rfl⟩ := JoinScope.start_ok hstart
  obtain ⟨done, hon, h⟩ := ok_of_bind h
  obtain ⟨op, hop, hne, rfl⟩ := JoinScope.addOn_ok hon
  exact ⟨t, op, ht, hop, hne, (Except.ok.inj h).symm⟩

/-- A callback, strict or tolerant, builds its scope by successful calls of its own. -/
theorem joinWith_ok {q q' : QueryState} {kind : JoinKind} {target : String}
    {calls : List JoinCall} {tolerant : Bool}
    (h : q.apply (.joinWith kind target calls tolerant) = .ok q') :
    ∃ t scope, JoinTarget.read target = .ok t ∧
      Calls.Reaches JoinScope.apply (· ∈ calls)
        ⟨⟨t, kind, [], []⟩, q.conditions.primary.length, .empty⟩ scope ∧
      q' = q.closeScope scope := by
  obtain ⟨opened, hstart, h⟩ := ok_of_bind h
  obtain ⟨t, ht, rfl⟩ := JoinScope.start_ok hstart
  obtain ⟨scope, hbuild, h⟩ := ok_of_bind h
  refine ⟨t, scope, ht, ?_, (Except.ok.inj h).symm⟩
  cases tolerant with
  | false => exact Calls.reaches_applyAll (fun _ hc => hc) hbuild
  | true =>
    obtain rfl := Except.ok.inj hbuild
    exact Calls.reaches_lastState (fun _ hc => hc) _

/-- What a successful clause call does. -/
def Effect (q : QueryState) (call : QueryCall) (q' : QueryState) : Prop :=
  match call with
  | .select columns => q' = { q with fields := q.fields ++ columns }
  | .filter .where_ k f => ∃ p c, f.predicate = .ok p ∧
      q.conditions.add k p 0 "where" = .ok c ∧ q' = { q with conditions := c }
  | .filter .having k f => ∃ p c, f.predicate = .ok p ∧
      q.having.add k p 0 "having" = .ok c ∧ q' = { q with having := c }
  | .join kind target column operator operand => ∃ t op,
      JoinTarget.read target = .ok t ∧ Operator.read operator = .ok op ∧
      Text.trim column ≠ "" ∧ q' = { q with joins := q.joins ++
        [⟨t, kind, [⟨Text.trim column, op, Operand.read operand, none⟩], []⟩] }
  | .joinWith kind target calls _ => ∃ t scope, JoinTarget.read target = .ok t ∧
      Calls.Reaches JoinScope.apply (· ∈ calls)
        ⟨⟨t, kind, [], []⟩, q.conditions.primary.length, .empty⟩ scope ∧
      q' = q.closeScope scope
  | .groupBy columns => columns ≠ [] ∧ (∀ c ∈ columns, Text.isBlankText c = false) ∧
      q' = { q with groupBy := q.groupBy ++ columns }
  | .orderBy column direction => ∃ dir, Direction.read direction = .ok dir ∧
      Text.trim column ≠ "" ∧
      q' = { q with orderBy := q.orderBy ++ [⟨Text.trim column, dir⟩] }
  | .limit n => n ≠ 0 ∧ q' = { q with limit := some n }
  | .offset n => q' = { q with offset := some n }
  | .useIndex names => names ≠ [] ∧ (∀ name ∈ names, Text.isBlankText name = false) ∧
      q' = { q with indexHints := q.indexHints ++ names }

theorem apply_ok {q q' : QueryState} {call : QueryCall} (h : q.apply call = .ok q') :
    Effect q call q' := by
  cases call with
  | select columns => exact (Except.ok.inj h).symm
  | filter part k f =>
    obtain ⟨p, hp, h⟩ := ok_of_bind h
    cases part with
    | where_ =>
      obtain ⟨c, hc, h⟩ := ok_of_bind h
      exact ⟨p, c, hp, hc, (Except.ok.inj h).symm⟩
    | having =>
      obtain ⟨c, hc, h⟩ := ok_of_bind h
      exact ⟨p, c, hp, hc, (Except.ok.inj h).symm⟩
  | join kind target column operator operand => exact join_ok h
  | joinWith kind target calls tolerant => exact joinWith_ok h
  | groupBy columns =>
    change q.groupByColumns columns = .ok q' at h
    unfold groupByColumns at h
    split at h
    · cases h
    · next hne =>
      split at h
      · cases h
      · next hblank => exact ⟨by simpa using hne, by simpa using hblank, (Except.ok.inj h).symm⟩
  | orderBy column direction =>
    obtain ⟨dir, hdir, h⟩ := ok_of_bind h
    dsimp only at h
    split at h
    · cases h
    · next hne => exact ⟨dir, hdir, hne, (Except.ok.inj h).symm⟩
  | limit n =>
    change q.withLimit n = .ok q' at h
    unfold withLimit at h
    split at h
    · cases h
    · next hne => exact ⟨hne, (Except.ok.inj h).symm⟩
  | offset n => exact (Except.ok.inj h).symm
  | useIndex names =>
    change q.useIndex names = .ok q' at h
    unfold useIndex at h
    split at h
    · cases h
    · next hne =>
      split at h
      · cases h
      · next hfind => exact ⟨by simpa using hne, by simpa using hfind, (Except.ok.inj h).symm⟩

/-- No clause call changes the table. -/
theorem table_apply {q q' : QueryState} {call : QueryCall} (h : q.apply call = .ok q') :
    q'.table = q.table := by
  have heffect := apply_ok h
  cases call with
  | select columns =>
    obtain rfl := heffect
    rfl
  | filter part k f =>
    cases part with
    | where_ =>
      obtain ⟨p, c, _, _, rfl⟩ := heffect
      rfl
    | having =>
      obtain ⟨p, c, _, _, rfl⟩ := heffect
      rfl
  | join kind target column operator operand =>
    obtain ⟨t, op, _, _, _, rfl⟩ := heffect
    rfl
  | joinWith kind target calls tolerant =>
    obtain ⟨t, scope, _, _, rfl⟩ := heffect
    rfl
  | groupBy columns =>
    obtain ⟨_, _, rfl⟩ := heffect
    rfl
  | orderBy column direction =>
    obtain ⟨dir, _, _, rfl⟩ := heffect
    rfl
  | limit n =>
    obtain ⟨_, rfl⟩ := heffect
    rfl
  | offset n =>
    obtain rfl := heffect
    rfl
  | useIndex names =>
    obtain ⟨_, _, rfl⟩ := heffect
    rfl

end QueryState

end FluentSql
