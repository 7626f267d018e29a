import FluentSql.Proofs.Join.Target
import FluentSql.Proofs.Query.Worded

/-!
# Well-formed query states

What statements rely on: connectives stand where the text needs them, every name is more
than blanks, no list of values is empty and no limit is zero. The conditions have it from the
invariants of their buckets; for all other parts it is shown call by call, and then for whole
runs, join callbacks included.
-/

namespace FluentSql

open FluentSql.Text

/-- A test on a trimmed column, with a value in every list of values. -/
structure Predicate.WellFormed (p : Predicate) : Prop where
  trimmed : trim p.column = p.column
  named : isBlankText p.column = false
  listed : ∀ c negated vs, p = .inList c negated vs → vs ≠ []

/-- The first clause has no connective, every other primary clause AND, every alternative OR,
and there are no alternatives without a primary clause. -/
structure Conditions.WellFormed (c : Conditions) : Prop where
  primary : ∀ i clause, c.primary[i]? = some clause →
    clause.connective = if i = 0 then none else some .and
  alternatives : ∀ clause ∈ c.alternatives, clause.connective = some .or
  started : c.alternatives ≠ [] → c.primary ≠ []
  predicates : ∀ clause ∈ c.clauses, clause.predicate.WellFormed

/-- A table of one word, and conditions of which all but the first have a connective. -/
structure Join.WellFormed (j : Join) : Prop where
  table : j.target.table ≠ "" ∧ ∀ c ∈ j.target.table.toList, isBlank c = false
  connectives : ∀ i c, j.on[i]? = some c → (c.connective = none ↔ i = 0)
  columns : ∀ c ∈ j.on, isBlankText c.column = false
  operands : ∀ c ∈ j.on, ∀ name, c.operand = .column name → isBlankText name = false
  indexHints : ∀ name ∈ j.indexHints, isBlankText name = false

namespace QueryState

/-- The parts that hold no conditions. -/
structure Furnished (q : QueryState) : Prop where
  joins : ∀ j ∈ q.joins, j.WellFormed
  groupBy : ∀ c ∈ q.groupBy, isBlankText c = false
  orderBy : ∀ o ∈ q.orderBy, isBlankText o.column = false
  limit : q.limit ≠ some 0
  indexHints : ∀ name ∈ q.indexHints, isBlankText name = false

structure WellFormed (q : QueryState) : Prop extends Furnished q where
  conditions : q.conditions.WellFormed
  having : q.having.WellFormed

end QueryState

/-- An element at the end takes the next index. -/
theorem forall_getElem?_concat {α : Type} {P : Nat → α → Prop} {xs : List α} {x : α}
    (hxs : ∀ i y, xs[i]? = some y → P i y) (hx : P xs.length x) :
    ∀ i y, (xs ++ [x])[i]? = some y → P i y := by
  intro i y hy
  by_cases hi : i < xs.length
  · rw [List.getElem?_append_left hi] at hy
    exact hxs i y hy
  · obtain ⟨hlt, _⟩ := List.getElem?_eq_some_iff.mp hy
    have hlast : i = xs.length := by
      rw [List.length_append, List.length_singleton] at hlt
      omega
    subst hlast
    rw [List.getElem?_concat_length] at hy
    exact Option.some.inj hy ▸ hx

/-- What filters check: the column is trimmed and named, and there is a value to look for. -/
theorem Predicate.Within.wellFormed {V : Vocabulary} {p : Predicate} (h : p.Within V) :
    p.WellFormed where
  trimmed := by
    obtain ⟨f, _, hp⟩ := h
    rw [(Filter.column_of_predicate hp).1, trim_trim]
  named := by
    obtain ⟨f, _, hp⟩ := h
    obtain ⟨hcolumn, hne⟩ := Filter.column_of_predicate hp
    rw [hcolumn] at hne ⊢
    exact isBlankText_trim_of_ne hne
  listed := by
    rintro c negated vs rfl
    obtain ⟨⟨column, test⟩, _, hp⟩ := h
    obtain ⟨_, htest⟩ := Filter.predicate_ok hp
    cases test with
    | compare raw v =>
      obtain ⟨op, _, heq⟩ := htest
      cases heq
    | between negated' low high => cases htest
    | inList negated' vs' =>
      obtain ⟨hne, heq⟩ := htest
      cases heq
      exact hne
    | isNull negated' => cases htest

namespace Conditions

theorem connective_of_joined {preceding : Nat} {clauses : List Clause}
    (h : Joined preceding clauses) : ∀ i clause, clauses[i]? = some clause →
      clause.connective = if preceding + i = 0 then none else some .and := by
  induction clauses generalizing preceding with
  | nil => simp
  | cons first rest ih =>
    obtain ⟨hfirst, hrest⟩ := h
    intro i clause hclause
    cases i with
    | zero =>
      obtain rfl := Option.some.inj hclause
      exact hfirst
    | succ i =>
      have hnext := ih hrest i clause hclause
      rw [hnext, Nat.add_right_comm, Nat.add_assoc]

/-- The invariants of the buckets say it all. -/
theorem wellFormed_of_linked {V : Vocabulary} {c : Conditions} (hlinked : c.Linked 0)
    (hjoined : Joined 0 c.primary) (hwithin : c.Within V) : c.WellFormed where
  primary := by
    intro i clause hclause
    have h := connective_of_joined hjoined i clause hclause
    rw [Nat.zero_add] at h
    exact h
  alternatives := hlinked.alternatives
  started hne hnil := hlinked.started hne (by simp [hnil])
  predicates clause hclause := (hwithin clause hclause).wellFormed

theorem WellFormed.addAnd {c : Conditions} (h : c.WellFormed) {p : Predicate}
    (hp : p.WellFormed) : (c.addAnd p 0).WellFormed where
  primary := forall_getElem?_concat h.primary (by simp)
  alternatives := h.alternatives
  started _ := List.append_ne_nil_of_right_ne_nil _ (List.cons_ne_nil _ _)
  predicates := by
    obtain ⟨hprimary, halternatives⟩ := List.forall_mem_append.mp h.predicates
    exact List.forall_mem_append.mpr ⟨forall_mem_concat hprimary hp, halternatives⟩

end Conditions

/-- The table of a target is its first word. -/
theorem JoinTarget.unbroken_of_read {target : String} {t : JoinTarget}
    (h : JoinTarget.read target = .ok t) :
    t.table ≠ "" ∧ ∀ c ∈ t.table.toList, isBlank c = false := by
  exact unbroken_of_mem_words (names_of_read h).mem.1

/-- A column reference starts with a word character. -/
theorem Operand.nonblank_of_read {raw name : String} (h : Operand.read raw = .column name) :
    isBlankText name = false := by
  obtain ⟨qualifier, rest, hcs, hne, _, hword, _⟩ := exists_of_isReference (column_of_read h)
  obtain ⟨c, cs, rfl⟩ := List.exists_cons_of_ne_nil hne
  have hc := isBlank_of_isWord (hword c List.mem_cons_self)
  rw [isBlankText, hcs]
  simp [hc]

namespace Join

theorem wellFormed_start {t : JoinTarget} (kind : JoinKind) {target : String}
    (h : JoinTarget.read target = .ok t) : WellFormed ⟨t, kind, [], []⟩ where
  table := JoinTarget.unbroken_of_read h
  connectives := by simp
  columns := by simp
  operands := by simp
  indexHints := by simp

/-- A condition behind others gets a connective. -/
theorem WellFormed.addOn {j : Join} (h : j.WellFormed) {column : String} (op : Operator)
    {operand : Operand} (k : Connective) (hcolumn : trim column ≠ "")
    (hoperand : ∀ name, operand = .column name → isBlankText name = false) :
    WellFormed { j with on := j.on ++ [⟨trim column, op, operand,
      if j.on.isEmpty then none else some k⟩] } where
  table := h.table
  connectives := forall_getElem?_concat h.connectives (by simp)
  columns := forall_mem_concat h.columns (isBlankText_trim_of_ne hcolumn)
  operands := forall_mem_concat h.operands hoperand
  indexHints := h.indexHints

theorem WellFormed.useIndex {j : Join} (h : j.WellFormed) {name : String} (hname : trim name ≠ "") :
    WellFormed { j with indexHints := j.indexHints ++ [trim name] } where
  table := h.table
  connectives := h.connectives
  columns := h.columns
  operands := h.operands
  indexHints := forall_mem_concat h.indexHints (isBlankText_trim_of_ne hname)

end Join

theorem JoinScope.wellFormed_apply {s s' : JoinScope} {call : JoinCall} (hs : s.join.WellFormed)
    (h : s.apply call = .ok s') : s'.join.WellFormed := by
  have heffect := apply_ok h
  cases call with
  | on column operator operand =>
    obtain ⟨op, _, hcolumn, rfl⟩ := heffect
    exact hs.addOn op .and hcolumn fun _ => Operand.nonblank_of_read
  | orOn column operator operand =>
    obtain ⟨_, op, _, hcolumn, rfl⟩ := heffect
    exact hs.addOn op .or hcolumn fun _ => Operand.nonblank_of_read
  | filter k f =>
    obtain ⟨p, c, _, _, rfl⟩ := heffect
    exact hs
  | useIndex name =>
    obtain ⟨hname, rfl⟩ := heffect
    exact hs.useIndex hname
  | raise e => exact heffect.elim

namespace QueryState

theorem furnished_start {table : String} {q : QueryState} (h : start table = .ok q) :
    q.Furnished := by
  obtain ⟨_, rfl⟩ := start_ok h
  constructor <;> simp

/-- A join goes behind those there are. -/
theorem Furnished.addJoin {q : QueryState} (h : q.Furnished) {j : Join} (hj : j.WellFormed) :
    Furnished { q with joins := q.joins ++ [j] } :=
  { h with joins := forall_mem_concat h.joins hj }

theorem Furnished.apply {q q' : QueryState} {call : QueryCall} (hq : q.Furnished)
    (h : q.apply call = .ok q') : q'.Furnished := by
  have heffect := apply_ok h
  cases call with
  | select columns =>
    obtain rfl := heffect
    exact { hq with }
  | filter part k f =>
    cases part with
    | where_ =>
      obtain ⟨p, c, _, _, rfl⟩ := heffect
      exact { hq with }
    | having =>
      obtain ⟨p, c, _, _, rfl⟩ := heffect
      exact { hq with }
  | join kind target column operator operand =>
    obtain ⟨t, op, ht, _, hcolumn, rfl⟩ := heffect
    exact hq.addJoin ((Join.wellFormed_start kind ht).addOn op .and hcolumn
      fun _ => Operand.nonblank_of_read)
  | joinWith kind target calls tolerant =>
    obtain ⟨t, scope, ht, hreach, rfl⟩ := heffect
    have hjoin : scope.join.WellFormed :=
      hreach.invariant (P := fun s => s.join.WellFormed)
        (fun _ _ _ _ hs happly => JoinScope.wellFormed_apply hs happly)
        (Join.wellFormed_start kind ht)
    exact { hq.addJoin hjoin with }
  | groupBy columns =>
    obtain ⟨_, hcolumns, rfl⟩ := heffect
    exact { hq with groupBy := List.forall_mem_append.mpr ⟨hq.groupBy, hcolumns⟩ }
  | orderBy column direction =>
    obtain ⟨dir, _, hcolumn, rfl⟩ := heffect
    exact { hq with
      orderBy := forall_mem_concat hq.orderBy (isBlankText_trim_of_ne hcolumn) }
  | limit n =>
    obtain ⟨hn, rfl⟩ := heffect
    exact { hq with limit := by simpa using hn }
  | offset n =>
    obtain rfl := heffect
    exact { hq with }
  | useIndex names =>
    obtain ⟨_, hnames, rfl⟩ := heffect
    exact { hq with indexHints := List.forall_mem_append.mpr ⟨hq.indexHints, hnames⟩ }

theorem Built.furnished {V : Vocabulary} {q : QueryState} (h : q.Built V) : q.Furnished := by
  obtain ⟨table, q₀, _, hstart, hreach⟩ := h
  exact hreach.invariant (fun _ _ _ _ hq happly => hq.apply happly) (furnished_start hstart)

theorem Built.wellFormed {V : Vocabulary} {q : QueryState} (h : q.Built V) : q.WellFormed := by
  obtain ⟨hconditions, hhaving⟩ := h.keeps Conditions.joined_isInductive
  have hwithin := h.within
  exact { h.furnished with
    conditions :=
      Conditions.wellFormed_of_linked h.linked.conditions hconditions hwithin.conditions
    having := Conditions.wellFormed_of_linked h.linked.having hhaving hwithin.having }

theorem WellFormed.guardReads {q : QueryState} (h : q.WellFormed) : q.guardReads.WellFormed := by
  unfold QueryState.guardReads
  split
  · exact h
  · have hlive : Model.liveRows.WellFormed :=
      Predicate.Within.wellFormed (V := .any) ⟨⟨Model.markerColumn, .isNull false⟩, trivial, rfl⟩
    exact { h with conditions := h.conditions.addAnd hlive }

theorem wellFormed_of_applyAll {table : String} {q₀ q : QueryState}
    (hstart : start table = .ok q₀) {calls : List QueryCall} (h : q₀.applyAll calls = .ok q) :
    q.WellFormed := by
  have hbuilt : q.Built .any := by
    refine ⟨table, q₀, trivial, hstart, Calls.reaches_applyAll ?_ h⟩
    intro call _
    exact QueryCall.within_any call
  exact hbuilt.wellFormed

/-- A query that calls have built is well formed, whatever the calls were and whichever calls a
callback left out, and it stays so behind the read guard. -/
theorem applyAll_wellFormed {table : String} {q₀ q : QueryState} (hstart : start table = .ok q₀)
    {calls : List QueryCall} (h : q₀.applyAll calls = .ok q) :
    q.WellFormed ∧ q.guardReads.WellFormed := by
  have hwf := wellFormed_of_applyAll hstart h
  exact ⟨hwf, hwf.guardReads⟩

/-- A callback whose alternatives come too early, and clauses behind it. -/
def gatheredPosts : List QueryCall :=
  [.joinWith .left "users as u" [.orOn "u.id" "=" "posts.user_id", .on " u.id " "=" "posts.user_id",
      .filter .or (.equals "b" (.int 1)), .filter .and ⟨"a", .inList false [.int 2, .int 3]⟩,
      .orOn "u.note" "like" "x", .useIndex " "] true,
    .filter .where_ .or (.equals " b " (.int 4)), .groupBy ["a"],
    .filter .having .and ⟨"n", .isNull true⟩, .orderBy " a" "desc", .limit 1]

/-- Of the callback two conditions and one clause stay, and the state is well formed. -/
theorem applyAll_wellFormed_gatheredPosts :
    ∃ q₀ q, start "posts" = .ok q₀ ∧ q₀.applyAll gatheredPosts = .ok q ∧
      q.joins.map (·.on.length) = [2] ∧ q.conditions.primary.length = 1 ∧
      q.WellFormed ∧ q.guardReads.WellFormed := by
  refine ⟨_, _, rfl, rfl, rfl, rfl, ?_⟩
  exact @applyAll_wellFormed "posts" _ _ rfl gatheredPosts rfl

end QueryState

end FluentSql
