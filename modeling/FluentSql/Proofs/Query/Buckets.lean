import FluentSql.Proofs.Query.Linked
import FluentSql.Proofs.Text.Reader

/-!
# Conditions read back as buckets

Where clauses are joined as calls join them, the text of conditions shows more than what
they mean: every clause is read back in its bucket and with its connective.
-/

namespace FluentSql

open FluentSql.Text

/-- Whether AND stands in front of the clause. -/
def Clause.isJoined (clause : Clause) : Bool :=
  clause.connective == some .and

namespace Reading

def readConnective : String → Option Connective
  | "AND" => some .and
  | "OR" => some .or
  | _ => none

section

variable (d : Dialect) (params : List Value)

/-- A clause behind another one, with the position of the first parameter behind it. -/
def readFurther : Nat × List String → Option (Clause × (Nat × List String))
  | (_, []) => none
  | (next, joint :: ws) => do
    let connective ← readConnective joint
    let (p, ws) ← readPredicate d params next ws
    return (⟨p, some connective⟩, (next + p.values.length, ws))

/-- Conditions behind their keyword. The primary clauses end at the first alternative. -/
def readConditions (keyword : String) (next : Nat) :
    List String → Option (Conditions × List String) :=
  optional keyword .empty fun ws => do
    let (p, ws) ← readPredicate d params next ws
    let (clauses, (_, ws)) :=
      many (readFurther d params) (fun s => s.2.length) (next + p.values.length, ws)
    return (⟨⟨p, none⟩ :: clauses.takeWhile Clause.isJoined, clauses.dropWhile Clause.isJoined⟩, ws)

end

variable {d : Dialect} {params : List Value}

theorem breaks_furtherFragments (d : Dialect) (n : Nat) (clauses : List Clause) :
    Breaks (Fragment.marked d n (Conditions.furtherFragments clauses)) := by
  cases clauses with
  | nil => exact breaks_nil
  | cons clause rest => exact breaks_connective clause.connective _

theorem readFurther_other {ws : List String} (h : ∀ k : Connective, ws.head? ≠ some k.sql)
    (n : Nat) : readFurther d params (n, ws) = none := by
  cases ws with
  | nil => rfl
  | cons w ws =>
    have hconnective : readConnective w = none := by
      unfold readConnective
      split
      · exact absurd rfl (h .and)
      · exact absurd rfl (h .or)
      · rfl
    rw [readFurther, hconnective]
    rfl

/-- The reader stands in front of the text of `clauses`, with `rest` behind it. -/
structure BeforeClauses (d : Dialect) (params : List Value) (rest : List Char)
    (clauses : List Clause) (n : Nat) (ws : List String) : Prop where
  readable : ∀ clause ∈ clauses, clause.predicate.Readable
  connective : ∀ clause ∈ clauses, clause.connective ≠ none
  values : (clauses.flatMap fun clause => clause.predicate.values) <+: params.drop n
  words : ws = lexemes (Fragment.marked d (n + 1) (Conditions.furtherFragments clauses) ++ rest)

/-- The first clause is taken off, and the reader stands in front of the others. -/
theorem BeforeClauses.step {rest : List Char} (hrest : Breaks rest) {clause : Clause}
    {clauses : List Clause} {n : Nat} {ws : List String}
    (h : BeforeClauses d params rest (clause :: clauses) n ws) :
    ∃ m ws', readFurther d params (n, ws) = some (clause, (m, ws')) ∧ ws'.length < ws.length ∧
      BeforeClauses d params rest clauses m ws' := by
  obtain ⟨hreadable, hconnective, hvalues, rfl⟩ := h
  obtain ⟨p, connective⟩ := clause
  obtain ⟨hp, hclauses⟩ := List.forall_mem_cons.mp hreadable
  obtain ⟨hsome, hconnectives⟩ := List.forall_mem_cons.mp hconnective
  obtain ⟨k, rfl⟩ := Option.ne_none_iff_exists'.mp hsome
  have hhead : p.values <+: params.drop n := (List.prefix_append _ _).trans hvalues
  have htail : (clauses.flatMap fun c => c.predicate.values) <+:
      params.drop (n + p.values.length) := starts_append p.values hvalues
  have hbehind : Breaks (Fragment.marked d (n + p.values.length + 1)
      (Conditions.furtherFragments clauses) ++ rest) :=
    breaks_append (breaks_furtherFragments d _ clauses) hrest
  have htext : Fragment.marked d (n + 1) (Conditions.furtherFragments (⟨p, some k⟩ :: clauses)) ++
      rest = (" " ++ Conditions.connectiveText (some k) ++ " ").toList ++
        (Fragment.marked d (n + 1) p.fragments ++ (Fragment.marked d (n + p.values.length + 1)
          (Conditions.furtherFragments clauses) ++ rest)) := by
    have hsplit : Fragment.marked d (n + 1)
        (Conditions.furtherFragments (⟨p, some k⟩ :: clauses)) =
          (" " ++ Conditions.connectiveText (some k) ++ " ").toList ++
            Fragment.marked d (n + 1) (p.fragments ++ Conditions.furtherFragments clauses) := rfl
    rw [hsplit, Fragment.marked_append, Predicate.values_fragments, Nat.add_right_comm,
      List.append_assoc, List.append_assoc]
  have hread := readPredicate_fragments hp (d := d) hhead hbehind
  refine ⟨n + p.values.length, _, ?_, ?_, hclauses, hconnectives, htail, rfl⟩
  · rw [htext, lexemes_connective, readFurther]
    have hconnective : readConnective (if some k = some .or then "OR" else "AND") = some k := by
      cases k <;> rfl
    rw [hconnective]
    show (readPredicate d params n _).bind _ = _
    rw [hread]
    rfl
  · rw [htext, lexemes_connective, lexemes_append _ hbehind, List.length_cons, List.length_append]
    omega

/-- Clauses are read back with their connectives, as far as they have one. -/
theorem many_furtherFragments {clauses : List Clause} {rest : List Char} {n : Nat}
    {ws : List String} (h : BeforeClauses d params rest clauses n ws) (hrest : Breaks rest)
    (hend : ∀ k : Connective, (lexemes rest).head? ≠ some k.sql) :
    ∃ m, many (readFurther d params) (fun s => s.2.length) (n, ws) =
      (clauses, (m, lexemes rest)) := by
  have hnil : ∀ s : Nat × List String, BeforeClauses d params rest [] s.1 s.2 →
      readFurther d params s = none := by
    rintro ⟨n, ws⟩ hs
    have hwords : ws = lexemes rest := hs.words
    rw [hwords]
    exact readFurther_other hend n
  have hcons : ∀ clause clauses (s : Nat × List String),
      BeforeClauses d params rest (clause :: clauses) s.1 s.2 →
        ∃ next, readFurther d params s = some (clause, next) ∧ next.2.length < s.2.length ∧
          BeforeClauses d params rest clauses next.1 next.2 := by
    rintro clause clauses ⟨n, ws⟩ hs
    obtain ⟨m, ws', hread, hlength, hnext⟩ := hs.step hrest
    exact ⟨(m, ws'), hread, hlength, hnext⟩
  obtain ⟨⟨m, ws'⟩, hmany, hlast⟩ :=
    many_eq (P := fun clauses (s : Nat × List String) =>
      BeforeClauses d params rest clauses s.1 s.2) (s := (n, ws)) hnil hcons h
  exact ⟨m, hmany.trans (congrArg (fun ws => (clauses, (m, ws))) hlast.words)⟩

end Reading

namespace Conditions

theorem Joined.behind {preceding : Nat} {clauses : List Clause}
    (h : Joined (preceding + 1) clauses) : ∀ clause ∈ clauses, clause.connective = some .and := by
  induction clauses generalizing preceding with
  | nil =>
    intro clause hm
    cases hm
  | cons first rest ih => exact List.forall_mem_cons.mpr ⟨h.1, ih h.2⟩

/-- The buckets are told by the connectives behind the first clause. -/
theorem clauses_split {c : Conditions} (hlinked : c.Linked 0) (hjoined : Joined 0 c.primary)
    {first : Clause} {rest : List Clause} (hclauses : c.clauses = first :: rest) :
    first.connective = none ∧ (∀ clause ∈ rest, clause.connective ≠ none) ∧
      c = ⟨first :: rest.takeWhile Clause.isJoined, rest.dropWhile Clause.isJoined⟩ := by
  obtain ⟨primary, alternatives⟩ := c
  cases primary with
  | nil =>
    cases alternatives with
    | nil => cases hclauses
    | cons a as => exact absurd rfl (hlinked.started (List.cons_ne_nil a as))
  | cons p ps =>
    obtain ⟨rfl, hrest⟩ := List.cons.inj hclauses
    obtain ⟨hfirst, hbehind⟩ := hjoined
    have hand := hbehind.behind
    have hor : ∀ clause ∈ alternatives, clause.connective = some .or := hlinked.alternatives
    have hsplit : rest = ps ++ alternatives := hrest.symm
    have hjoints : ∀ clause ∈ ps, clause.isJoined = true :=
      fun clause hm => beq_iff_eq.mpr (hand clause hm)
    have hstop : ∀ clause ∈ alternatives, ¬clause.isJoined = true := by
      intro clause hm
      rw [Clause.isJoined, hor clause hm]
      decide
    have htake : rest.takeWhile Clause.isJoined = ps := by
      rw [hsplit, List.takeWhile_append_of_pos hjoints]
      cases alternatives with
      | nil => exact List.append_nil ps
      | cons a as => rw [List.takeWhile_cons_of_neg (hstop a List.mem_cons_self), List.append_nil]
    have hdrop : rest.dropWhile Clause.isJoined = alternatives := by
      rw [hsplit, List.dropWhile_append_of_pos hjoints]
      cases alternatives with
      | nil => rfl
      | cons a as => exact List.dropWhile_cons_of_neg (hstop a List.mem_cons_self)
    refine ⟨hfirst, ?_, ?_⟩
    · rw [hsplit]
      refine List.forall_mem_append.mpr ⟨fun clause hm => ?_, fun clause hm => ?_⟩
      · rw [hand clause hm]
        exact Option.some_ne_none _
      · rw [hor clause hm]
        exact Option.some_ne_none _
    · rw [htake, hdrop]

end Conditions

namespace Reading

variable {d : Dialect} {params : List Value}

theorem readConditions_fragments {c : Conditions} (hlinked : c.Linked 0)
    (hjoined : Conditions.Joined 0 c.primary)
    (hreadable : ∀ clause ∈ c.clauses, clause.predicate.Readable) {keyword : String}
    (hkeyword : lexemes keyword.toList = [keyword]) {n : Nat}
    (hvalues : c.values <+: params.drop n) {keywords : List String} {rest : List Char}
    (hrest : Tail keywords rest) (hother : ∀ w ∈ [keyword, "AND", "OR"], w ∉ keywords) :
    readConditions d params keyword n
        (lexemes (Fragment.marked d (n + 1) (c.fragments keyword) ++ rest)) =
      some (c, lexemes rest) := by
  have hkeywordEnd := hrest.follows.ne (hother keyword List.mem_cons_self)
  have hend : ∀ k : Connective, (lexemes rest).head? ≠ some k.sql := by
    intro k
    refine hrest.follows.ne (hother _ (List.mem_cons_of_mem _ ?_))
    cases k <;> decide
  cases hclauses : c.clauses with
  | nil =>
    have hempty : c = .empty := by
      obtain ⟨primary, alternatives⟩ := c
      obtain ⟨rfl, rfl⟩ := List.append_eq_nil_iff.mp hclauses
      rfl
    rw [hempty]
    exact optional_other hkeywordEnd
  | cons first more =>
    obtain ⟨hnone, hconnectives, hc⟩ := Conditions.clauses_split hlinked hjoined hclauses
    rw [hclauses] at hreadable
    obtain ⟨hfirst, hmore⟩ := List.forall_mem_cons.mp hreadable
    have hall : first.predicate.values ++
        (more.flatMap fun clause => clause.predicate.values) <+: params.drop n := by
      rw [Conditions.values, hclauses] at hvalues
      exact hvalues
    have hbehind : Breaks (Fragment.marked d (n + first.predicate.values.length + 1)
        (Conditions.furtherFragments more) ++ rest) :=
      breaks_append (breaks_furtherFragments d _ more) hrest.breaks
    have hbefore : BeforeClauses d params rest more (n + first.predicate.values.length) _ :=
      ⟨hmore, hconnectives, starts_append first.predicate.values hall, rfl⟩
    obtain ⟨m, hmany⟩ := many_furtherFragments hbefore hrest.breaks hend
    have hread := readPredicate_fragments hfirst (d := d) ((List.prefix_append _ _).trans hall)
      hbehind
    have htext : Fragment.marked d (n + 1) (c.fragments keyword) ++ rest =
        ' ' :: ((keyword ++ " ").toList ++ (Fragment.marked d (n + 1) first.predicate.fragments ++
          (Fragment.marked d (n + first.predicate.values.length + 1)
            (Conditions.furtherFragments more) ++ rest))) := by
      have hsplit : Fragment.marked d (n + 1) (c.fragments keyword) =
          (" " ++ keyword ++ " ").toList ++ Fragment.marked d (n + 1)
            (first.predicate.fragments ++ Conditions.furtherFragments more) := by
        rw [Conditions.fragments, hclauses]
        rfl
      rw [hsplit, Fragment.marked_append, Predicate.values_fragments, Nat.add_right_comm,
        toList_lead]
      simp only [List.append_assoc, List.cons_append]
    rw [htext, lexemes_blank, lexemes_lead, hkeyword, List.singleton_append, readConditions,
      optional_keyword, hread]
    show some (Conditions.mk (⟨first.predicate, none⟩ :: (many _ _ (_, _)).1.takeWhile _) _, _) = _
    have hbuckets : Conditions.mk (⟨first.predicate, none⟩ :: more.takeWhile Clause.isJoined)
        (more.dropWhile Clause.isJoined) = c := by
      rw [← hnone]
      exact hc.symm
    rw [hmany]
    exact congrArg (fun c => some (c, lexemes rest)) hbuckets

end Reading

end FluentSql
