import FluentSql.Proofs.Text.Lexeme

/-!
# Readers of lexemes

A reader takes a value off the front of a list of lexemes. Optional parts start with a
keyword, and repeated items are read for as long as there is one; both are read back when
what follows does not start like them.
-/

namespace FluentSql.Reading

open FluentSql.Text

variable {α σ : Type}

/-- Takes items off for as long as there is one. Each has to leave less behind. -/
def many (item : σ → Option (α × σ)) (size : σ → Nat) (s : σ) : List α × σ :=
  match item s with
  | none => ([], s)
  | some (x, rest) =>
    if size rest < size s then
      let others := many item size rest
      (x :: others.1, others.2)
    else ([], s)
termination_by size s

/-- Items are read by their order: `P xs s` says that `s` starts with `xs`. -/
theorem many_eq {item : σ → Option (α × σ)} {size : σ → Nat} {P : List α → σ → Prop}
    (hnil : ∀ s, P [] s → item s = none)
    (hcons : ∀ x xs s, P (x :: xs) s → ∃ rest, item s = some (x, rest) ∧ size rest < size s ∧
      P xs rest)
    {xs : List α} {s : σ} (h : P xs s) : ∃ rest, many item size s = (xs, rest) ∧ P [] rest := by
  induction xs generalizing s with
  | nil =>
    rw [many, hnil s h]
    exact ⟨s, rfl, h⟩
  | cons x xs ih =>
    obtain ⟨next, hitem, hsize, hnext⟩ := hcons x xs s h
    obtain ⟨rest, hrest, hlast⟩ := ih hnext
    rw [many, hitem]
    dsimp only
    rw [if_pos hsize, hrest]
    exact ⟨rest, rfl, hlast⟩

/-- Items that are read back wherever `Good` lexemes follow. -/
theorem many_flatMap {item : List String → Option (α × List String)} {words : α → List String}
    {Good : List String → Prop} {xs : List α} {ws : List String}
    (hitem : ∀ x ∈ xs, ∀ rest, Good rest →
      item (words x ++ rest) = some (x, rest) ∧ Good (words x ++ rest))
    (hne : ∀ x ∈ xs, words x ≠ []) (hws : Good ws) (hend : item ws = none) :
    many item List.length (xs.flatMap words ++ ws) = (xs, ws) := by
  have hgood : ∀ ys ⊆ xs, Good (ys.flatMap words ++ ws) := by
    intro ys
    induction ys with
    | nil => exact fun _ => hws
    | cons y ys ih =>
      intro hsub
      obtain ⟨hy, hys⟩ := List.cons_subset.mp hsub
      rw [List.flatMap_cons, List.append_assoc]
      exact (hitem y hy _ (ih hys)).2
  have hnil : ∀ s, [] ⊆ xs ∧ s = [].flatMap words ++ ws → item s = none := by
    rintro s ⟨_, rfl⟩
    exact hend
  have hcons : ∀ x ys s, x :: ys ⊆ xs ∧ s = (x :: ys).flatMap words ++ ws →
      ∃ rest, item s = some (x, rest) ∧ rest.length < s.length ∧
        (ys ⊆ xs ∧ rest = ys.flatMap words ++ ws) := by
    rintro x ys s ⟨hsub, rfl⟩
    obtain ⟨hx, hys⟩ := List.cons_subset.mp hsub
    have hlength : 0 < (words x).length := List.length_pos_iff.mpr (hne x hx)
    refine ⟨ys.flatMap words ++ ws, ?_, ?_, hys, rfl⟩
    · rw [List.flatMap_cons, List.append_assoc]
      exact (hitem x hx _ (hgood ys hys)).1
    · simp only [List.flatMap_cons, List.length_append]
      omega
  obtain ⟨rest, hmany, _, rfl⟩ :=
    many_eq (P := fun ys s => ys ⊆ xs ∧ s = ys.flatMap words ++ ws) hnil hcons
      ⟨List.Subset.refl xs, rfl⟩
  exact hmany

/-- A value behind a keyword. -/
def behind (keyword : String) (read : List String → Option (α × List String)) :
    List String → Option (α × List String)
  | [] => none
  | w :: ws => if w = keyword then read ws else none

/-- A value behind a keyword, or `absent` where the keyword does not stand. -/
def optional (keyword : String) (absent : α) (read : List String → Option (α × List String)) :
    List String → Option (α × List String)
  | [] => some (absent, [])
  | w :: ws => if w = keyword then read ws else some (absent, w :: ws)

section

variable {keyword : String} {absent : α} {read : List String → Option (α × List String)}
  {ws : List String}

theorem behind_keyword : behind keyword read (keyword :: ws) = read ws :=
  if_pos rfl

theorem behind_other (h : ws.head? ≠ some keyword) : behind keyword read ws = none := by
  cases ws with
  | nil => rfl
  | cons w ws => exact if_neg fun hw => h (congrArg some hw)

theorem optional_keyword : optional keyword absent read (keyword :: ws) = read ws :=
  if_pos rfl

theorem optional_other (h : ws.head? ≠ some keyword) :
    optional keyword absent read ws = some (absent, ws) := by
  cases ws with
  | nil => rfl
  | cons w ws => exact if_neg fun hw => h (congrArg some hw)

end

def readWord : List String → Option (String × List String)
  | [] => none
  | w :: ws => some (w, ws)

/-- Items with commas between them. -/
def readListed (item : List String → Option (α × List String)) (ws : List String) :
    Option (List α × List String) :=
  (item ws).map fun first =>
    let others := many (behind "," item) List.length first.2
    (first.1 :: others.1, others.2)

theorem readListed_listed {item : List String → Option (α × List String)} {words : α → List String}
    {xs : List α} (hitem : ∀ x ∈ xs, ∀ rest, item (words x ++ rest) = some (x, rest))
    (hne : xs ≠ []) {ws : List String} (hws : ws.head? ≠ some ",") :
    readListed item (listed (xs.map words) ++ ws) = some (xs, ws) := by
  cases xs with
  | nil => exact absurd rfl hne
  | cons x xs =>
    obtain ⟨hx, hxs⟩ := List.forall_mem_cons.mp hitem
    have hmore : ∀ y ∈ xs, ∀ rest, True →
        behind "," item ("," :: words y ++ rest) = some (y, rest) ∧ True :=
      fun y hy rest _ => ⟨behind_keyword.trans (hxs y hy rest), trivial⟩
    have hend : behind "," item ws = none := behind_other hws
    have hothers := many_flatMap hmore (fun _ _ => List.cons_ne_nil _ _) trivial hend
    have htext : listed ((x :: xs).map words) ++ ws =
        words x ++ ((xs.flatMap fun y => "," :: words y) ++ ws) := by
      rw [List.map_cons, listed, List.flatMap_map, List.append_assoc]
    rw [readListed, htext, hx, Option.map_some]
    dsimp only
    rw [hothers]

/-- A list behind a keyword and BY, and nothing for the empty list. -/
def byWords (keyword : String) (words : α → List String) (xs : List α) : List String :=
  if xs = [] then [] else keyword :: "BY" :: listed (xs.map words)

def readBy (keyword : String) (item : List String → Option (α × List String)) :
    List String → Option (List α × List String) :=
  optional keyword [] (behind "BY" (readListed item))

theorem readBy_words (keyword : String) {item : List String → Option (α × List String)}
    {words : α → List String} (hitem : ∀ x ws, item (words x ++ ws) = some (x, ws)) (xs : List α)
    {ws : List String} (hkeyword : ws.head? ≠ some keyword) (hcomma : ws.head? ≠ some ",") :
    readBy keyword item (byWords keyword words xs ++ ws) = some (xs, ws) := by
  unfold byWords
  split
  · next hnil =>
    rw [hnil]
    exact optional_other hkeyword
  · next hne =>
    have hlisted := readListed_listed (fun x (_ : x ∈ xs) => hitem x) hne hcomma
    rw [List.cons_append, List.cons_append, readBy, optional_keyword, behind_keyword, hlisted]

/-- Nothing, or one of the keywords, stands at the front. -/
def Follows (keywords : List String) (ws : List String) : Prop :=
  ∀ w ∈ ws.head?, w ∈ keywords

theorem follows_nil (keywords : List String) : Follows keywords [] := by
  intro w hw
  cases hw

theorem follows_cons {keywords : List String} {w : String} (h : w ∈ keywords) (ws : List String) :
    Follows keywords (w :: ws) := by
  intro v hv
  obtain rfl := Option.some.inj hv
  exact h

theorem follows_by (keyword : String) (words : α → List String) (xs : List α) :
    Follows [keyword] (byWords keyword words xs) := by
  unfold byWords
  split
  · exact follows_nil _
  · exact follows_cons List.mem_cons_self _

theorem Follows.ne {keywords ws : List String} (h : Follows keywords ws) {w : String}
    (hw : w ∉ keywords) : ws.head? ≠ some w :=
  fun hhead => hw (h w hhead)

/-- A part that is empty or starts with its keyword comes before other parts. -/
theorem Follows.part {keyword : String} {keywords ws rest : List String}
    (hws : Follows [keyword] ws) (hrest : Follows keywords rest) :
    Follows (keyword :: keywords) (ws ++ rest) := by
  cases ws with
  | nil => exact fun w hw => List.mem_cons_of_mem _ (hrest w hw)
  | cons w ws =>
    obtain rfl : w = keyword := List.mem_singleton.mp (hws w rfl)
    exact follows_cons List.mem_cons_self _

/-- Text that is cut off from what stands in front of it, with one of the keywords at its
front or without lexemes. -/
structure Tail (keywords : List String) (cs : List Char) : Prop where
  breaks : Breaks cs
  follows : Follows keywords (lexemes cs)

theorem Tail.part {keyword : String} {keywords : List String} {cs rest : List Char}
    (h : Tail [keyword] cs) (hrest : Tail keywords rest) :
    Tail (keyword :: keywords) (cs ++ rest) where
  breaks := breaks_append h.breaks hrest.breaks
  follows := by
    rw [lexemes_append cs hrest.breaks]
    exact h.follows.part hrest.follows

end FluentSql.Reading
