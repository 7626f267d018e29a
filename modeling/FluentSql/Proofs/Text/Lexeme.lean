import FluentSql.Proofs.Dialect.Placeholder

/-!
# Lexemes of conditions

Conditions are read by their lexemes: parentheses and commas stand for themselves, and
everything else is cut at blanks. Texts can be cut apart wherever a lexeme ends.
-/

namespace FluentSql.Text

def isPunctuation (c : Char) : Bool :=
  c == '(' || c == ')' || c == ','

/-- Whether a lexeme ends in front of `c`. -/
def isBreak (c : Char) : Bool :=
  isBlank c || isPunctuation c

def lexemesOf : List Char → List (List Char)
  | [] => []
  | c :: cs =>
    if isBlank c then lexemesOf cs
    else if isPunctuation c ∨ cs.head?.all isBreak then [c] :: lexemesOf cs
    else match lexemesOf cs with
      | w :: ws => (c :: w) :: ws
      | [] => [[c]]

def lexemes (cs : List Char) : List String :=
  (lexemesOf cs).map String.ofList

/-- One lexeme and nothing else. -/
def Unbroken (cs : List Char) : Prop :=
  cs ≠ [] ∧ ∀ c ∈ cs, isBreak c = false

theorem unbroken_iff (cs : List Char) :
    (cs.isEmpty = false ∧ cs.all (fun c => !isBreak c) = true) ↔ Unbroken cs := by
  rw [List.isEmpty_eq_false_iff, List.all_eq_true]
  simp only [Bool.not_eq_true', Unbroken]

-- By the characters of the text, not by all characters there are.
instance (cs : List Char) : Decidable (Unbroken cs) :=
  decidable_of_iff _ (unbroken_iff cs)

/-- Nothing, or something that does not go on with a lexeme. -/
def Breaks (cs : List Char) : Prop :=
  cs.head?.all isBreak = true

theorem breaks_nil : Breaks [] := rfl

theorem breaks_cons {c : Char} (h : isBreak c = true) (cs : List Char) : Breaks (c :: cs) := h

theorem breaks_append {a b : List Char} (ha : Breaks a) (hb : Breaks b) : Breaks (a ++ b) := by
  cases a with
  | nil => exact hb
  | cons c a => exact ha

theorem lexemesOf_ne_nil {c : Char} (h : isBreak c = false) (cs : List Char) :
    lexemesOf (c :: cs) ≠ [] := by
  obtain ⟨hblank, hpunctuation⟩ := Bool.or_eq_false_iff.mp h
  rw [lexemesOf, hblank, hpunctuation]
  split
  · next hfalse => cases hfalse
  · split
    · exact List.cons_ne_nil _ _
    · split
      · exact List.cons_ne_nil _ _
      · exact List.cons_ne_nil _ _

theorem lexemesOf_append (a : List Char) {b : List Char} (hb : Breaks b) :
    lexemesOf (a ++ b) = lexemesOf a ++ lexemesOf b := by
  induction a with
  | nil => rfl
  | cons c a ih =>
    have hhead : (a ++ b).head?.all isBreak = a.head?.all isBreak := by
      cases a with
      | nil => exact hb
      | cons e a => rfl
    rw [List.cons_append, lexemesOf, lexemesOf, hhead, ih]
    split
    · rfl
    · split
      · rfl
      · next hgoes =>
        -- The lexeme of `c` goes on inside `a`, so `a` has a first lexeme.
        cases a with
        | nil => exact absurd (.inr rfl) hgoes
        | cons e a =>
          have he : isBreak e = false := by
            cases hbreak : isBreak e with
            | false => rfl
            | true => exact absurd (.inr hbreak) hgoes
          cases hfirst : lexemesOf (e :: a) with
          | nil => exact absurd hfirst (lexemesOf_ne_nil he a)
          | cons w ws => rfl

theorem lexemes_append (a : List Char) {b : List Char} (hb : Breaks b) :
    lexemes (a ++ b) = lexemes a ++ lexemes b := by
  unfold lexemes
  rw [lexemesOf_append a hb, List.map_append]

/-- Behind a blank a new lexeme starts. -/
theorem lexemes_append_blank (a b : List Char) :
    lexemes (a ++ ' ' :: b) = lexemes a ++ lexemes b :=
  lexemes_append a (breaks_cons (by decide) b)

theorem lexemes_blank (cs : List Char) : lexemes (' ' :: cs) = lexemes cs :=
  lexemes_append_blank [] cs

theorem lexemes_punctuation {c : Char} (h : isPunctuation c = true) (cs : List Char) :
    lexemes (c :: cs) = String.ofList [c] :: lexemes cs := by
  have hblank : isBlank c = false := by
    simp only [isPunctuation, Bool.or_eq_true, beq_iff_eq] at h
    obtain (rfl | rfl) | rfl := h <;> decide
  unfold lexemes
  rw [lexemesOf, hblank, h]
  rfl

theorem lexemes_spaced (a b : String) :
    lexemes (a ++ " " ++ b).toList = lexemes a.toList ++ lexemes b.toList := by
  rw [String.toList_append, String.toList_append, List.append_assoc]
  exact lexemes_append_blank _ _

/-- Items with commas between them. -/
def listed : List (List String) → List String
  | [] => []
  | first :: rest => first ++ rest.flatMap fun item => "," :: item

theorem lexemes_commaList (parts : List String) :
    lexemes (commaList parts).toList = listed (parts.map fun s => lexemes s.toList) := by
  induction parts with
  | nil => rfl
  | cons s rest ih =>
    cases rest with
    | nil => exact (List.append_nil _).symm
    | cons t rest =>
      have htext : (commaList (s :: t :: rest)).toList =
          s.toList ++ ',' :: ' ' :: (commaList (t :: rest)).toList := by
        show (s ++ ", " ++ commaList (t :: rest)).toList = _
        rw [String.toList_append, String.toList_append, List.append_assoc]
        rfl
      have hcomma : Breaks (',' :: ' ' :: (commaList (t :: rest)).toList) :=
        breaks_cons (by decide) _
      rw [htext, lexemes_append _ hcomma, lexemes_punctuation (by decide), lexemes_blank, ih]
      rfl

theorem lexemesOf_unbroken {cs : List Char} (h : Unbroken cs) : lexemesOf cs = [cs] := by
  obtain ⟨hne, hbreak⟩ := h
  induction cs with
  | nil => exact absurd rfl hne
  | cons c cs ih =>
    obtain ⟨hblank, hpunctuation⟩ := Bool.or_eq_false_iff.mp (hbreak c List.mem_cons_self)
    rw [lexemesOf, hblank, hpunctuation]
    cases cs with
    | nil => rfl
    | cons e cs =>
      have he : isBreak e = false := hbreak e (List.mem_cons_of_mem c List.mem_cons_self)
      have hrest := ih (List.cons_ne_nil e cs) fun d hd => hbreak d (List.mem_cons_of_mem c hd)
      rw [hrest, List.head?_cons, Option.all_some, he]
      rfl

/-- An unbroken text is one lexeme in front of whatever breaks it off. -/
theorem lexemes_unbroken {a : List Char} (ha : Unbroken a) {b : List Char} (hb : Breaks b) :
    lexemes (a ++ b) = String.ofList a :: lexemes b := by
  rw [lexemes_append a hb]
  unfold lexemes
  rw [lexemesOf_unbroken ha]
  rfl

/-- A name that conditions can be read with: one lexeme, no quote and no question mark. -/
def Plain (s : String) : Prop :=
  Unbroken s.toList ∧ Free s

instance (s : String) : Decidable (Plain s) :=
  inferInstanceAs (Decidable (Unbroken s.toList ∧ Free s))

theorem Plain.lexemes {s : String} (h : Plain s) {b : List Char} (hb : Breaks b) :
    lexemes (s.toList ++ b) = s :: lexemes b := by
  rw [lexemes_unbroken h.1 hb, String.ofList_toList]

theorem isBreak_of_isDigit {c : Char} (h : c.isDigit = true) : isBreak c = false := by
  have hrange : 48 ≤ c.toNat ∧ c.toNat ≤ 57 := by
    simp only [Char.isDigit, Bool.and_eq_true, decide_eq_true_eq, ge_iff_le,
      UInt32.le_iff_toNat_le] at h
    exact h
  obtain ⟨hlow, hhigh⟩ := hrange
  have hpunctuation : isPunctuation c = false := by
    unfold isPunctuation
    simp only [Bool.or_eq_false_iff, beq_eq_false_iff_ne]
    refine ⟨⟨?_, ?_⟩, ?_⟩ <;> rintro rfl <;> revert hlow <;> decide
  have hblank : isBlank c = false := by
    unfold isBlank
    dsimp only
    simp only [Bool.or_eq_false_iff, Bool.and_eq_false_iff, decide_eq_false_iff_not,
      beq_eq_false_iff_ne]
    omega
  rw [isBreak, hblank, hpunctuation]
  rfl

theorem unbroken_mark (d : Dialect) (n : Nat) : Unbroken (d.mark n) := by
  unfold Dialect.mark
  split
  · refine ⟨List.cons_ne_nil _ _, ?_⟩
    intro c hc
    obtain rfl | hc := List.mem_cons.mp hc
    · decide
    · exact isBreak_of_isDigit (Nat.isDigit_of_mem_toDigits (by decide) (by decide) hc)
  · refine ⟨List.cons_ne_nil _ _, ?_⟩
    intro c hc
    obtain rfl := List.mem_singleton.mp hc
    decide

end FluentSql.Text
