import FluentSql.Proofs.Text.Lexeme
import FluentSql.Text.Word

/-!
# Names

Names of word characters and points are plain: no lexeme ends inside them, and no quote and
no question mark stands there.
-/

namespace FluentSql.Text

/-- The code points of the blanks. -/
def blankCodes : List Nat :=
  [0x09, 0x0a, 0x0b, 0x0c, 0x0d, 0x20, 0x85, 0xa0, 0x1680, 0x2000, 0x2001, 0x2002, 0x2003, 0x2004,
    0x2005, 0x2006, 0x2007, 0x2008, 0x2009, 0x200a, 0x2028, 0x2029, 0x202f, 0x205f, 0x3000]

theorem mem_blankCodes {c : Char} (h : isBlank c = true) : c.toNat ∈ blankCodes := by
  unfold isBlank at h
  dsimp only at h
  simp only [Bool.or_eq_true, Bool.and_eq_true, decide_eq_true_eq, beq_iff_eq] at h
  simp only [blankCodes, List.mem_cons, List.not_mem_nil, or_false]
  omega

theorem isWord_blankCodes : ∀ n ∈ blankCodes, isWord (Char.ofNat n) = false := by
  decide +kernel

theorem isBlank_of_isWord {c : Char} (h : isWord c = true) : isBlank c = false := by
  cases hblank : isBlank c with
  | false => rfl
  | true =>
    have hword := isWord_blankCodes c.toNat (mem_blankCodes hblank)
    rw [Char.ofNat_toNat, h] at hword
    cases hword

/-- No lexeme ends in front of a word character. -/
theorem isBreak_of_isWord {c : Char} (h : isWord c = true) : isBreak c = false := by
  have hblank := isBlank_of_isWord h
  have hpunctuation : isPunctuation c = false := by
    cases hpunctuation : isPunctuation c with
    | false => rfl
    | true =>
      simp only [isPunctuation, Bool.or_eq_true, beq_iff_eq] at hpunctuation
      obtain (rfl | rfl) | rfl := hpunctuation <;> revert h <;> decide
  rw [isBreak, hblank, hpunctuation]
  rfl

/-- A name of word characters and points. -/
def Dotted (s : String) : Prop :=
  s ≠ "" ∧ ∀ c ∈ s.toList, isWord c = true ∨ c = '.'

theorem dotted_iff (s : String) :
    (s ≠ "" ∧ s.toList.all (fun c => isWord c || c == '.') = true) ↔ Dotted s := by
  rw [List.all_eq_true]
  simp only [Bool.or_eq_true, beq_iff_eq, Dotted]

-- By the characters of the text, not by all characters there are.
instance (s : String) : Decidable (Dotted s) :=
  decidable_of_iff _ (dotted_iff s)

theorem Dotted.plain {s : String} (h : Dotted s) : Plain s := by
  obtain ⟨hne, hchars⟩ := h
  have hother : ∀ c : Char, isWord c = false → c ≠ '.' → c ∉ s.toList := by
    intro c hword hpoint hc
    rcases hchars c hc with h | h
    · rw [hword] at h
      cases h
    · exact hpoint h
  refine ⟨⟨fun hnil => hne (String.toList_eq_nil_iff.mp hnil), ?_⟩, ?_, ?_⟩
  · intro c hc
    rcases hchars c hc with hword | rfl
    · exact isBreak_of_isWord hword
    · decide
  · exact hother '\'' (by decide) (by decide)
  · exact hother '?' (by decide) (by decide)

theorem Dotted.lexemes {s : String} (h : Dotted s) : lexemes s.toList = [s] := by
  have hname := h.plain.lexemes breaks_nil
  rw [List.append_nil] at hname
  exact hname

/-- Names with commas between them. -/
def listedNames (names : List String) : List String :=
  listed (names.map fun name => [name])

theorem lexemes_names {names : List String} (h : ∀ name ∈ names, Dotted name) :
    lexemes (commaList names).toList = listedNames names := by
  have hnames : (names.map fun s => lexemes s.toList) = names.map fun name => [name] :=
    List.map_congr_left fun name hname => (h name hname).lexemes
  rw [lexemes_commaList, hnames]
  rfl

end FluentSql.Text
