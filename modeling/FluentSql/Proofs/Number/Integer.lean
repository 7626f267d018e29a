import FluentSql.Proofs.Number.Digits
import FluentSql.Proofs.Text.Blank
import FluentSql.Value.Basic

/-!
# Integers as text

An integer is written with its decimal digits and a minus sign if it is negative. Such a text
is read as the integer, also where blanks stand around it.
-/

namespace FluentSql

namespace Document

open Integer

theorem intChars_of_neg {i : Int} (h : i < 0) : intChars i = '-' :: Nat.toDigits 10 i.natAbs := by
  rw [intChars, if_pos h]

theorem intChars_of_nonneg {i : Int} (h : ¬i < 0) : intChars i = Nat.toDigits 10 i.natAbs := by
  rw [intChars, if_neg h]

theorem mem_intChars {c : Char} {i : Int} (h : c ∈ intChars i) : c = '-' ∨ isDigit c = true := by
  by_cases hi : i < 0
  · rw [intChars_of_neg hi] at h
    rcases List.mem_cons.mp h with rfl | h
    · exact .inl rfl
    · exact .inr (isDigit_of_mem_toDigits h)
  · rw [intChars_of_nonneg hi] at h
    exact .inr (isDigit_of_mem_toDigits h)

end Document

namespace Integer

open Document

theorem isBlank_of_isDigit {c : Char} (h : isDigit c = true) : Text.isBlank c = false := by
  simp only [isDigit, Bool.and_eq_true, decide_eq_true_eq] at h
  have hlow : 48 ≤ c.toNat := h.1
  have hhigh : c.toNat ≤ 57 := h.2
  unfold Text.isBlank
  simp only [Bool.or_eq_false_iff, Bool.and_eq_false_iff, decide_eq_false_iff_not,
    beq_eq_false_iff_ne]
  omega

theorem isBlank_of_mem_intChars {c : Char} {i : Int} (h : c ∈ intChars i) :
    Text.isBlank c = false := by
  rcases mem_intChars h with rfl | h
  · rfl
  · exact isBlank_of_isDigit h

/-- Digits do not start with a sign. -/
theorem head_toDigits (n : Nat) :
    ∃ c cs, Nat.toDigits 10 n = c :: cs ∧ c ≠ '-' ∧ c ≠ '+' := by
  obtain ⟨c, cs, h⟩ := List.exists_cons_of_ne_nil (Nat.toDigits_ne_nil (n := n) (b := 10))
  have hc : isDigit c = true := isDigit_of_mem_toDigits (h ▸ List.mem_cons_self)
  refine ⟨c, cs, h, ?_, ?_⟩
  · rintro rfl
    cases hc
  · rintro rfl
    cases hc

theorem read?_intChars {low high i : Int} (hlow : low ≤ i) (hhigh : i ≤ high) :
    read? low high (String.ofList (intChars i)) = some i := by
  unfold read?
  rw [String.toList_ofList]
  by_cases hi : i < 0
  · obtain ⟨n, rfl⟩ : ∃ n : Nat, i = -(n : Int) := ⟨i.natAbs, by omega⟩
    have habs : (-(n : Int)).natAbs = n := by omega
    rw [intChars_of_neg hi, habs]
    simp [readNat?_toDigits, hlow, hhigh]
  · obtain ⟨n, rfl⟩ : ∃ n : Nat, i = (n : Int) := ⟨i.natAbs, by omega⟩
    have habs : (n : Int).natAbs = n := Int.natAbs_natCast n
    obtain ⟨c, cs, hdigits, hminus, hplus⟩ := head_toDigits n
    have hread := readNat?_toDigits n
    rw [hdigits] at hread
    rw [intChars_of_nonneg hi, habs, hdigits]
    simp [hminus, hplus, hread, hlow, hhigh]

theorem read64?_intText (i : Int64) : read64? (Value.intText i) = some i := by
  have hlow := i.le_toInt
  have hhigh := i.toInt_lt
  rw [read64?, Value.intText, read?_intChars (by omega) (by omega)]
  simp

end Integer

namespace Text

theorem dropTail_append {p : Char → Bool} {after : List Char} (h : ∀ c ∈ after, p c = true)
    (cs : List Char) : dropTail p (cs ++ after) = dropTail p cs := by
  unfold dropTail
  rw [List.reverse_append, List.dropWhile_append_of_pos fun c hc => h c (List.mem_reverse.mp hc)]

theorem dropTail_of_forall {p : Char → Bool} {cs : List Char} (h : ∀ c ∈ cs, p c = false) :
    dropTail p cs = cs := by
  unfold dropTail
  have hkeep : cs.reverse.dropWhile p = cs.reverse := by
    cases hcs : cs.reverse with
    | nil => rfl
    | cons c rest =>
      have hc : c ∈ cs := List.mem_reverse.mp (hcs ▸ List.mem_cons_self)
      exact List.dropWhile_cons_of_neg (by simp [h c hc])
  rw [hkeep, List.reverse_reverse]

/-- Blanks around a text without blanks are trimmed. -/
theorem trimChars_padded {before cs after : List Char} (hbefore : ∀ c ∈ before, isBlank c = true)
    (hcs : ∀ c ∈ cs, isBlank c = false) (hafter : ∀ c ∈ after, isBlank c = true) :
    trimChars (before ++ cs ++ after) = cs := by
  have hleft : trimLeftChars (before ++ cs ++ after) = (cs ++ after).dropWhile isBlank := by
    rw [trimLeftChars, List.append_assoc, List.dropWhile_append_of_pos hbefore]
  cases cs with
  | nil =>
    have hall : (([] : List Char) ++ after).dropWhile isBlank = [] :=
      List.dropWhile_eq_nil_iff.mpr hafter
    rw [trimChars, hleft, hall]
    rfl
  | cons c rest =>
    have hhead : (c :: rest ++ after).dropWhile isBlank = c :: rest ++ after :=
      List.dropWhile_cons_of_neg (by simp [hcs c List.mem_cons_self])
    rw [trimChars, hleft, hhead, dropTail_append hafter, dropTail_of_forall hcs]

end Text

end FluentSql
