import FluentSql.Number.Fixed
import FluentSql.Proofs.Number.Integer

/-!
# Integers as decimals

A decimal without places is an integer: it is read from the digits of the integer and written
with them again, also as a server holds it.
-/

namespace FluentSql.FixedDecimal

open Integer Document

theorem le_natOfDigits (acc : Nat) (cs : List Char) : acc ≤ natOfDigits acc cs := by
  induction cs generalizing acc with
  | nil => exact Nat.le_refl acc
  | cons c cs ih =>
    have hshift : acc ≤ 10 * acc + digitValue c := by omega
    exact hshift.trans (ih _)

variable {negative : Bool} {cs : List Char} {m : Nat}

theorem readWide_digits (hcs : ∀ c ∈ cs, isDigit c = true)
    (hfits : natOfDigits m cs ≤ maxMantissa) :
    readWide negative cs m 0 false = some (make negative (natOfDigits m cs) 0) := by
  induction cs generalizing m with
  | nil => rfl
  | cons c cs ih =>
    obtain ⟨hc, hcs⟩ := List.forall_mem_cons.mp hcs
    have hbelow : ¬maxMantissa < 10 * m + digitValue c :=
      Nat.not_lt.mpr ((le_natOfDigits _ cs).trans hfits)
    rw [readWide, if_pos hc]
    simp only [if_neg hbelow, Bool.false_and, Bool.false_eq_true, if_false]
    exact ih hcs hfits

theorem readNarrow_digits (hcs : ∀ c ∈ cs, isDigit c = true) (hne : cs ≠ [])
    (hfits : natOfDigits m cs ≤ maxMantissa) (seen : Bool) :
    readNarrow negative cs m 0 seen false = some (make negative (natOfDigits m cs) 0) := by
  induction cs generalizing m seen with
  | nil => exact absurd rfl hne
  | cons c cs ih =>
    obtain ⟨hc, hcs⟩ := List.forall_mem_cons.mp hcs
    rw [readNarrow, if_pos hc]
    cases cs with
    | nil => rfl
    | cons next rest =>
      simp only [Bool.false_and, Bool.false_eq_true, if_false]
      split
      · exact readWide_digits hcs hfits
      · exact ih hcs (List.cons_ne_nil _ _) hfits true

theorem read?_intChars {i : Int} (hi : i.natAbs ≤ maxMantissa) :
    read? (String.ofList (intChars i)) = some (make (i < 0) i.natAbs 0) := by
  have hread : ∀ negative, readNarrow negative (Nat.toDigits 10 i.natAbs) 0 0 false false =
      some (make negative i.natAbs 0) := by
    intro negative
    have hdigits : ∀ c ∈ Nat.toDigits 10 i.natAbs, isDigit c = true :=
      fun c hc => isDigit_of_mem_toDigits hc
    have hfits : natOfDigits 0 (Nat.toDigits 10 i.natAbs) ≤ maxMantissa := by
      rw [natOfDigits_toDigits]
      exact hi
    rw [readNarrow_digits hdigits Nat.toDigits_ne_nil hfits, natOfDigits_toDigits]
  have hpositional : readPositional? (intChars i) = some (make (i < 0) i.natAbs 0) := by
    by_cases hneg : i < 0
    · rw [intChars_of_neg hneg, readPositional?, hread, decide_eq_true hneg]
    · obtain ⟨c, cs, hdigits, hminus, hplus⟩ := head_toDigits i.natAbs
      rw [intChars_of_nonneg hneg, decide_eq_false hneg, ← hread, hdigits]
      unfold readPositional?
      split
      · next h => cases h
      · next h => exact absurd (List.cons.inj h).1 hminus
      · next h => exact absurd (List.cons.inj h).1 hplus
      · rfl
  rw [read?, String.toList_ofList, hpositional]
  rfl

/-- An integer that went to a server as a decimal comes back with its digits. -/
theorem toText_stored_make (i : Int) :
    (make (i < 0) i.natAbs 0).stored.toText = String.ofList (intChars i) := by
  by_cases hzero : i.natAbs = 0
  · obtain rfl := Int.natAbs_eq_zero.mp hzero
    rfl
  · have hne : Nat.toDigits 10 i.natAbs ≠ [] := Nat.toDigits_ne_nil
    have hstored : (make (i < 0) i.natAbs 0).stored = ⟨decide (i < 0), i.natAbs, 0⟩ := by
      rw [stored, make, if_neg hzero]
      simp [hzero]
    rw [hstored, toText]
    dsimp only
    rw [if_neg hzero]
    by_cases hneg : i < 0
    · simp [intChars_of_neg hneg, hneg, hne]
    · simp [intChars_of_nonneg hneg, hneg, hne]

end FluentSql.FixedDecimal
