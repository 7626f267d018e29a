import Mathlib.Algebra.Group.Nat.Defs
import FluentSql.Value.Uuid

/-!
# Identifiers read back

The hyphenated digits of an identifier are read as the identifier.
-/

namespace FluentSql

namespace Text

theorem length_fixedDigits (base width n : Nat) : (fixedDigits base width n).length = width := by
  induction width generalizing n with
  | zero => rfl
  | succ width ih => rw [fixedDigits, List.length_append, ih, List.length_singleton]

end Text

namespace Uuid

open Text

theorem hexValue?_digitChar : ∀ n < 16, Source.hexValue? (Nat.digitChar n) = some n := by
  decide

theorem hexNumber?_append (acc : Nat) (cs ds : List Char) :
    hexNumber? acc (cs ++ ds) = (hexNumber? acc cs).bind fun n => hexNumber? n ds := by
  induction cs generalizing acc with
  | nil => rfl
  | cons c cs ih =>
    rw [List.cons_append, hexNumber?, hexNumber?]
    cases Source.hexValue? c with
    | none => rfl
    | some d => exact ih _

theorem hexNumber?_fixedDigits (width n : Nat) :
    hexNumber? 0 (fixedDigits 16 width n) = some (n % 16 ^ width) := by
  induction width generalizing n with
  | zero => rw [Nat.pow_zero, Nat.mod_one]; rfl
  | succ width ih =>
    have hlast := hexValue?_digitChar (n % 16) (Nat.mod_lt n (by decide))
    have hsplit : 16 * (n / 16 % 16 ^ width) + n % 16 = n % 16 ^ (width + 1) := by
      rw [Nat.pow_succ', Nat.mod_mul, Nat.add_comm]
    rw [fixedDigits, hexNumber?_append, ih, Option.bind_some, hexNumber?, hlast]
    dsimp only
    rw [hexNumber?, hsplit]

theorem ofDigits?_fixedDigits (u : Uuid) :
    ofDigits? (fixedDigits 16 32 u.bits.toNat) = some u := by
  have hrange : u.bits.toNat % 16 ^ 32 = u.bits.toNat := Nat.mod_eq_of_lt u.bits.isLt
  rw [ofDigits?, if_pos (length_fixedDigits 16 32 _), hexNumber?_fixedDigits, hrange,
    Option.map_some, BitVec.ofNat_toNat, BitVec.setWidth_eq]

section Groups

variable {a b c d e : List Char} (ha : a.length = 8) (hb : b.length = 4) (hc : c.length = 4)
  (hd : d.length = 4)

include ha hb hc hd

/-- Hyphens stand behind the groups of digits. -/
theorem hyphenate_groups : hyphenate (a ++ b ++ c ++ d ++ e) =
    a ++ '-' :: b ++ '-' :: c ++ '-' :: d ++ '-' :: e := by
  simp (disch := omega) [hyphenate, List.drop_append, List.drop_of_length_le, ha, hb, hc]

/-- The digits of a hyphenated text are its groups. -/
theorem ofHyphenated?_groups (he : e.length = 12) :
    ofHyphenated? (a ++ '-' :: b ++ '-' :: c ++ '-' :: d ++ '-' :: e) =
      ofDigits? (a ++ b ++ c ++ d ++ e) := by
  obtain ⟨cs, hcs⟩ : ∃ cs, cs = a ++ '-' :: b ++ '-' :: c ++ '-' :: d ++ '-' :: e := ⟨_, rfl⟩
  have hdigits : cs.take 8 ++ (cs.drop 9).take 4 ++ (cs.drop 14).take 4 ++ (cs.drop 19).take 4 ++
      cs.drop 24 = a ++ b ++ c ++ d ++ e := by
    simp (disch := omega) [hcs, List.drop_append, List.drop_of_length_le, ha, hb, hc, hd]
  have hlength : cs.length = 36 := by simp [hcs, ha, hb, hc, hd, he]
  have hhyphenate : hyphenate (a ++ b ++ c ++ d ++ e) = cs := by
    rw [hcs, hyphenate_groups ha hb hc hd]
  unfold ofHyphenated?
  rw [← hcs, hdigits, if_pos ⟨hlength, hhyphenate⟩]

end Groups

/-- Thirty-two digits fall into the groups that hyphens are put between. -/
theorem exists_groups {ds : List Char} (h : ds.length = 32) : ∃ a b c d e,
    a.length = 8 ∧ b.length = 4 ∧ c.length = 4 ∧ d.length = 4 ∧ e.length = 12 ∧
    ds = a ++ b ++ c ++ d ++ e := by
  have hgroup : ∀ n, (ds.drop n).take 4 ++ ds.drop (n + 4) = ds.drop n := fun n => by
    rw [← List.drop_drop, List.take_append_drop]
  refine ⟨ds.take 8, (ds.drop 8).take 4, (ds.drop 12).take 4, (ds.drop 16).take 4, ds.drop 20,
    by simp [h], by simp [h], by simp [h], by simp [h], by simp [h], ?_⟩
  simp only [List.append_assoc]
  rw [hgroup 16, hgroup 12, hgroup 8, List.take_append_drop]

theorem read?_toText (u : Uuid) : read? u.toText = some u := by
  obtain ⟨a, b, c, d, e, ha, hb, hc, hd, he, hgroups⟩ :=
    exists_groups (length_fixedDigits 16 32 u.bits.toNat)
  have hread := ofDigits?_fixedDigits u
  have hlength : (a ++ '-' :: b ++ '-' :: c ++ '-' :: d ++ '-' :: e).length = 36 := by
    simp [ha, hb, hc, hd, he]
  rw [hgroups] at hread
  unfold read? toText
  rw [String.toList_ofList, hgroups, hyphenate_groups ha hb hc hd]
  dsimp only
  rw [if_neg (by omega), if_pos hlength, ofHyphenated?_groups ha hb hc hd he, hread]

end Uuid

end FluentSql
