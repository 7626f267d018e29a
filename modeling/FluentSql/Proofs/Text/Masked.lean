import Mathlib.Data.List.Basic
import FluentSql.Text.Blank
import FluentSql.Text.Case

/-!
# Masked quotation

A statement is read outside of its literals and quoted names. Masking puts a blank in the place of
every quote and of every character that quotes enclose, so that what is left are the words of the
statement itself.
-/

namespace FluentSql.Text

/-! ## Texts inside of texts -/

theorem startsWithChars_iff {part cs : List Char} :
    startsWithChars part cs = true ↔ part <+: cs := by
  induction part generalizing cs with
  | nil => simp [startsWithChars]
  | cons p part ih =>
    cases cs with
    | nil => simp [startsWithChars]
    | cons c cs => simp [startsWithChars, ih]

theorem containsChars_iff {part cs : List Char} :
    containsChars part cs = true ↔ part <:+: cs := by
  induction cs with
  | nil => simp [containsChars]
  | cons c cs ih =>
    rw [containsChars, Bool.or_eq_true, startsWithChars_iff, ih, List.infix_cons_iff]

/-! ## Letter case -/

theorem toNat_toLower (c : Char) : c.toLower.toNat =
    if 65 ≤ c.toNat ∧ c.toNat ≤ 90 then c.toNat + 32 else c.toNat := by
  have hcapital : c.val ≥ 'A'.val ∧ c.val ≤ 'Z'.val ↔ 65 ≤ c.toNat ∧ c.toNat ≤ 90 := Iff.rfl
  unfold Char.toLower
  split
  · next h =>
    obtain ⟨hlow, hhigh⟩ := hcapital.mp h
    rw [if_pos ⟨hlow, hhigh⟩]
    show (c.val + 32).toNat = c.toNat + 32
    rw [UInt32.toNat_add]
    exact Nat.mod_eq_of_lt (Nat.lt_of_le_of_lt (Nat.add_le_add_right hhigh 32) (by decide))
  · next h => rw [if_neg (mt hcapital.mpr h)]

theorem toLower_eq_space_iff {c : Char} : c.toLower = ' ' ↔ c = ' ' := by
  have hspace : ' '.toNat = 32 := rfl
  rw [← Char.toNat_inj, ← Char.toNat_inj, toNat_toLower, hspace]
  split <;> omega

/-- A small letter comes from itself and from its capital. -/
theorem toLower_eq_iff {c lower upper : Char} (hlower : lower.toNat = upper.toNat + 32)
    (hupper : 65 ≤ upper.toNat ∧ upper.toNat ≤ 90) :
    c.toLower = lower ↔ c = lower ∨ c = upper := by
  rw [← Char.toNat_inj, ← Char.toNat_inj, ← Char.toNat_inj, toNat_toLower]
  split <;> omega

theorem toList_asciiLower (s : String) : (asciiLower s).toList = s.toList.map Char.toLower :=
  String.toList_ofList

/-! ## Quotation -/

/-- Where a scan of a statement is: outside of quotation, in a literal or in a quoted name. -/
inductive Place where
  | outside | literal | name
  deriving DecidableEq

/-- The place behind a character. -/
def Place.next (place : Place) (c : Char) : Place :=
  match place with
  | outside => if c = '\'' then literal else if c = '"' then name else outside
  | literal => if c = '\'' then outside else literal
  | name => if c = '"' then outside else name

/-- The place behind a text. -/
def Place.behind (place : Place) (cs : List Char) : Place :=
  cs.foldl Place.next place

/-- The text with blanks for the quotes and for what they enclose. -/
def masked (place : Place) : List Char → List Char
  | [] => []
  | c :: cs =>
    (if place = .outside ∧ place.next c = .outside then c else ' ') :: masked (place.next c) cs

theorem masked_append (place : Place) (a b : List Char) :
    masked place (a ++ b) = masked place a ++ masked (place.behind a) b := by
  induction a generalizing place with
  | nil => rfl
  | cons c a ih =>
    rw [List.cons_append, masked, ih, masked]
    rfl

/-- Without quotes the place stays what it was. -/
theorem Place.behind_of_not_mem (place : Place) {cs : List Char} (hsingle : '\'' ∉ cs)
    (hdouble : '"' ∉ cs) : place.behind cs = place := by
  induction cs with
  | nil => rfl
  | cons c cs ih =>
    rw [List.mem_cons, not_or] at hsingle hdouble
    have hnext : place.next c = place := by
      cases place with
      | outside => rw [next, if_neg (Ne.symm hsingle.1), if_neg (Ne.symm hdouble.1)]
      | literal => rw [next, if_neg (Ne.symm hsingle.1)]
      | name => rw [next, if_neg (Ne.symm hdouble.1)]
    have hrest := ih hsingle.2 hdouble.2
    rw [behind] at hrest ⊢
    rw [List.foldl_cons, hnext, hrest]

theorem Place.behind_append (place : Place) (a b : List Char) :
    place.behind (a ++ b) = (place.behind a).behind b :=
  List.foldl_append

/-- What masking leaves is a character of the text or a blank. -/
theorem mem_masked {place : Place} {cs : List Char} {c : Char} (h : c ∈ masked place cs) :
    c ∈ cs ∨ c = ' ' := by
  induction cs generalizing place with
  | nil => cases h
  | cons d cs ih =>
    rw [masked] at h
    rcases List.mem_cons.mp h with hfirst | hrest
    · split at hfirst
      · exact .inl (hfirst ▸ List.mem_cons_self)
      · exact .inr hfirst
    · exact (ih hrest).imp (List.mem_cons_of_mem d) id

end FluentSql.Text
