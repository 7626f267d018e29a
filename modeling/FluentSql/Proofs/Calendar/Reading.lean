import Mathlib.Data.Nat.Digits.Defs
import FluentSql.Calendar.Text
import FluentSql.Proofs.Calendar.Days
import FluentSql.Proofs.Number.Integer

/-!
# Dates and times read back

A date and a time are read from the text they are written as, whatever follows it that does not
go on with digits.
-/

namespace FluentSql

namespace Calendar

open Integer

/-! ## Numbers -/

theorem isDigit_of_mem_padded {c : Char} {width n : Nat} (h : c ∈ padded width n) :
    isDigit c = true := by
  rcases List.mem_append.mp h with h | h
  · rw [(List.mem_replicate.mp h).2]
    rfl
  · exact isDigit_of_mem_toDigits h

theorem padded_ne_nil (width n : Nat) : padded width n ≠ [] :=
  fun h => Nat.toDigits_ne_nil (List.append_eq_nil_iff.mp h).2

theorem length_padded {width n : Nat} (hwidth : 0 < width) (hn : n < 10 ^ width) :
    (padded width n).length = width := by
  have hlength := Nat.toDigits_length 10 n width hwidth hn
  rw [padded, List.length_append, List.length_replicate, Nat.sub_add_cancel hlength]

theorem natOfDigits_zeros (count : Nat) (cs : List Char) :
    natOfDigits 0 (List.replicate count '0' ++ cs) = natOfDigits 0 cs := by
  induction count with
  | zero => rfl
  | succ count ih => exact ih

theorem natOfDigits_padded (width n : Nat) : natOfDigits 0 (padded width n) = n := by
  rw [padded, natOfDigits_zeros, natOfDigits_toDigits]

theorem readNumber_padded {width n : Nat} {rest : List Char} (hrest : Stops rest) :
    readNumber none (padded width n ++ rest) = some (n, rest) := by
  unfold readNumber
  dsimp only
  rw [takeWhile_digits (fun c hc => isDigit_of_mem_padded hc) hrest,
    if_neg (padded_ne_nil width n), natOfDigits_padded, List.drop_left]

theorem readNumber_some {limit width n : Nat} {rest : List Char}
    (hrun : ((padded width n ++ rest).take limit).takeWhile isDigit = padded width n) :
    readNumber (some limit) (padded width n ++ rest) = some (n, rest) := by
  unfold readNumber
  simp only [hrun, padded_ne_nil, if_false, natOfDigits_padded, List.drop_left]

/-- A number of full width is read up to its last digit. -/
theorem readNumber_full {width n : Nat} (hwidth : 0 < width) (hn : n < 10 ^ width)
    (rest : List Char) : readNumber (some width) (padded width n ++ rest) = some (n, rest) := by
  refine readNumber_some ?_
  rw [List.take_left' (length_padded hwidth hn), List.takeWhile_eq_self_iff]
  exact fun c hc => isDigit_of_mem_padded hc

/-- A number of less than full width is read up to where the digits stop. -/
theorem readNumber_short {width limit n : Nat} {rest : List Char} (hwidth : 0 < width)
    (hn : n < 10 ^ width) (hlimit : width ≤ limit) (hrest : Stops rest) :
    readNumber (some limit) (padded width n ++ rest) = some (n, rest) := by
  have hlength : (padded width n).length ≤ limit := (length_padded hwidth hn).trans_le hlimit
  refine readNumber_some ?_
  rw [List.take_append, List.take_of_length_le hlength]
  exact takeWhile_digits (fun c hc => isDigit_of_mem_padded hc) (hrest.take _)

theorem skipBlanks_cons {c : Char} (h : Text.isBlank c = false) (cs : List Char) :
    skipBlanks (c :: cs) = c :: cs :=
  List.dropWhile_cons_of_neg (by simp [h])

theorem exists_padded (width n : Nat) :
    ∃ c cs, padded width n = c :: cs ∧ isDigit c = true := by
  obtain ⟨c, cs, h⟩ := List.exists_cons_of_ne_nil (padded_ne_nil width n)
  exact ⟨c, cs, h, isDigit_of_mem_padded (h ▸ List.mem_cons_self)⟩

theorem skipBlanks_padded (width n : Nat) (rest : List Char) :
    skipBlanks (padded width n ++ rest) = padded width n ++ rest := by
  obtain ⟨c, cs, hpadded, hc⟩ := exists_padded width n
  rw [hpadded]
  exact skipBlanks_cons (isBlank_of_isDigit hc) _

theorem readField_padded {n : Nat} (hn : n < 100) (rest : List Char) :
    readField 2 (padded 2 n ++ rest) = some (n, rest) := by
  rw [readField, skipBlanks_padded, readNumber_full (by decide) hn]

theorem separator_cons {c : Char} (h : Text.isBlank c = false) (loose : Bool) (cs : List Char) :
    separator loose c (c :: cs) = some cs := by
  cases loose with
  | true => rw [separator, if_pos rfl, skipBlanks_cons h, expect, if_pos rfl]
  | false => rw [separator, if_neg Bool.false_ne_true, expect, if_pos rfl]

/-! ## Dates -/

/-- A year is a number of four digits or more, perhaps behind a sign. -/
theorem exists_yearChars (year : Int) :
    ∃ sign n, yearChars year = sign ++ padded 4 n ∧ (sign = [] ∨ sign = ['-'] ∨ sign = ['+']) := by
  unfold yearChars
  split
  · exact ⟨[], _, rfl, .inl rfl⟩
  split
  · exact ⟨['-'], _, rfl, .inr (.inl rfl)⟩
  · exact ⟨['+'], _, rfl, .inr (.inr rfl)⟩

theorem readYear_yearChars (year : Int) {rest : List Char} (hrest : Stops rest) :
    readYear (yearChars year ++ rest) = some (year, rest) := by
  unfold readYear yearChars
  by_cases hplain : 0 ≤ year ∧ year ≤ 9999
  · have hyear : ((year.toNat : Nat) : Int) = year := Int.toNat_of_nonneg hplain.1
    have hread : readNumber (some 4) (padded 4 year.toNat ++ rest) = some (year.toNat, rest) :=
      readNumber_full (by decide) (by omega) rest
    rw [if_pos hplain, skipBlanks_padded]
    obtain ⟨c, cs, hpadded, hc⟩ := exists_padded 4 year.toNat
    rw [hpadded] at hread ⊢
    split
    · next h => obtain ⟨rfl, -⟩ := List.cons.inj h; cases hc
    · next h => obtain ⟨rfl, -⟩ := List.cons.inj h; cases hc
    · rw [hread]
      exact congrArg (fun y => some (y, rest)) hyear
  · rw [if_neg hplain]
    by_cases hneg : year < 0
    · have hyear : -((year.natAbs : Nat) : Int) = year := by omega
      rw [if_pos hneg, List.cons_append, skipBlanks_cons rfl]
      change (readNumber none (padded 4 year.natAbs ++ rest)).map _ = _
      rw [readNumber_padded hrest]
      exact congrArg (fun y => some (y, rest)) hyear
    · have hyear : ((year.natAbs : Nat) : Int) = year := by omega
      rw [if_neg hneg, List.cons_append, skipBlanks_cons rfl]
      change (readNumber none (padded 4 year.natAbs ++ rest)).map _ = _
      rw [readNumber_padded hrest]
      exact congrArg (fun y => some (y, rest)) hyear

theorem month_lt (d : Date) : d.month < 100 := by
  obtain ⟨-, hmonth, -, -⟩ := d.bounds
  omega

theorem daysInMonth_le (year : Int) (month : Nat) : daysInMonth year month ≤ 31 := by
  unfold daysInMonth
  split
  · split <;> omega
  · split <;> omega

theorem day_lt (d : Date) : d.day < 100 := by
  obtain ⟨-, -, -, hday⟩ := d.bounds
  have hdays := daysInMonth_le d.year d.month
  omega

theorem stops_dash (rest : List Char) : Stops ('-' :: rest) :=
  stops_cons rfl rest

theorem readDate_dateChars (loose : Bool) (d : Date) (rest : List Char) :
    readDate loose (dateChars d ++ rest) = some ((d.year, d.month, d.day), rest) := by
  have hdash : ∀ cs, separator loose '-' ('-' :: cs) = some cs := separator_cons rfl loose
  simp only [readDate, dateChars, List.append_assoc, List.cons_append,
    readYear_yearChars d.year (stops_dash _), hdash, readField_padded (month_lt d),
    readField_padded (day_lt d), Option.bind_eq_bind, Option.bind_some]
  rfl

/-! ## Times -/

/-- What may follow a time: neither digits nor the point of a fraction. -/
def EndsTime (rest : List Char) : Prop :=
  Stops rest ∧ ∀ c ∈ rest.head?, c ≠ '.'

theorem readFraction_point {width k : Nat} (hwidth : 0 < width) (hlimit : width ≤ 9)
    (hk : k < 10 ^ width) {rest : List Char} (hrest : Stops rest) :
    readFraction ('.' :: padded width k ++ rest) = some (k * tenTo (9 - width), rest) := by
  have hlength : (padded width k ++ rest).length - rest.length = width := by
    rw [List.length_append, length_padded hwidth hk, Nat.add_sub_cancel]
  simp only [readFraction, List.cons_append, readNumber_short hwidth hk hlimit hrest,
    Option.bind_eq_bind, Option.bind_some]
  rw [hlength, hrest.dropWhile]
  rfl

/-- The places of a fraction that are not written are zero. -/
theorem readFraction_fractionChars {nano : Nat} (hnano : nano < 1000000000) {rest : List Char}
    (hrest : EndsTime rest) : readFraction (fractionChars nano ++ rest) = some (nano, rest) := by
  obtain ⟨hstops, hpoint⟩ := hrest
  unfold fractionChars
  split
  · next hzero =>
    subst hzero
    rw [List.nil_append]
    unfold readFraction
    split
    · exact absurd rfl (hpoint '.' rfl)
    · rfl
  split
  · next hmilli =>
    have hback : nano / 1000000 * tenTo 6 = nano :=
      Nat.div_mul_cancel (Nat.dvd_of_mod_eq_zero hmilli)
    rw [readFraction_point (by decide) (by decide) (by omega) hstops, hback]
  split
  · next hmicro =>
    have hback : nano / 1000 * tenTo 3 = nano :=
      Nat.div_mul_cancel (Nat.dvd_of_mod_eq_zero hmicro)
    rw [readFraction_point (by decide) (by decide) (by omega) hstops, hback]
  · rw [readFraction_point (by decide) (by decide) (by omega) hstops]
    exact congrArg (fun n => some (n, rest)) (Nat.mul_one nano)

theorem time_lt (t : Time) :
    t.hour < 24 ∧ t.minute < 60 ∧ t.second < 60 ∧ t.nano < 2000000000 ∧
      (t.nano < 1000000000 ∨ t.second = 59) := by
  have h := t.valid
  simp only [isTime, Bool.and_eq_true, Bool.or_eq_true, decide_eq_true_eq, beq_iff_eq] at h
  omega

theorem readMinutes_written (loose : Bool) (t : Time) (rest : List Char) :
    readMinutes loose (padded 2 t.hour ++ ':' :: (padded 2 t.minute ++ rest)) =
      some ((t.hour, t.minute), rest) := by
  obtain ⟨hhour, hminute, -⟩ := time_lt t
  have hcolon : ∀ cs, separator loose ':' (':' :: cs) = some cs := separator_cons rfl loose
  simp only [readMinutes, readField_padded (hhour.trans (by decide)), hcolon,
    readField_padded (hminute.trans (by decide)), Option.bind_eq_bind, Option.bind_some]
  rfl

/-- The second that is written holds the billion of a leap second. -/
theorem readSeconds_written (loose : Bool) (t : Time) {rest : List Char} (hrest : EndsTime rest) :
    readSeconds loose (':' :: (padded 2 (t.second + t.nano / 1000000000) ++
        (fractionChars (t.nano % 1000000000) ++ rest))) =
      some ((t.second + t.nano / 1000000000, t.nano % 1000000000), rest) := by
  obtain ⟨-, -, hsecond, hnano, -⟩ := time_lt t
  have hwritten : t.second + t.nano / 1000000000 < 100 := by omega
  have hfraction : t.nano % 1000000000 < 1000000000 := Nat.mod_lt _ (by decide)
  have hcolon : ∀ cs, separator loose ':' (':' :: cs) = some cs := separator_cons rfl loose
  simp only [readSeconds, hcolon, readField_padded hwritten,
    readFraction_fractionChars hfraction hrest, Option.bind_eq_bind, Option.bind_some]
  rfl

theorem of?_clock (t : Time) : Time.of? t.hour t.minute t.second t.nano = some t :=
  dif_pos t.valid

theorem clock?_written (t : Time) :
    clock? t.hour t.minute (t.second + t.nano / 1000000000) (t.nano % 1000000000) = some t := by
  obtain ⟨-, -, hsecond, hnano, hleap⟩ := time_lt t
  unfold clock?
  by_cases hplain : t.nano < 1000000000
  · have hquot : t.second + t.nano / 1000000000 = t.second := by omega
    have hrem : t.nano % 1000000000 = t.nano := Nat.mod_eq_of_lt hplain
    rw [hquot, hrem, if_neg (by omega), if_pos hplain, of?_clock]
  · have hquot : t.second + t.nano / 1000000000 = 60 := by omega
    have hrem : 1000000000 + t.nano % 1000000000 = t.nano := by omega
    have hsecond : 59 = t.second := by omega
    rw [hquot, hrem, if_pos rfl, hsecond, of?_clock]

theorem timeChars_append (t : Time) (rest : List Char) :
    timeChars t ++ rest = padded 2 t.hour ++ ':' :: (padded 2 t.minute ++
      ':' :: (padded 2 (t.second + t.nano / 1000000000) ++
        (fractionChars (t.nano % 1000000000) ++ rest))) := by
  simp only [timeChars, List.append_assoc, List.cons_append]

theorem readTime_timeChars (loose : Bool) (t : Time) {rest : List Char} (hrest : EndsTime rest) :
    readTime loose (timeChars t ++ rest) = some (t, rest) := by
  simp only [readTime, timeChars_append, readMinutes_written, readSeconds_written loose t hrest,
    clock?_written, Option.bind_eq_bind, Option.bind_some]
  rfl

theorem endsTime_nil : EndsTime [] :=
  ⟨stops_nil, fun _ hc => by cases hc⟩

end Calendar

open Calendar

theorem Date.read?_toText (d : Date) : read? d.toText = some d := by
  have hread := readDate_dateChars true d []
  rw [List.append_nil] at hread
  simp only [read?, toText, String.toList_ofList, hread, Option.bind_eq_bind, Option.bind_some]
  exact of?_fields d

theorem Time.read?_toText (t : Time) : read? t.toText = some t := by
  have hchars := timeChars_append t []
  rw [List.append_nil] at hchars
  simp only [read?, toText, String.toList_ofList, hchars, readMinutes_written,
    readSeconds_written true t endsTime_nil, Option.getD_some, Option.bind_eq_bind,
    Option.bind_some, clock?_written]
  rfl

theorem skipBlanks_timeChars (t : Time) : skipBlanks (timeChars t) = timeChars t := by
  have hchars := timeChars_append t []
  rw [List.append_nil] at hchars
  rw [hchars, skipBlanks_padded]

theorem DateTime.read?_toText (t : DateTime) : read? t.toText = some t := by
  have hdate := readDate_dateChars false t.date (' ' :: timeChars t.time)
  have htime := readTime_timeChars false t.time endsTime_nil
  have hblank : skipBlanks (' ' :: timeChars t.time) = timeChars t.time :=
    (List.dropWhile_cons_of_pos rfl).trans (skipBlanks_timeChars t.time)
  rw [List.append_nil] at htime
  simp only [read?, toText, dateTimeChars, String.toList_ofList, hdate, hblank, htime,
    Date.of?_fields, Option.bind_eq_bind, Option.bind_some]
  rfl

end FluentSql
