import Mathlib.Data.Int.Init
import FluentSql.Calendar.Basic

/-!
# Days counted

A date is found again from the count of its days. Years are counted from March, so that the leap
day is the last of its year, and in eras of four hundred years.
-/

namespace FluentSql

namespace Date

theorem of?_fields (d : Date) : of? d.year d.month d.day = some d :=
  dif_pos d.valid

theorem bounds (d : Date) :
    1 ≤ d.month ∧ d.month ≤ 12 ∧ 1 ≤ d.day ∧ d.day ≤ daysInMonth d.year d.month := by
  have hvalid := d.valid
  simp only [isDate, Bool.and_eq_true, decide_eq_true_eq] at hvalid
  omega

variable {d : Date} {y m : Int}

end Date

end FluentSql
