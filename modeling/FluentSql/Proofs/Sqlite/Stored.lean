import FluentSql.Row.Basic
import FluentSql.Sqlite.Cell
import FluentSql.Proofs.Calendar.Reading

/-!
# Dates and times in SQLite

SQLite has no cells for dates and times: they are stored as the text that is shown of them. No
column takes that text for a number, and it is read back as the same date and time.
-/

namespace FluentSql

open Calendar Integer

namespace Sqlite

theorem isSpace_of_isDigit {c : Char} (h : isDigit c = true) : isSpace c = false := by
  simp only [isDigit, Bool.and_eq_true, decide_eq_true_eq] at h
  have hlow : 48 ≤ c.toNat := h.1
  have hspace : c ≠ ' ' := by
    rintro rfl
    revert hlow
    decide
  have hcontrol : ¬c ≤ '\r' := by
    intro hle
    have hnat : c.toNat ≤ 13 := hle
    omega
  simp [isSpace, hspace, hcontrol]

namespace Numeral

/-- A number that a dash follows is read up to the dash. -/
theorem rest_read {sign : List Char} (hsign : sign = [] ∨ sign = ['-'] ∨ sign = ['+']) (n : Nat)
    (rest : List Char) : (read (sign ++ (padded 4 n ++ '-' :: rest))).rest = '-' :: rest := by
  have hdrop : (padded 4 n ++ '-' :: rest).dropWhile isDigit = '-' :: rest :=
    dropWhile_digits (fun c hc => isDigit_of_mem_padded hc) (stops_cons rfl rest)
  rcases hsign with rfl | rfl | rfl
  · obtain ⟨c, cs, hpadded, hc⟩ := exists_padded 4 n
    have hspaces : (c :: (cs ++ '-' :: rest)).dropWhile isSpace = c :: (cs ++ '-' :: rest) :=
      List.dropWhile_cons_of_neg (by simp [isSpace_of_isDigit hc])
    rw [hpadded, List.cons_append] at hdrop ⊢
    rw [List.nil_append, read, hspaces]
    -- a digit is no sign
    split
    next hsign =>
      split at hsign
      · next hminus =>
        obtain ⟨rfl, -⟩ := List.cons.inj hminus
        cases hc
      · next hplus =>
        obtain ⟨rfl, -⟩ := List.cons.inj hplus
        cases hc
      · obtain ⟨-, rfl⟩ := Prod.mk.inj hsign
        rw [hdrop]
        rfl
  · have hspaces : ∀ cs, ('-' :: cs).dropWhile isSpace = '-' :: cs := fun cs => rfl
    simp only [read, List.cons_append, List.nil_append, hspaces, hdrop]
    rfl
  · have hspaces : ∀ cs, ('+' :: cs).dropWhile isSpace = '+' :: cs := fun cs => rfl
    simp only [read, List.cons_append, List.nil_append, hspaces, hdrop]
    rfl

theorem isWhole_read {sign : List Char} (hsign : sign = [] ∨ sign = ['-'] ∨ sign = ['+']) (n : Nat)
    (rest : List Char) : (read (sign ++ (padded 4 n ++ '-' :: rest))).isWhole = false := by
  rw [isWhole, endsText, rest_read hsign]
  exact Bool.and_false _

end Numeral

/-- A text that starts with a year and a dash is not a number. -/
theorem Cell.ofNumber?_year (year : Int) (rest : List Char) :
    ofNumber? (String.ofList (yearChars year ++ '-' :: rest)) = none := by
  obtain ⟨sign, n, hyear, hsign⟩ := exists_yearChars year
  have hwhole := Numeral.isWhole_read hsign n rest
  rw [ofNumber?, String.toList_ofList, hyear, List.append_assoc]
  simp only [hwhole]
  rfl

end Sqlite

namespace DateTime

/-- What keeping a date and time as its text has to give. -/
structure KeptAsText (t : DateTime) : Prop where
  /-- A column of SQLite gives back the text that is shown of the value. -/
  stored : (Sqlite.Cell.ofValue (.dateTime t)).toValue = .string (Value.dateTime t).toText
  /-- Also a column for numbers keeps it as a text. -/
  noNumber : Sqlite.Cell.ofNumber? (Value.dateTime t).toText = none
  read : (Reads.read (.string (Value.dateTime t).toText) : Except Error DateTime) = .ok t
  /-- No other date and time has the text. -/
  alone : ∀ u : DateTime, (Value.dateTime u).toText = (Value.dateTime t).toText → u = t
  /-- What was stored is read as the value itself is. -/
  agrees : (Reads.read (Sqlite.Cell.ofValue (.dateTime t)).toValue : Except Error DateTime) =
    Reads.read (.dateTime t)

theorem read_text (t : DateTime) :
    (Reads.read (.string t.toText) : Except Error DateTime) = .ok t := by
  simp only [Reads.read, read?_toText]

theorem keptAsText (t : DateTime) : KeptAsText t where
  stored := rfl
  noNumber := by
    have htext : (Value.dateTime t).toText = String.ofList (yearChars t.date.year ++
        '-' :: (padded 2 t.date.month ++ '-' :: padded 2 t.date.day ++
          ' ' :: timeChars t.time)) := by
      rw [Value.toText, toText, dateTimeChars, dateChars]
      simp only [List.append_assoc, List.cons_append]
    rw [htext, Sqlite.Cell.ofNumber?_year]
  read := read_text t
  alone u htext := by
    have hsame : u.toText = t.toText := htext
    have hread := read_text u
    rw [hsame, read_text] at hread
    exact (Except.ok.inj hread).symm
  agrees := read_text t

/-- In a leap second, on the ides of March of the year before the year 0. -/
example : (DateTime.mk ⟨-1, 3, 15, rfl⟩ ⟨23, 59, 59, 1500000000, rfl⟩).toText =
    "-0001-03-15 23:59:60.500" := by
  rfl

end DateTime

end FluentSql
