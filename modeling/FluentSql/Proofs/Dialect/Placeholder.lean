import FluentSql.Proofs.Text.Quotation

/-!
# Numbered placeholders

Lowering splits at every point outside literals: what stands behind such a point is
lowered on its own, with the numbers going on from the question marks before it. It
leaves no open question mark, moves no quote, and adds one dollar sign for each mark.
-/

namespace FluentSql.Dialect

open FluentSql.Text

/-- How the dialect writes the placeholder of parameter `k`, counted from one. -/
def mark (d : Dialect) (k : Nat) : List Char :=
  if d.isNumbered then '$' :: Nat.toDigits 10 k else ['?']

/-- Text that starts outside literals, in the dialect's placeholders from `n` on. -/
def written (d : Dialect) (n : Nat) (cs : List Char) : List Char :=
  if d.isNumbered then numberMarks false n cs else cs

theorem toList_lowerPlaceholders (d : Dialect) (sql : String) :
    (d.lowerPlaceholders sql).toList = d.written 1 sql.toList := by
  unfold lowerPlaceholders written
  cases d.isNumbered with
  | false => rfl
  | true => exact String.toList_ofList

theorem numberMarks_append (quoted : Bool) (n : Nat) (a b : List Char) :
    numberMarks quoted n (a ++ b) =
      numberMarks quoted n a ++
        numberMarks (quotedAfter quoted a) (n + openCount '?' quoted a) b := by
  induction a generalizing quoted n with
  | nil => rfl
  | cons c a ih =>
    by_cases hq : c = '\''
    · simp only [List.cons_append, numberMarks, quotedAfter, openCount, if_pos hq]
      rw [ih]
    · by_cases hm : c = '?' ∧ quoted = false
      · obtain ⟨rfl, rfl⟩ := hm
        simp only [List.cons_append, numberMarks, quotedAfter, openCount, if_neg hq]
        simp only [Bool.not_false, and_self, if_true, List.cons_append, List.append_assoc]
        rw [ih, ← Nat.add_assoc]
      · have hm' : ¬(c = '?' ∧ (!quoted) = true) := by simpa using hm
        simp only [List.cons_append, numberMarks, quotedAfter, openCount, if_neg hq, if_neg hm,
          if_neg hm', Nat.zero_add]
        rw [ih]

/-- Text without open question marks stays as it is. -/
theorem numberMarks_of_openCount_eq_zero {quoted : Bool} {cs : List Char}
    (h : openCount '?' quoted cs = 0) (n : Nat) : numberMarks quoted n cs = cs := by
  induction cs generalizing quoted with
  | nil => rfl
  | cons c cs ih =>
    by_cases hq : c = '\''
    · rw [openCount, if_pos hq] at h
      rw [numberMarks, if_pos hq, ih h]
    · rw [openCount, if_neg hq] at h
      have hm : ¬(c = '?' ∧ quoted = false) := by
        intro hm
        rw [if_pos hm] at h
        omega
      have hm' : ¬(c = '?' ∧ (!quoted) = true) := by simpa using hm
      rw [if_neg hm, Nat.zero_add] at h
      rw [numberMarks, if_neg hq, if_neg hm', ih h]

theorem not_mem_toDigits {c : Char} (hc : c.isDigit = false) (n : Nat) :
    c ∉ Nat.toDigits 10 n := by
  intro h
  have hd := Nat.isDigit_of_mem_toDigits (by decide) (by decide) h
  rw [hd] at hc
  contradiction

/-- What a scan sees of a numbered text: the quotes where they were, no question mark
outside literals, and a dollar sign for each that was there. -/
theorem scan_numberMarks (quoted : Bool) (n : Nat) (cs : List Char) :
    quotedAfter quoted (numberMarks quoted n cs) = quotedAfter quoted cs ∧
      openCount '?' quoted (numberMarks quoted n cs) = 0 ∧
      openCount '$' quoted (numberMarks quoted n cs) =
        openCount '$' quoted cs + openCount '?' quoted cs := by
  induction cs generalizing quoted n with
  | nil => exact ⟨rfl, rfl, rfl⟩
  | cons c cs ih =>
    by_cases hq : c = '\''
    · simp only [numberMarks, quotedAfter, openCount, if_pos hq]
      exact ih _ _
    · by_cases hm : c = '?' ∧ quoted = false
      · obtain ⟨rfl, rfl⟩ := hm
        obtain ⟨hend, hmarks, hdollars⟩ := ih false (n + 1)
        have hquote := not_mem_toDigits (c := '\'') (by decide) n
        have hmark := not_mem_toDigits (c := '?') (by decide) n
        have hdollar := not_mem_toDigits (c := '$') (by decide) n
        have hlead : ¬('$' : Char) = '\'' := by decide
        have hnumber : numberMarks false n ('?' :: cs) =
            '$' :: (Nat.toDigits 10 n ++ numberMarks false (n + 1) cs) := rfl
        have hnone : ¬(('$' : Char) = '?' ∧ false = false) := by decide
        have hone : ('$' : Char) = '$' ∧ false = false := ⟨rfl, rfl⟩
        have hmarked : ('?' : Char) = '?' ∧ false = false := ⟨rfl, rfl⟩
        have hother : ¬(('?' : Char) = '$' ∧ false = false) := by decide
        rw [hnumber]
        refine ⟨?_, ?_, ?_⟩
        · rw [quotedAfter, if_neg hlead, quotedAfter_append, quotedAfter_of_not_mem _ hquote, hend,
            quotedAfter, if_neg hq]
        · rw [openCount, if_neg hlead, if_neg hnone, openCount_append,
            quotedAfter_of_not_mem _ hquote, openCount_of_not_mem _ hmark, hmarks]
        · rw [openCount, if_neg hlead, if_pos hone, openCount_append,
            quotedAfter_of_not_mem _ hquote, openCount_of_not_mem _ hdollar, hdollars]
          rw [openCount, if_neg hq, if_neg hother, openCount, if_neg hq, if_pos hmarked]
          omega
      · have hm' : ¬(c = '?' ∧ (!quoted) = true) := by simpa using hm
        obtain ⟨hend, hmarks, hdollars⟩ := ih quoted n
        simp only [numberMarks, if_neg hq, if_neg hm']
        simp only [quotedAfter, openCount, if_neg hq, if_neg hm, hend, hmarks, hdollars,
          Nat.zero_add]
        exact ⟨trivial, trivial, by omega⟩

variable (d : Dialect)

/-- Outside literals, text is written in two halves. -/
theorem written_append {a : List Char} (h : quotedAfter false a = false) (n : Nat)
    (b : List Char) :
    d.written n (a ++ b) = d.written n a ++ d.written (n + openCount '?' false a) b := by
  unfold written
  cases d.isNumbered with
  | false => rfl
  | true =>
    have hsplit := numberMarks_append false n a b
    rw [h] at hsplit
    exact hsplit

theorem written_of_closed {s : String} (h : Closed s) (n : Nat) :
    d.written n s.toList = s.toList := by
  unfold written
  cases d.isNumbered with
  | false => rfl
  | true => exact numberMarks_of_openCount_eq_zero h.2 n

theorem written_mark (n : Nat) (cs : List Char) :
    d.written n ('?' :: cs) = d.mark n ++ d.written (n + 1) cs := by
  unfold written mark
  cases d.isNumbered with
  | false => rfl
  | true => rfl

/-- How a text is written that stands behind another in one statement. -/
def writtenBehind (front text : String) : List Char :=
  if d.isNumbered then
    numberMarks (quotedAfter false front.toList) (1 + openCount '?' false front.toList) text.toList
  else text.toList

theorem toList_lowerPlaceholders_append (a b : String) :
    (d.lowerPlaceholders (a ++ b)).toList =
      (d.lowerPlaceholders a).toList ++ d.writtenBehind a b := by
  rw [toList_lowerPlaceholders, toList_lowerPlaceholders, String.toList_append]
  unfold written writtenBehind
  cases d.isNumbered with
  | false => rfl
  | true => exact numberMarks_append false 1 _ _

/-- Behind a balanced text the numbers go on from its marks. -/
theorem writtenBehind_of_marks {front : String} {k : Nat}
    (h : d.isNumbered = true → Marks k front) (text : String) :
    d.writtenBehind front text = d.written (1 + k) text.toList := by
  unfold writtenBehind written
  cases hd : d.isNumbered with
  | false => rfl
  | true =>
    obtain ⟨hend, hcount⟩ := h hd
    rw [hend, hcount]

theorem openCount_written_of_numbered (h : d.isNumbered = true) (n : Nat) (cs : List Char) :
    openCount '?' false (d.written n cs) = 0 ∧
      openCount '$' false (d.written n cs) = openCount '$' false cs + openCount '?' false cs := by
  unfold written
  rw [if_pos h]
  exact (scan_numberMarks false n cs).2

/-- A text stays as it is where placeholders are not numbered or none of it is open. -/
theorem lowerPlaceholders_eq_self_iff {sql : String} :
    d.lowerPlaceholders sql = sql ↔ (d = .postgreSql → openCount '?' false sql.toList = 0) := by
  rw [← String.toList_inj, toList_lowerPlaceholders]
  constructor
  · rintro h rfl
    rw [← h]
    exact (openCount_written_of_numbered _ rfl 1 sql.toList).1
  · intro h
    unfold written
    cases d with
    | postgreSql => exact numberMarks_of_openCount_eq_zero (h rfl) 1
    | mySql => rfl
    | sqlite => rfl

end FluentSql.Dialect
