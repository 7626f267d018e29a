import FluentSql.Proofs.Dialect.Placeholder

/-!
# Lowered placeholders

What lowering does to a text is a rule about the places in it: a question mark that stands
outside literals is written as the number that it counts to, and every other character is
copied. A lowered text has no such question mark left, and as long as there was no dollar
sign outside literals, the question marks can be put back.
-/

namespace FluentSql

namespace Text

/-- A literal without its closing quote. A quote inside is written twice. -/
def unclosed (content : List Char) : List Char :=
  '\'' :: content.flatMap fun c => if c = '\'' then ['\'', '\''] else [c]

/-- Behind this text one is outside literals. -/
inductive Outside : List Char → Prop
  | start : Outside []
  | plain {front : List Char} {c : Char} (hfront : Outside front) (hc : c ≠ '\'') :
      Outside (front ++ [c])
  | literal {front : List Char} (content : List Char) (hfront : Outside front) :
      Outside (front ++ unclosed content ++ ['\''])

theorem quotedAfter_concat (quoted : Bool) (front : List Char) (c : Char) :
    quotedAfter quoted (front ++ [c]) =
      if c = '\'' then !quotedAfter quoted front else quotedAfter quoted front :=
  quotedAfter_append quoted front [c]

theorem quotedAfter_of_outside {front : List Char} (h : Outside front) :
    quotedAfter false front = false := by
  induction h with
  | start => rfl
  | plain _ hc ih => rw [quotedAfter_concat, if_neg hc, ih]
  | literal content _ ih =>
    have hinside : quotedAfter false (unclosed content) = true := (scan_doubled '\'' content).1
    rw [quotedAfter_concat, if_pos rfl, quotedAfter_append, ih, hinside, Bool.not_true]

/-- Where a scan is inside a literal, the literal was opened outside of others. -/
theorem outside_of_quotedAfter (front : List Char) :
    (quotedAfter false front = false → Outside front) ∧
      (quotedAfter false front = true →
        ∃ before content, Outside before ∧ front = before ++ unclosed content) := by
  induction front using List.reverseRecOn with
  | nil => exact ⟨fun _ => .start, nofun⟩
  | append_singleton front c ih =>
    rw [quotedAfter_concat]
    obtain ⟨houtside, hinside⟩ := ih
    by_cases hc : c = '\''
    · subst hc
      simp only [if_true, Bool.not_eq_false', Bool.not_eq_true']
      constructor
      · intro h
        obtain ⟨before, content, hbefore, rfl⟩ := hinside h
        exact .literal content hbefore
      · intro h
        exact ⟨front, [], houtside h, rfl⟩
    · simp only [if_neg hc]
      constructor
      · exact fun h => .plain (houtside h) hc
      · intro h
        obtain ⟨before, content, hbefore, rfl⟩ := hinside h
        refine ⟨before, content ++ [c], hbefore, ?_⟩
        rw [unclosed, unclosed, List.flatMap_append, List.flatMap_singleton, if_neg hc,
          List.append_assoc, List.cons_append]

/-- One bit, which every quote flips, tells where literals are. -/
theorem outside_iff {front : List Char} : Outside front ↔ quotedAfter false front = false :=
  ⟨quotedAfter_of_outside, (outside_of_quotedAfter front).1⟩

instance (front : List Char) : Decidable (Outside front) :=
  decidable_of_iff _ outside_iff.symm

end Text

namespace Dialect

open Text

/-- The characters of a text, each with all that stands in front of it. -/
def placesFrom (front : List Char) : List Char → List (List Char × Char)
  | [] => []
  | c :: cs => (front, c) :: placesFrom (front ++ [c]) cs

/-- A question mark outside literals. -/
def IsMark (place : List Char × Char) : Prop :=
  place.2 = '?' ∧ Outside place.1

instance (place : List Char × Char) : Decidable (IsMark place) :=
  inferInstanceAs (Decidable (_ ∧ _))

/-- What is written at a place: the number of the mark, if there is one, or the character. -/
def numeral (place : List Char × Char) : List Char :=
  if IsMark place then
    '$' :: Nat.toDigits 10 ((placesFrom [] place.1).countP (IsMark ·) + 1)
  else [place.2]

/-- The text with its `k`-th mark written as `$k`. -/
def numbered (sql : String) : String :=
  String.ofList ((placesFrom [] sql.toList).flatMap numeral)

theorem countP_placesFrom (front cs : List Char) :
    (placesFrom front cs).countP (IsMark ·) = openCount '?' (quotedAfter false front) cs := by
  induction cs generalizing front with
  | nil => rfl
  | cons c cs ih =>
    rw [placesFrom, List.countP_cons, ih, quotedAfter_concat]
    by_cases hquote : c = '\''
    · have hmark : ¬IsMark (front, c) := by
        rintro ⟨rfl, _⟩
        cases hquote
      rw [if_pos hquote, openCount, if_pos hquote, decide_eq_false hmark]
      rfl
    · have hmark : IsMark (front, c) ↔ c = '?' ∧ quotedAfter false front = false :=
        and_congr_right fun _ => outside_iff
      rw [if_neg hquote, openCount, if_neg hquote, Nat.add_comm]
      simp only [hmark, decide_eq_true_eq]

/-- Where `front` was scanned, the rest is numbered by the rule. -/
theorem numberMarks_eq (front cs : List Char) :
    numberMarks (quotedAfter false front) (openCount '?' false front + 1) cs =
      (placesFrom front cs).flatMap numeral := by
  induction cs generalizing front with
  | nil => rfl
  | cons c cs ih =>
    have hnext := ih (front ++ [c])
    rw [quotedAfter_concat, openCount_append] at hnext
    rw [placesFrom, List.flatMap_cons, ← hnext, numberMarks, numeral, countP_placesFrom]
    have hmark : IsMark (front, c) ↔ c = '?' ∧ quotedAfter false front = false :=
      and_congr_right fun _ => outside_iff
    generalize quotedAfter false front = quoted at hmark ⊢
    by_cases hquote : c = '\''
    · have hnone : ¬IsMark (front, c) := by
        rintro ⟨rfl, _⟩
        cases hquote
      simp only [if_pos hquote, if_neg hnone, openCount, Nat.add_zero, List.singleton_append]
    · by_cases hopen : c = '?' ∧ quoted = false
      · obtain ⟨rfl, rfl⟩ := hopen
        simp only [if_neg hquote, if_pos (hmark.mpr ⟨rfl, rfl⟩), openCount]
        rfl
      · have hcopied : ¬(c = '?' ∧ (!quoted) = true) := by simpa using hopen
        simp only [if_neg hquote, if_neg hcopied, if_neg (mt hmark.mp hopen), openCount,
          if_neg hopen, Nat.add_zero, List.singleton_append]

theorem lowerPlaceholders_eq_numbered (sql : String) :
    postgreSql.lowerPlaceholders sql = numbered sql := by
  rw [← String.toList_inj, toList_lowerPlaceholders, numbered, String.toList_ofList]
  exact numberMarks_eq [] sql.toList

/-- Puts question marks in the place of the numbers from `next` on. -/
def restoreMarks (quoted : Bool) (next : Nat) : List Char → List Char
  | [] => []
  | c :: cs =>
    if c = '\'' then c :: restoreMarks (!quoted) next cs
    else if c = '$' ∧ !quoted then
      '?' :: restoreMarks quoted (next + 1) (cs.drop (Nat.toDigits 10 next).length)
    else c :: restoreMarks quoted next cs
termination_by cs => cs.length
decreasing_by all_goals simp only [List.length_cons, List.length_drop]; omega

def restorePlaceholders (sql : String) : String :=
  String.ofList (restoreMarks false 1 sql.toList)

theorem restoreMarks_numberMarks {quoted : Bool} {cs : List Char}
    (h : openCount '$' quoted cs = 0) (n : Nat) :
    restoreMarks quoted n (numberMarks quoted n cs) = cs := by
  induction cs generalizing quoted n with
  | nil =>
    rw [numberMarks, restoreMarks]
  | cons c cs ih =>
    by_cases hquote : c = '\''
    · rw [openCount, if_pos hquote] at h
      rw [numberMarks, if_pos hquote, restoreMarks, if_pos hquote, ih h]
    · rw [openCount, if_neg hquote] at h
      obtain ⟨hdollar, hrest⟩ := Nat.add_eq_zero_iff.mp h
      by_cases hopen : c = '?' ∧ (!quoted) = true
      · obtain ⟨rfl, hquoted⟩ := hopen
        have hlead : ¬('$' : Char) = '\'' := by decide
        rw [numberMarks, if_neg hquote, if_pos ⟨rfl, hquoted⟩, List.cons_append, restoreMarks,
          if_neg hlead, if_pos ⟨rfl, hquoted⟩, List.drop_left, ih hrest]
      · have hcopied : ¬(c = '$' ∧ (!quoted) = true) := by
          intro hc
          rw [if_pos (by simpa using hc)] at hdollar
          cases hdollar
        rw [numberMarks, if_neg hquote, if_neg hopen, restoreMarks, if_neg hquote,
          if_neg hcopied, ih hrest]

theorem restorePlaceholders_lowerPlaceholders {sql : String}
    (h : openCount '$' false sql.toList = 0) :
    restorePlaceholders (postgreSql.lowerPlaceholders sql) = sql := by
  rw [restorePlaceholders, toList_lowerPlaceholders]
  show String.ofList (restoreMarks false 1 (numberMarks false 1 sql.toList)) = sql
  rw [restoreMarks_numberMarks h, String.ofList_toList]

/-- Lowering for PostgreSQL numbers the question marks outside literals and changes nothing
else, a second time it changes nothing at all, and of texts without a dollar sign outside
literals no two are lowered alike. On MySQL and SQLite it changes nothing. -/
theorem lowerPlaceholders_exact :
    (∀ sql : String, postgreSql.lowerPlaceholders sql = numbered sql ∧
      postgreSql.lowerPlaceholders (postgreSql.lowerPlaceholders sql) =
        postgreSql.lowerPlaceholders sql) ∧
    (∀ sql other : String, openCount '$' false sql.toList = 0 →
      openCount '$' false other.toList = 0 →
      (postgreSql.lowerPlaceholders sql = postgreSql.lowerPlaceholders other ↔ sql = other)) ∧
    ∀ (d : Dialect) (sql : String), d ≠ .postgreSql → d.lowerPlaceholders sql = sql := by
  refine ⟨fun sql => ⟨lowerPlaceholders_eq_numbered sql, ?_⟩, ?_, ?_⟩
  · rw [lowerPlaceholders_eq_self_iff, toList_lowerPlaceholders]
    exact fun _ => (openCount_written_of_numbered _ rfl 1 sql.toList).1
  · intro sql other hsql hother
    constructor
    · intro h
      rw [← restorePlaceholders_lowerPlaceholders hsql, h,
        restorePlaceholders_lowerPlaceholders hother]
    · exact congrArg postgreSql.lowerPlaceholders
  · intro d sql hd
    exact (lowerPlaceholders_eq_self_iff d).mpr fun hnumbered => absurd hnumbered hd

/-- Doubled quotes, a literal that is not closed, and a digit behind a question mark. -/
theorem lowerPlaceholders_exact_quotes :
    let sql := "a = ?1 AND b = 'it''s ? $1' AND c = ? AND d = '?"
    let other := "a = ? AND b = 'it''s ? $1' AND c = ? AND d = '?"
    openCount '$' false sql.toList = 0 ∧ openCount '$' false other.toList = 0 ∧
      (postgreSql.lowerPlaceholders sql = postgreSql.lowerPlaceholders other ↔ sql = other) ∧
      sqlite ≠ .postgreSql ∧ sqlite.lowerPlaceholders sql = sql ∧
      numbered sql = "a = $11 AND b = 'it''s ? $1' AND c = $2 AND d = '?" := by
  refine ⟨by decide, by decide, lowerPlaceholders_exact.2.1 _ _ (by decide) (by decide),
    by decide, lowerPlaceholders_exact.2.2 _ _ (by decide), ?_⟩
  rw [← (lowerPlaceholders_exact.1 _).1]
  decide

end Dialect

end FluentSql
