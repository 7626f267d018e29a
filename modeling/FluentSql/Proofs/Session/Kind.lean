import FluentSql.Dialect.Placeholder
import FluentSql.Session.Output

/-!
# Kinds of statements

A statement is classified by its first word. The word is the same however placeholders are
written, and nothing behind it counts.
-/

namespace FluentSql

namespace StatementKind

theorem takeWhile_numberMarks (quoted : Bool) (n : Nat) (cs : List Char) :
    (Dialect.numberMarks quoted n cs).takeWhile isLetter = cs.takeWhile isLetter := by
  induction cs generalizing quoted n with
  | nil => rfl
  | cons c cs ih =>
    rw [Dialect.numberMarks]
    split
    · next hquote =>
      subst hquote
      rfl
    · split
      · next hmark =>
        obtain ⟨rfl, _⟩ := hmark
        rfl
      · rw [List.takeWhile_cons, List.takeWhile_cons, ih]

/-- What may stand before the first word of a statement. -/
def isLead (c : Char) : Bool :=
  Text.isBlank c || c == '('

theorem dropWhile_numberMarks (n : Nat) (cs : List Char) :
    (Dialect.numberMarks false n cs).dropWhile isLead =
      Dialect.numberMarks false n (cs.dropWhile isLead) := by
  induction cs generalizing n with
  | nil => rfl
  | cons c cs ih =>
    by_cases hskip : isLead c = true
    · have hquote : c ≠ '\'' := by
        rintro rfl
        revert hskip
        decide
      have hmark : ¬(c = '?' ∧ (!false) = true) := by
        rintro ⟨rfl, _⟩
        revert hskip
        decide
      rw [Dialect.numberMarks, if_neg hquote, if_neg hmark, List.dropWhile_cons_of_pos hskip,
        List.dropWhile_cons_of_pos hskip, ih]
    · have hhead : ∃ c' rest, Dialect.numberMarks false n (c :: cs) = c' :: rest ∧
          ¬isLead c' = true := by
        rw [Dialect.numberMarks]
        split
        · exact ⟨c, _, rfl, hskip⟩
        · split
          · exact ⟨'$', _, rfl, by decide⟩
          · exact ⟨c, _, rfl, hskip⟩
      obtain ⟨c', rest, hmarks, hstop⟩ := hhead
      rw [List.dropWhile_cons_of_neg hskip, hmarks, List.dropWhile_cons_of_neg hstop]

/-- The kind of a statement does not depend on how placeholders are written. -/
theorem classify_lowerPlaceholders (d : Dialect) (sql : String) :
    classify (d.lowerPlaceholders sql) = classify sql := by
  suffices hverb : verb (d.lowerPlaceholders sql) = verb sql by rw [classify, hverb, classify]
  unfold Dialect.lowerPlaceholders
  split
  · show Text.asciiLower (String.ofList ((List.dropWhile isLead _).takeWhile isLetter)) = _
    rw [String.toList_ofList, dropWhile_numberMarks, takeWhile_numberMarks]
    rfl
  · rfl

/-- Behind the first word of a statement and a blank, anything may follow. -/
theorem classify_append {word : String} (hne : word.toList ≠ [])
    (hword : word.toList.all (fun c => !isLead c && isLetter c) = true) (rest : String) :
    classify (word ++ " " ++ rest) = classify word := by
  have hchars : ∀ c ∈ word.toList, isLead c = false ∧ isLetter c = true := by simpa using hword
  have hverb : ∀ tail : List Char, (tail.takeWhile isLetter = []) →
      ((word.toList ++ tail).dropWhile isLead).takeWhile isLetter = word.toList := by
    intro tail htail
    obtain ⟨c, cs, hcons⟩ := List.exists_cons_of_ne_nil hne
    have hfirst : ¬isLead c = true := by
      rw [(hchars c (hcons ▸ List.mem_cons_self)).1]
      decide
    rw [hcons, List.cons_append, List.dropWhile_cons_of_neg hfirst, ← List.cons_append, ← hcons,
      List.takeWhile_append_of_pos fun c hc => (hchars c hc).2, htail, List.append_nil]
  have hlong : verb (word ++ " " ++ rest) = Text.asciiLower (String.ofList word.toList) := by
    have htext : (word ++ " " ++ rest).toList = word.toList ++ ' ' :: rest.toList := by
      rw [String.toList_append, String.toList_append, List.append_assoc]
      rfl
    show Text.asciiLower (String.ofList ((List.dropWhile isLead _).takeWhile isLetter)) = _
    rw [htext, hverb _ (List.takeWhile_cons_of_neg (by decide))]
  have hshort : verb word = Text.asciiLower (String.ofList word.toList) := by
    show Text.asciiLower (String.ofList ((List.dropWhile isLead _).takeWhile isLetter)) = _
    rw [← List.append_nil word.toList, hverb [] rfl, List.append_nil]
  rw [classify, hlong, ← hshort, classify]

/-- A text in two halves is classified by the first word of the first. -/
theorem classify_lead (lead word more : String) (hlead : lead = word ++ " " ++ more)
    (hne : word.toList ≠ []) (hword : word.toList.all (fun c => !isLead c && isLetter c) = true)
    (rest : String) : classify (lead ++ rest) = classify word := by
  rw [hlead, String.append_assoc, classify_append hne hword]

theorem classify_createTable (rest : String) : classify ("CREATE TABLE " ++ rest) = .ddl := by
  rw [classify_lead "CREATE TABLE " "CREATE" "TABLE " rfl (by decide) (by decide)]
  decide

theorem classify_dropTable (rest : String) :
    classify ("DROP TABLE IF EXISTS " ++ rest) = .ddl := by
  rw [classify_lead "DROP TABLE IF EXISTS " "DROP" "TABLE IF EXISTS " rfl (by decide) (by decide)]
  decide

end StatementKind

end FluentSql
