import FluentSql.Proofs.Clause.Precedence

/-!
# The text of a section

Linked conditions are written as a keyword with their conjunction and their alternatives
behind it. Apart from columns that are spelled like it, the keyword stands there once.
-/

namespace FluentSql

open FluentSql.Text

/-- Predicates one after the other, each behind the connective. -/
def furtherText (k : Connective) (ps : List Predicate) : String :=
  concat (ps.map fun p => " " ++ k.sql ++ " " ++ p.sql)

/-- A conjunction behind its keyword and alternatives behind it, every predicate but the
first behind its connective; nothing where there is no conjunction. -/
def sectionText (keyword : String) : List Predicate → List Predicate → String
  | [], _ => ""
  | p :: ps, alternatives =>
    " " ++ keyword ++ " " ++ p.sql ++ furtherText .and ps ++ furtherText .or alternatives

theorem sectionText_eq_empty_iff (keyword : String) (ps alternatives : List Predicate) :
    sectionText keyword ps alternatives = "" ↔ ps = [] := by
  cases ps <;> simp [sectionText]

namespace Conditions

def bucket (c : Conditions) : Connective → List Clause
  | .and => c.primary
  | .or => c.alternatives

def predicates (c : Conditions) (k : Connective) : List Predicate :=
  (c.bucket k).map fun clause => clause.predicate

theorem renderAll_furtherFragments {k : Connective} {clauses : List Clause}
    (h : ∀ clause ∈ clauses, connectiveText clause.connective = k.sql) :
    Fragment.renderAll (furtherFragments clauses) =
      furtherText k (clauses.map fun clause => clause.predicate) := by
  induction clauses with
  | nil => rfl
  | cons clause rest ih =>
    have hrest := ih fun c hc => h c (List.mem_cons_of_mem clause hc)
    have hfurther : furtherFragments (clause :: rest) =
        .text (" " ++ connectiveText clause.connective ++ " ") ::
          (clause.predicate.fragments ++ furtherFragments rest) := rfl
    rw [hfurther, Fragment.renderAll_cons, Fragment.renderAll_append, hrest, Fragment.render,
      h clause List.mem_cons_self, ← String.append_assoc]
    rfl

/-- Linked conditions are written in the order of their buckets. -/
theorem Linked.sql_eq {c : Conditions} (h : c.Linked 0) (keyword : String) :
    c.sql keyword = sectionText keyword (c.predicates .and) (c.predicates .or) := by
  obtain ⟨primary, alternatives⟩ := c
  cases primary with
  | nil =>
    cases alternatives with
    | nil => rfl
    | cons a as => exact absurd rfl (h.started (List.cons_ne_nil a as))
  | cons first rest =>
    have hand : ∀ clause ∈ rest, connectiveText clause.connective = Connective.and.sql := by
      intro clause hclause
      have hne := h.primary clause (List.mem_cons_of_mem first hclause)
      obtain ⟨p, _ | _ | _⟩ := clause
      · rfl
      · rfl
      · exact absurd rfl hne
    have hor : ∀ clause ∈ alternatives,
        connectiveText clause.connective = Connective.or.sql := by
      intro clause hclause
      rw [h.alternatives clause hclause]
      rfl
    have hfragments : (⟨first :: rest, alternatives⟩ : Conditions).fragments keyword =
        .text (" " ++ keyword ++ " ") :: (first.predicate.fragments ++
          (furtherFragments rest ++ furtherFragments alternatives)) := by
      rw [furtherFragments, furtherFragments, ← List.flatMap_append]
      rfl
    rw [sql, hfragments, Fragment.renderAll_cons, Fragment.renderAll_append,
      Fragment.renderAll_append, renderAll_furtherFragments hand, renderAll_furtherFragments hor,
      ← String.append_assoc, ← String.append_assoc]
    rfl

end Conditions

namespace Predicate

/-- What stands behind the column of a predicate. -/
def testText : Predicate → String
  | .compare _ op _ => op.sql ++ " ?"
  | .between _ negated _ _ => notText negated ++ "BETWEEN ? AND ?"
  | .inList _ negated vs => notText negated ++ "IN (" ++ commaList (vs.map fun _ => "?") ++ ")"
  | .isNull _ negated => "IS " ++ notText negated ++ "NULL"

theorem sql_eq (p : Predicate) : p.sql = p.column ++ " " ++ p.testText := by
  cases p with
  | compare c op v =>
    show c ++ " " ++ op.sql ++ " " ++ ("?" ++ "") = c ++ " " ++ (op.sql ++ " ?")
    simp only [String.append_assoc]
    rfl
  | between c negated low high =>
    show c ++ " " ++ notText negated ++ "BETWEEN " ++ ("?" ++ (" AND " ++ ("?" ++ ""))) =
      c ++ " " ++ (notText negated ++ "BETWEEN ? AND ?")
    simp only [String.append_assoc]
    rfl
  | inList c negated vs =>
    rw [sql, fragments, List.cons_append, Fragment.renderAll_cons, Fragment.renderAll_append,
      Fragment.renderAll_slots, Fragment.renderAll_singleton]
    simp only [Fragment.render, column, testText, String.append_assoc]
  | isNull c negated =>
    show c ++ " IS " ++ notText negated ++ "NULL" ++ "" =
      c ++ " " ++ ("IS " ++ notText negated ++ "NULL")
    simp only [String.append_assoc, String.append_empty]
    rfl

/-- The words and marks that a test is written with. -/
def testLexemes : List String :=
  ["=", "!=", "<", ">", "<=", ">=", "LIKE", "NOT", "BETWEEN", "AND", "IN", "IS", "NULL", "(", ",",
    ")", "?"]

theorem lexemes_marks (vs : List Value) :
    ∀ w ∈ lexemes (commaList (vs.map fun _ => "?")).toList, w ∈ testLexemes := by
  induction vs with
  | nil =>
    intro w hw
    cases hw
  | cons v rest ih =>
    cases rest with
    | nil =>
      show ∀ w ∈ lexemes "?".toList, w ∈ testLexemes
      decide
    | cons v' rest =>
      have hmark : ∀ w ∈ lexemes "?,".toList, w ∈ testLexemes := by decide
      have htext : (commaList ((v :: v' :: rest).map fun _ => "?")).toList =
          "?,".toList ++ ' ' :: (commaList ((v' :: rest).map fun _ => "?")).toList := by
        show ("?" ++ ", " ++ commaList ((v' :: rest).map fun _ => "?")).toList = _
        rw [String.toList_append]
        rfl
      rw [htext, lexemes_append_blank]
      intro w hw
      rcases List.mem_append.mp hw with hw | hw
      · exact hmark w hw
      · exact ih w hw

theorem lexemes_testText (p : Predicate) : ∀ w ∈ lexemes p.testText.toList, w ∈ testLexemes := by
  cases p with
  | compare c op v =>
    show ∀ w ∈ lexemes (op.sql ++ " ?").toList, w ∈ testLexemes
    cases op <;> decide
  | between c negated low high =>
    show ∀ w ∈ lexemes (notText negated ++ "BETWEEN ? AND ?").toList, w ∈ testLexemes
    cases negated <;> decide
  | isNull c negated =>
    show ∀ w ∈ lexemes ("IS " ++ notText negated ++ "NULL").toList, w ∈ testLexemes
    cases negated <;> decide
  | inList c negated vs =>
    have htext : (testText (.inList c negated vs)).toList = (notText negated ++ "IN ").toList ++
        '(' :: ((commaList (vs.map fun _ => "?")).toList ++ [')']) := by
      simp only [testText, String.toList_append, List.append_assoc]
      rfl
    have hlead : ∀ w ∈ lexemes (notText negated ++ "IN ").toList, w ∈ testLexemes := by
      cases negated <;> decide
    rw [htext, lexemes_append _ (breaks_cons (by decide) _), lexemes_punctuation (by decide),
      lexemes_append _ (breaks_cons (by decide) _)]
    intro w hw
    simp only [List.mem_append, List.mem_cons] at hw
    rcases hw with hw | rfl | hw | hw
    · exact hlead w hw
    · decide
    · exact lexemes_marks vs w hw
    · obtain rfl := List.mem_singleton.mp hw
      decide

/-- A predicate is cut into its column and the words of its test. -/
theorem lexemes_sql {p : Predicate} (hp : Plain p.column) {rest : List Char} (hrest : Breaks rest) :
    lexemes (p.sql.toList ++ rest) =
      p.column :: (lexemes p.testText.toList ++ lexemes rest) := by
  rw [sql_eq, Reading.lexemes_column hp, lexemes_append _ hrest]

/-- A word that no test is written with stands in a predicate only as its column. -/
theorem count_lexemes_sql {p : Predicate} (hp : Plain p.column) {word : String}
    (hword : word ∉ testLexemes) {rest : List Char} (hrest : Breaks rest) :
    (lexemes (p.sql.toList ++ rest)).count word =
      [p.column].count word + (lexemes rest).count word := by
  have htest : (lexemes p.testText.toList).count word = 0 :=
    List.count_eq_zero_of_not_mem fun h => hword (p.lexemes_testText word h)
  rw [lexemes_sql hp hrest, ← List.singleton_append, List.count_append, List.count_append, htest,
    Nat.zero_add]

end Predicate

/-- Behind connectives a word that is none of them stands as often as the columns show it. -/
theorem count_lexemes_furtherText {k : Connective} {word : String} {ps : List Predicate}
    (hconnective : word ≠ k.sql) (hword : word ∉ Predicate.testLexemes)
    (hps : ∀ p ∈ ps, Plain p.column) {rest : List Char} (hrest : Breaks rest) :
    Breaks ((furtherText k ps).toList ++ rest) ∧
      (lexemes ((furtherText k ps).toList ++ rest)).count word =
        (ps.map Predicate.column).count word + (lexemes rest).count word := by
  induction ps with
  | nil => exact ⟨hrest, (Nat.zero_add _).symm⟩
  | cons p ps ih =>
    obtain ⟨hbreaks, hcount⟩ := ih fun q hq => hps q (List.mem_cons_of_mem p hq)
    have htext : (furtherText k (p :: ps)).toList ++ rest =
        (" " ++ Conditions.connectiveText (some k) ++ " ").toList ++ (p.sql.toList ++
          ((furtherText k ps).toList ++ rest)) := by
      show (" " ++ k.sql ++ " " ++ p.sql ++ furtherText k ps).toList ++ rest = _
      simp only [String.toList_append, List.append_assoc]
      rfl
    have hjoint : (if some k = some Connective.or then "OR" else "AND") = k.sql := by
      cases k <;> rfl
    have hcolumns : ((p :: ps).map Predicate.column).count word =
        [p.column].count word + (ps.map Predicate.column).count word := by
      show ([p.column] ++ ps.map Predicate.column).count word = _
      exact List.count_append
    rw [htext]
    refine ⟨Reading.breaks_connective (some k) _, ?_⟩
    rw [Reading.lexemes_connective, hjoint, List.count_cons_of_ne (Ne.symm hconnective),
      Predicate.count_lexemes_sql (hps p List.mem_cons_self) hword hbreaks, hcount, hcolumns,
      Nat.add_assoc]

/-- The keyword of a section stands at its head, and elsewhere only where a column is
spelled like it. -/
theorem count_keyword_sectionText {keyword : String}
    (hkeyword : lexemes keyword.toList = [keyword]) (hword : keyword ∉ Predicate.testLexemes)
    (hconnective : ∀ k : Connective, keyword ≠ k.sql) {p : Predicate}
    {ps alternatives : List Predicate} (hplain : ∀ q ∈ p :: ps ++ alternatives, Plain q.column) :
    (lexemes (sectionText keyword (p :: ps) alternatives).toList).count keyword =
      1 + ((p :: ps ++ alternatives).map Predicate.column).count keyword := by
  obtain ⟨hps, halternatives⟩ := List.forall_mem_append.mp hplain
  obtain ⟨hbreaksOr, hcountOr⟩ :=
    count_lexemes_furtherText (hconnective .or) hword halternatives breaks_nil
  obtain ⟨hbreaksAnd, hcountAnd⟩ := count_lexemes_furtherText (hconnective .and) hword
    (fun q hq => hps q (List.mem_cons_of_mem p hq)) hbreaksOr
  have hfirst := Predicate.count_lexemes_sql (hps p List.mem_cons_self) hword hbreaksAnd
  have htext : (sectionText keyword (p :: ps) alternatives).toList =
      [] ++ ' ' :: ((keyword ++ " ").toList ++ (p.sql.toList ++ ((furtherText .and ps).toList ++
        ((furtherText .or alternatives).toList ++ [])))) := by
    rw [List.nil_append, ← List.cons_append, ← Reading.toList_lead]
    simp only [sectionText, String.toList_append, List.append_assoc, List.append_nil]
  have hcolumns : ((p :: ps ++ alternatives).map Predicate.column).count keyword =
      [p.column].count keyword + ((ps.map Predicate.column).count keyword +
        (alternatives.map Predicate.column).count keyword) := by
    rw [List.map_append, List.count_append, ← Nat.add_assoc]
    show ([p.column] ++ ps.map Predicate.column).count keyword + _ = _
    rw [List.count_append]
  rw [htext, lexemes_append_blank, Reading.lexemes_lead, hkeyword, hcolumns]
  show (keyword :: lexemes _).count keyword = _
  rw [List.count_cons_self, hfirst, hcountAnd, hcountOr, Nat.add_comm]
  rfl

end FluentSql
