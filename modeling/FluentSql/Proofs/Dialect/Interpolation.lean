import Mathlib.Data.List.Infix
import FluentSql.Proofs.Dialect.Placeholder
import FluentSql.Proofs.Number.Digits

/-!
# Values written into statements

A trace shows a statement with its values. What it ought to show is a rule about
positions: the `k`-th question mark outside literals is replaced by the literal of the
`k`-th parameter, and every other character is copied. Positional placeholders are filled
by that rule in any text. Numbered ones are where no number can be taken for another.
-/

namespace FluentSql.Dialect

open FluentSql.Text

section Rule

variable (literal : Value → List Char) (params : List Value)

/-- What stands for a character behind `front`: a question mark outside literals gives way
to the literal of the parameter that it counts to, if there is one. -/
def replacement (front : List Char) (c : Char) : List Char :=
  if c = '?' ∧ quotedAfter false front = false then
    (params[openCount '?' false front]?).elim [c] literal
  else [c]

/-- Every character replaced by what the text in front of it says. -/
def replaced (cs : List Char) : List Char :=
  (cs.inits.zip cs).flatMap fun p => replacement literal params p.1 p.2

end Rule

/-- The text with the values of the parameters in the place of its question marks. -/
def substituted (d : Dialect) (sql : String) (params : List Value) : String :=
  String.ofList (replaced (fun v => (d.escape v).toList) params sql.toList)

variable {literal : Value → List Char} {params : List Value}

section Positional

theorem fillMarks_step (quoted : Bool) (c : Char) (cs : List Char) :
    fillMarks literal quoted params (c :: cs) =
      if c = '\'' then c :: fillMarks literal (!quoted) params cs
      else if c = '?' ∧ !quoted then
        match params with
        | v :: rest => literal v ++ fillMarks literal quoted rest cs
        | [] => c :: fillMarks literal quoted [] cs
      else c :: fillMarks literal quoted params cs := by
  cases params <;> rfl

/-- One character of a text is filled by the rule. -/
theorem fillMarks_cons (front : List Char) (c : Char) (cs : List Char) :
    fillMarks literal (quotedAfter false front) (params.drop (openCount '?' false front))
        (c :: cs) =
      replacement literal params front c ++
        fillMarks literal (quotedAfter false (front ++ [c]))
          (params.drop (openCount '?' false (front ++ [c]))) cs := by
  rw [quotedAfter_append, openCount_append]
  generalize hquoted : quotedAfter false front = quoted
  generalize hcount : openCount '?' false front = count
  by_cases hquote : c = '\''
  · have hmark : ¬(c = '?' ∧ quotedAfter false front = false) := by
      rintro ⟨rfl, _⟩
      cases hquote
    rw [fillMarks_step, if_pos hquote, replacement, if_neg hmark, quotedAfter, if_pos hquote,
      openCount, if_pos hquote]
    rfl
  · by_cases hopen : c = '?' ∧ quoted = false
    · obtain ⟨rfl, rfl⟩ := hopen
      have hone : openCount '?' false ['?'] = 1 := rfl
      rw [replacement, if_pos ⟨rfl, hquoted⟩, hcount, hone, fillMarks_step, if_neg hquote,
        if_pos ⟨rfl, rfl⟩]
      by_cases hlength : count < params.length
      · rw [List.drop_eq_getElem_cons hlength, List.getElem?_eq_getElem hlength]
        rfl
      · have hle : params.length ≤ count := Nat.le_of_not_lt hlength
        rw [List.drop_eq_nil_of_le hle, List.drop_eq_nil_of_le (Nat.le_succ_of_le hle),
          List.getElem?_eq_none hle]
        rfl
    · have hmark : ¬(c = '?' ∧ quotedAfter false front = false) := hquoted ▸ hopen
      have hopen' : ¬(c = '?' ∧ (!quoted) = true) := by simpa using hopen
      rw [fillMarks_step, if_neg hquote, if_neg hopen', replacement, if_neg hmark, quotedAfter,
        if_neg hquote, openCount, if_neg hquote, if_neg hopen]
      rfl

theorem fillMarks_eq (front cs : List Char) :
    fillMarks literal (quotedAfter false front) (params.drop (openCount '?' false front)) cs =
      ((cs.inits.map (front ++ ·)).zip cs).flatMap fun p =>
        replacement literal params p.1 p.2 := by
  induction cs generalizing front with
  | nil => rw [fillMarks, List.zip_nil_right, List.flatMap_nil]
  | cons c cs ih =>
    have hinits : (c :: cs).inits.map (front ++ ·) =
        front :: cs.inits.map ((front ++ [c]) ++ ·) := by
      rw [List.inits_cons, List.map_cons, List.append_nil, List.map_map]
      simp only [Function.comp_def, List.append_assoc, List.singleton_append]
    rw [fillMarks_cons, ih, hinits, List.zip_cons_cons, List.flatMap_cons]

/-- Positional placeholders are filled by the rule. -/
theorem fillMarks_eq_replaced (cs : List Char) :
    fillMarks literal false params cs = replaced literal params cs := by
  rw [replaced, ← List.map_id cs.inits]
  exact fillMarks_eq [] cs

end Positional

section Numbered

/-- Behind no open question mark stands a digit, which its number would take along. -/
def Unnumbered (quoted : Bool) (cs : List Char) : Prop :=
  ∀ front c rest, cs = front ++ '?' :: c :: rest → quotedAfter quoted front = false →
    Integer.isDigit c = false

theorem unnumbered_nil (quoted : Bool) : Unnumbered quoted [] := by
  intro front c rest hcs
  cases front <;> cases hcs

theorem unnumbered_cons_iff {quoted : Bool} {c : Char} {cs : List Char} :
    Unnumbered quoted (c :: cs) ↔
      (c = '?' ∧ quoted = false → ∀ e ∈ cs.head?, Integer.isDigit e = false) ∧
        Unnumbered (if c = '\'' then !quoted else quoted) cs := by
  constructor
  · intro h
    constructor
    · rintro ⟨rfl, rfl⟩ e he
      obtain ⟨rest, rfl⟩ := List.head?_eq_some_iff.mp he
      exact h [] e rest rfl rfl
    · rintro front e rest rfl hfront
      exact h (c :: front) e rest rfl hfront
  · rintro ⟨hhead, htail⟩ front e rest hcs hfront
    cases front with
    | nil =>
      obtain ⟨rfl, rfl⟩ := List.cons.inj hcs
      exact hhead ⟨rfl, hfront⟩ e rfl
    | cons _ front =>
      obtain ⟨rfl, rfl⟩ := List.cons.inj hcs
      exact htail front e rest rfl hfront

instance Unnumbered.decidable (quoted : Bool) : (cs : List Char) → Decidable (Unnumbered quoted cs)
  | [] => .isTrue (unnumbered_nil quoted)
  | c :: cs =>
    have := Unnumbered.decidable (if c = '\'' then !quoted else quoted) cs
    have : Decidable (∀ e ∈ cs.head?, Integer.isDigit e = false) :=
      decidable_of_iff (cs.head?.all fun e => !Integer.isDigit e) (by simp [Option.all_eq_true])
    decidable_of_iff _ unnumbered_cons_iff.symm

/-- What a number stands for that was written for parameter `k + 1`. -/
theorem numberedLiteral_toDigits (k : Nat) :
    numberedLiteral literal params (Nat.toDigits 10 (k + 1)) =
      (params[k]?).elim ('$' :: Nat.toDigits 10 (k + 1)) literal := by
  rw [numberedLiteral, Integer.readNat?_toDigits]
  dsimp only
  cases params[k]? with
  | none => rfl
  | some v => rfl

theorem fillNumbers_none (quoted : Bool) (c : Char) (cs : List Char) :
    fillNumbers literal params quoted none (c :: cs) =
      if c = '\'' then c :: fillNumbers literal params (!quoted) none cs
      else if c = '$' ∧ !quoted then fillNumbers literal params quoted (some []) cs
      else c :: fillNumbers literal params quoted none cs := by
  rw [fillNumbers, if_neg fun h => nomatch h.1]
  rfl

/-- Digits behind a dollar sign are taken together, up to something that is no digit. -/
theorem fillNumbers_digits {digits : List Char} (hdigits : ∀ c ∈ digits, Integer.isDigit c = true)
    {rest : List Char} (hrest : ∀ c ∈ rest.head?, Integer.isDigit c = false)
    (quoted : Bool) (before : List Char) :
    fillNumbers literal params quoted (some before) (digits ++ rest) =
      numberedLiteral literal params (before ++ digits) ++
        fillNumbers literal params quoted none rest := by
  induction digits generalizing before with
  | nil =>
    rw [List.nil_append, List.append_nil]
    cases rest with
    | nil => rw [fillNumbers, fillNumbers, Option.elim_some, Option.elim_none, List.append_nil]
    | cons c cs =>
      have hc : ¬Integer.isDigit c = true := by
        rw [hrest c rfl]
        decide
      rw [fillNumbers_none, fillNumbers, if_neg fun h => hc h.2]
      rfl
  | cons c digits ih =>
    have hc := hdigits c List.mem_cons_self
    rw [List.cons_append, fillNumbers, if_pos ⟨rfl, hc⟩, Option.map_some,
      ih fun e he => hdigits e (List.mem_cons_of_mem c he), List.append_assoc,
      List.singleton_append]

/-- Numbering keeps a first character that is no digit from becoming one. -/
theorem head_numberMarks {cs : List Char} (hcs : ∀ c ∈ cs.head?, Integer.isDigit c = false)
    (quoted : Bool) (n : Nat) :
    ∀ c ∈ (numberMarks quoted n cs).head?, Integer.isDigit c = false := by
  cases cs with
  | nil => exact hcs
  | cons c cs =>
    rw [numberMarks]
    split
    · exact hcs
    · split
      · intro e he
        obtain rfl := Option.some.inj he
        decide
      · exact hcs

/-- With a parameter for each open question mark, filling the numbers is filling the marks. -/
theorem fillNumbers_numberMarks {quoted : Bool} {k : Nat} {cs : List Char}
    (hdollar : openCount '$' quoted cs = 0) (hdigit : Unnumbered quoted cs)
    (hlength : k + openCount '?' quoted cs ≤ params.length) :
    fillNumbers literal params quoted none (numberMarks quoted (k + 1) cs) =
      fillMarks literal quoted (params.drop k) cs := by
  induction cs generalizing quoted k with
  | nil => rfl
  | cons c cs ih =>
    obtain ⟨hhead, htail⟩ := unnumbered_cons_iff.mp hdigit
    by_cases hquote : c = '\''
    · rw [openCount, if_pos hquote] at hdollar hlength
      rw [if_pos hquote] at htail
      rw [numberMarks, if_pos hquote, fillNumbers_none, if_pos hquote, fillMarks_step,
        if_pos hquote, ih hdollar htail hlength]
    · rw [openCount, if_neg hquote] at hdollar hlength
      rw [if_neg hquote] at htail
      obtain ⟨hnone, hrest⟩ := Nat.add_eq_zero_iff.mp hdollar
      by_cases hopen : c = '?' ∧ quoted = false
      · obtain ⟨rfl, rfl⟩ := hopen
        rw [if_pos ⟨rfl, rfl⟩] at hlength
        have hk : k < params.length := by omega
        have hnumber : numberMarks false (k + 1) ('?' :: cs) =
            '$' :: (Nat.toDigits 10 (k + 1) ++ numberMarks false (k + 1 + 1) cs) := rfl
        have hlead : ¬('$' : Char) = '\'' := by decide
        rw [hnumber, fillNumbers_none, if_neg hlead, if_pos ⟨rfl, rfl⟩,
          fillNumbers_digits (fun _ => Integer.isDigit_of_mem_toDigits)
            (head_numberMarks (hhead ⟨rfl, rfl⟩) false _), List.nil_append,
          numberedLiteral_toDigits, ih hrest htail (by omega), fillMarks_step, if_neg hquote,
          if_pos ⟨rfl, rfl⟩,
          List.drop_eq_getElem_cons hk, List.getElem?_eq_getElem hk]
        rfl
      · have hopen' : ¬(c = '?' ∧ (!quoted) = true) := by simpa using hopen
        have hcopied : ¬(c = '$' ∧ (!quoted) = true) := by
          intro h
          rw [if_pos (by simpa using h)] at hnone
          cases hnone
        rw [if_neg hopen, Nat.zero_add] at hlength
        rw [numberMarks, if_neg hquote, if_neg hopen', fillNumbers_none, if_neg hquote,
          if_neg hcopied, fillMarks_step, if_neg hquote, if_neg hopen', ih hrest htail hlength]

end Numbered

/-- A trace shows the values by the rule: on MySQL and SQLite in any text, and on PostgreSQL,
where the statement is traced with its placeholders numbered, in a text that shows no dollar
sign outside literals and no digit behind an open question mark, with a parameter for each
question mark. -/
theorem interpolate_eq_substituted :
    (∀ (d : Dialect) (sql : String) (params : List Value), d ≠ .postgreSql →
      d.interpolate sql params = d.substituted sql params) ∧
    ∀ (sql : String) (params : List Value), openCount '$' false sql.toList = 0 →
      Unnumbered false sql.toList → openCount '?' false sql.toList ≤ params.length →
      postgreSql.interpolate (postgreSql.lowerPlaceholders sql) params =
        postgreSql.substituted sql params := by
  constructor
  · intro d sql params hd
    have hpositional : d.isNumbered = false := by
      cases d with
      | postgreSql => exact absurd rfl hd
      | mySql => rfl
      | sqlite => rfl
    rw [interpolate, hpositional, substituted, ← fillMarks_eq_replaced]
    rfl
  · intro sql params hdollar hdigit hlength
    have hall : 0 + openCount '?' false sql.toList ≤ params.length := by omega
    have hnumbers := @fillNumbers_numberMarks (fun v => (postgreSql.escape v).toList) _ _ _ _
      hdollar hdigit hall
    rw [List.drop_zero] at hnumbers
    rw [interpolate, toList_lowerPlaceholders, substituted, ← fillMarks_eq_replaced, ← hnumbers]
    rfl

/-- A note that is spelled with quotes and placeholders is written once and not read again. -/
theorem interpolate_eq_substituted_notes :
    let sql := "a = ? AND b = '$1?2' AND c IN (?, ?)"
    let params := [.string "it's $2 ?", .int 7, .null]
    (sqlite ≠ .postgreSql ∧
      sqlite.interpolate sql params = sqlite.substituted sql params) ∧
    openCount '$' false sql.toList = 0 ∧ Unnumbered false sql.toList ∧
    openCount '?' false sql.toList ≤ params.length ∧
    postgreSql.interpolate (postgreSql.lowerPlaceholders sql) params =
      postgreSql.substituted sql params ∧
    postgreSql.substituted sql params =
      "a = 'it''s $2 ?' AND b = '$1?2' AND c IN (7, NULL)" := by
  refine ⟨⟨by decide, interpolate_eq_substituted.1 _ _ _ (by decide)⟩, by decide, by decide,
    by decide, interpolate_eq_substituted.2 _ _ (by decide) (by decide) (by decide), ?_⟩
  decide

end FluentSql.Dialect
