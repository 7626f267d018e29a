import FluentSql.Proofs.PostgreSql.Prepared
import FluentSql.Proofs.Text.Masked
import FluentSql.Proofs.Text.Name

/-!
# One RETURNING keyword

An INSERT should be prepared with exactly one keyword RETURNING. Keywords are counted outside of
quotation, as whole words in any letter case. The client looks for the word between two spaces
instead, wherever that is in the text, so that it keeps to the rule exactly where both agree.
-/

namespace FluentSql.PostgreSql.Returning

open Text (Place masked isBlank)

/-! ## Words -/

/-- What words are made of: letters at least, but neither blanks nor semicolons. -/
structure Wording where
  holds : Char → Bool
  letter : ∀ c : Char, c.isAlpha = true → holds c = true
  blank : ∀ c : Char, isBlank c = true → holds c = false
  semicolon : holds ';' = false

def keyword : List Char := "returning".toList

def isKeyword (word : List Char) : Bool :=
  word.map Char.toLower == keyword

namespace Wording

theorem isWord_of_isAlpha {c : Char} (h : c.isAlpha = true) : Text.isWord c = true := by
  have hcase : c.isUpper = true ∨ c.isLower = true := (Bool.or_eq_true _ _).mp h
  have hascii : c.toNat < 0x80 := by
    rcases hcase with hupper | hlower
    · have hlast : c.toNat ≤ 90 := (of_decide_eq_true hupper).2
      omega
    · have hlast : c.toNat ≤ 122 := of_decide_eq_true ((Bool.and_eq_true _ _).mp hlower).2
      omega
  rw [Text.isWord, if_pos hascii, Char.isAlphanum, h]
  rfl

/-- Words of the characters that stand in names. -/
def names : Wording where
  holds := Text.isWord
  letter _ h := isWord_of_isAlpha h
  blank c h := by
    cases hword : Text.isWord c with
    | false => rfl
    | true => exact absurd h (by rw [Text.isBlank_of_isWord hword]; decide)
  semicolon := by decide

variable (w : Wording)

def words (cs : List Char) : List (List Char) :=
  cs.splitOnP fun c => !w.holds c

def count (cs : List Char) : Nat :=
  (w.words cs).countP isKeyword

/-- How many keywords RETURNING the statement has outside of quotation. -/
def keywords (sql : String) : Nat :=
  w.count (masked .outside sql.toList)

variable {w}

theorem count_word {cs : List Char} (h : ∀ c ∈ cs, w.holds c = true) :
    w.count cs = if isKeyword cs then 1 else 0 := by
  rw [count, words, List.splitOnP_eq_singleton fun c hc => by rw [h c hc]; rfl,
    List.countP_singleton]

theorem count_append_cons {c : Char} (hc : w.holds c = false) (a b : List Char) :
    w.count (a ++ c :: b) = w.count a + w.count b := by
  rw [count, words, List.splitOnP_append_cons a b (by rw [hc]; rfl), List.countP_append]
  rfl

theorem count_nil : w.count [] = 0 :=
  count_word fun c hc => by cases hc

/-- Between words no keyword is counted. -/
theorem count_separators {cs : List Char} (h : ∀ c ∈ cs, w.holds c = false) : w.count cs = 0 := by
  induction cs with
  | nil => exact count_nil
  | cons c cs ih =>
    obtain ⟨hc, hcs⟩ := List.forall_mem_cons.mp h
    have hcons := count_append_cons hc [] cs
    rw [count_nil, ih hcs] at hcons
    exact hcons

theorem count_append_separators (a : List Char) {cs : List Char}
    (h : ∀ c ∈ cs, w.holds c = false) : w.count (a ++ cs) = w.count a := by
  cases cs with
  | nil => rw [List.append_nil]
  | cons c cs =>
    obtain ⟨hc, hcs⟩ := List.forall_mem_cons.mp h
    rw [count_append_cons hc, count_separators hcs, Nat.add_zero]

theorem count_asterisk : w.count ['*'] = 0 := by
  cases h : w.holds '*' with
  | false => exact count_separators (by simpa using h)
  | true => exact count_word (by simpa using h)

/-- What is appended to a statement has one keyword. -/
theorem count_appended (a : List Char) :
    w.count (a ++ " RETURNING *".toList) = w.count a + 1 := by
  have hspace : w.holds ' ' = false := w.blank ' ' (by decide)
  have halpha : "RETURNING".toList.all Char.isAlpha = true := by decide
  have hletters : ∀ c ∈ "RETURNING".toList, w.holds c = true := fun c hc =>
    w.letter c (List.all_eq_true.mp halpha c hc)
  have hword : w.count "RETURNING".toList = 1 := count_word hletters
  have hsplit : " RETURNING *".toList = ' ' :: ("RETURNING".toList ++ ' ' :: ['*']) := rfl
  rw [hsplit, count_append_cons hspace, count_append_cons hspace, hword, count_asterisk]

end Wording

/-! ## The text without its end -/

/-- `text` is the statement without the blanks and then without the semicolons at its end. -/
def Cleared (sql text : String) : Prop :=
  ∃ semicolons blanks : List Char, sql.toList = text.toList ++ semicolons ++ blanks ∧
    (∀ c ∈ blanks, isBlank c = true) ∧
    (∀ c ∈ (text.toList ++ semicolons).getLast?, isBlank c = false) ∧
    (∀ c ∈ semicolons, c = ';') ∧ ∀ c ∈ text.toList.getLast?, c ≠ ';'

theorem getLast?_dropTail {p : Char → Bool} {cs : List Char} {c : Char}
    (h : c ∈ (Text.dropTail p cs).getLast?) : p c = false := by
  rw [Text.dropTail, List.getLast?_reverse] at h
  have hhead := List.head?_dropWhile_not p cs.reverse
  rw [Option.mem_def.mp h] at hhead
  exact hhead

theorem cleared_body (sql : String) : Cleared sql (body sql) := by
  obtain ⟨blanks, hblanks, hblank⟩ := Text.dropTail_split isBlank sql.toList
  obtain ⟨semicolons, hsemicolons, hsemicolon⟩ :=
    Text.dropTail_split (· == ';') (Text.dropTail isBlank sql.toList)
  have hbody : (body sql).toList =
      Text.dropTail (· == ';') (Text.dropTail isBlank sql.toList) := by
    rw [body, String.toList_ofList]
  refine ⟨semicolons, blanks, ?_, hblank, ?_, ?_, ?_⟩
  · rw [hbody, ← hsemicolons]
    exact hblanks
  · rw [hbody, ← hsemicolons]
    exact fun c hc => getLast?_dropTail hc
  · exact fun c hc => by simpa using hsemicolon c hc
  · intro c hc hsemi
    rw [hbody] at hc
    have hlast := getLast?_dropTail hc
    simp [hsemi] at hlast

/-- No quotation is left open at the end of the statement. -/
def Terminated (sql : String) : Prop :=
  Place.outside.behind sql.toList = .outside

instance (sql : String) : Decidable (Terminated sql) :=
  inferInstanceAs (Decidable (_ = _))

variable {w : Wording} {sql : String}

/-- The end that is taken away is made of semicolons and blanks. -/
theorem exists_tail (sql : String) : ∃ tail : List Char, sql.toList = (body sql).toList ++ tail ∧
    ∀ c ∈ tail, c = ';' ∨ isBlank c = true := by
  obtain ⟨semicolons, blanks, hsql, hblank, -, hsemicolon, -⟩ := cleared_body sql
  refine ⟨semicolons ++ blanks, by rw [hsql, List.append_assoc], fun c hc => ?_⟩
  exact (List.mem_append.mp hc).imp (hsemicolon c) (hblank c)

/-- It has no keyword, and no quotation ends or starts there. -/
theorem keywords_body (w : Wording) (sql : String) :
    w.keywords (body sql) = w.keywords sql ∧
      Place.outside.behind (body sql).toList = Place.outside.behind sql.toList := by
  obtain ⟨tail, hsql, htail⟩ := exists_tail sql
  have hquote : ∀ c, c = '\'' ∨ c = '"' → c ∉ tail := by
    rintro c (rfl | rfl) hc
    · exact absurd (htail _ hc) (by decide)
    · exact absurd (htail _ hc) (by decide)
  have hseparators : ∀ c ∈ masked (Place.outside.behind (body sql).toList) tail,
      w.holds c = false := by
    intro c hc
    rcases Text.mem_masked hc with hc | rfl
    · rcases htail c hc with rfl | hblank
      · exact w.semicolon
      · exact w.blank c hblank
    · exact w.blank ' ' (by decide)
  constructor
  · rw [Wording.keywords, Wording.keywords, hsql, Text.masked_append,
      Wording.count_append_separators _ hseparators]
  · rw [hsql, Text.Place.behind_append,
      Text.Place.behind_of_not_mem _ (hquote _ (.inl rfl)) (hquote _ (.inr rfl))]

/-- The appended keyword is counted unless a quotation is open. -/
theorem keywords_appended (w : Wording) (sql : String) :
    w.keywords (body sql ++ " RETURNING *") =
      w.keywords sql + if Terminated sql then 1 else 0 := by
  obtain ⟨hkeywords, hplace⟩ := keywords_body w sql
  rw [← hkeywords, Wording.keywords, Wording.keywords, String.toList_append, Text.masked_append,
    hplace]
  by_cases hopen : Terminated sql
  · have hplain : masked .outside " RETURNING *".toList = " RETURNING *".toList := by decide
    have houtside : Place.outside.behind sql.toList = .outside := hopen
    rw [if_pos hopen, houtside, hplain, Wording.count_appended]
  · have hblank : masked (Place.outside.behind sql.toList) " RETURNING *".toList =
        List.replicate 12 ' ' := by
      cases hinside : Place.outside.behind sql.toList with
      | outside => exact absurd hinside hopen
      | literal => decide
      | name => decide
    rw [if_neg hopen, hblank, Wording.count_append_separators, Nat.add_zero]
    intro c hc
    rw [List.eq_of_mem_replicate hc]
    exact w.blank ' ' (by decide)

/-- The word RETURNING, in any letter case, between two spaces anywhere in the text. -/
def Spaced (sql : String) : Prop :=
  ∃ before word after : List Char, sql.toList = before ++ ' ' :: word ++ ' ' :: after ∧
    isKeyword word = true

theorem isPresent_iff : isPresent sql = true ↔ Spaced sql := by
  have hpart : " returning ".toList = [' '] ++ (keyword ++ [' ']) := rfl
  rw [isPresent, Text.contains, Text.containsChars_iff, Text.toList_asciiLower, hpart]
  constructor
  · rintro ⟨before, after, hsql⟩
    obtain ⟨front, rest, hsplit, hfront, -⟩ := List.map_eq_append_iff.mp hsql.symm
    obtain ⟨lead, spaced, rfl, -, hspaced⟩ := List.map_eq_append_iff.mp hfront
    obtain ⟨first, others, rfl, hfirst, hothers⟩ := List.map_eq_cons_iff.mp hspaced
    obtain ⟨word, last, rfl, hword, hlast⟩ :=
      List.map_eq_append_iff.mp (hothers.trans (List.nil_append _))
    obtain ⟨space, rfl, hspace⟩ := List.map_eq_singleton_iff.mp hlast
    rw [Text.toLower_eq_space_iff.mp hfirst, Text.toLower_eq_space_iff.mp hspace] at hsplit
    refine ⟨lead, word, rest, ?_, by rw [isKeyword, hword]; exact beq_self_eq_true keyword⟩
    simp [hsplit]
  · rintro ⟨before, word, after, hsql, hword⟩
    refine ⟨before.map Char.toLower, after.map Char.toLower, ?_⟩
    rw [isKeyword, beq_iff_eq] at hword
    simp [hsql, hword]

instance (sql : String) : Decidable (Spaced sql) :=
  decidable_of_iff _ isPresent_iff

theorem ensure_of_spaced (h : Spaced sql) : ensure sql = sql :=
  if_pos (isPresent_iff.mpr h)

theorem ensure_of_not_spaced (h : ¬Spaced sql) : ensure sql = body sql ++ " RETURNING *" :=
  if_neg fun hpresent => h (isPresent_iff.mp hpresent)

theorem spaced_ensure (sql : String) : Spaced (ensure sql) := by
  by_cases h : Spaced sql
  · rw [ensure_of_spaced h]
    exact h
  · rw [ensure_of_not_spaced h]
    refine ⟨(body sql).toList, "RETURNING".toList, ['*'], ?_, by decide⟩
    rw [String.toList_append, List.append_assoc]
    rfl

theorem ensure_ensure (sql : String) : ensure (ensure sql) = ensure sql :=
  ensure_of_spaced (spaced_ensure sql)

theorem not_spaced_of_keywords_eq_zero (h : Spaced sql ↔ w.keywords sql = 1)
    (hzero : w.keywords sql = 0) : ¬Spaced sql := by
  intro hspaced
  rw [h.mp hspaced] at hzero
  cases hzero

/-- What is asked of the text that is prepared for an INSERT. -/
structure Ensures (w : Wording) (sql : String) : Prop where
  /-- It is prepared once, and nothing else is. -/
  prepared : ∀ {σ : Type} (host : Host σ) (values : List Value) (c : Client) (s : σ),
    c.preparedBy host sql values s =
      if c.reaches host s && Client.isSendable (ensure sql) then [ensure sql] else []
  /-- It has one keyword. -/
  one : w.keywords (ensure sql) = 1
  /-- It is the text as it was, where that has the keyword. -/
  kept : w.keywords sql = 1 → ensure sql = sql
  /-- It is the text without its end and with the keyword, where that has none. -/
  added : w.keywords sql = 0 → ∃ text, Cleared sql text ∧ ensure sql = text ++ " RETURNING *"
  /-- Doing it again changes nothing. -/
  twice : ensure (ensure sql) = ensure sql

/-- The text that is prepared is the right one exactly if the keyword is there where its word stands
between two spaces, and nowhere else, and if without it no quotation is left open. -/
theorem ensures_iff (w : Wording) (sql : String)
    (hinsert : StatementKind.classify sql = .insert) (hone : w.keywords sql ≤ 1) :
    Ensures w sql ↔
      (Spaced sql ↔ w.keywords sql = 1) ∧ (w.keywords sql = 0 → Terminated sql) := by
  constructor
  · intro h
    have hspaced : Spaced sql ↔ w.keywords sql = 1 := by
      constructor
      · intro hspaced
        have hcount := h.one
        rw [ensure_of_spaced hspaced] at hcount
        exact hcount
      · intro hcount
        have hspaced := spaced_ensure sql
        rw [h.kept hcount] at hspaced
        exact hspaced
    refine ⟨hspaced, fun hzero => ?_⟩
    have hcount := h.one
    rw [ensure_of_not_spaced (not_spaced_of_keywords_eq_zero hspaced hzero), keywords_appended,
      hzero] at hcount
    by_cases hterminated : Terminated sql
    · exact hterminated
    · rw [if_neg hterminated] at hcount
      cases hcount
  · rintro ⟨hspaced, hterminated⟩
    have hkept : w.keywords sql = 1 → ensure sql = sql := fun hcount =>
      ensure_of_spaced (hspaced.mpr hcount)
    have hadded : w.keywords sql = 0 → ensure sql = body sql ++ " RETURNING *" := fun hzero =>
      ensure_of_not_spaced (not_spaced_of_keywords_eq_zero hspaced hzero)
    refine ⟨fun host values c s => Client.preparedBy_insert host hinsert values c s, ?_, hkept,
      fun hzero => ⟨body sql, cleared_body sql, hadded hzero⟩, ensure_ensure sql⟩
    rcases Nat.le_one_iff_eq_zero_or_eq_one.mp hone with hzero | hcount
    · rw [hadded hzero, keywords_appended, hzero, if_pos (hterminated hzero)]
    · rw [hkept hcount, hcount]

/-- An INSERT with the word in its table name and in a literal, and with more than one end. -/
def quotedWords : String :=
  "INSERT INTO \"returning\" (note) VALUES ('is returning; ') ;\n"

theorem ensures_iff_quotedWords :
    StatementKind.classify quotedWords = .insert ∧ Wording.names.keywords quotedWords = 0 ∧
      Ensures .names quotedWords ∧
      ensure quotedWords =
        "INSERT INTO \"returning\" (note) VALUES ('is returning; ')  RETURNING *" := by
  have hinsert : StatementKind.classify quotedWords = .insert := by decide
  have hnone : Wording.names.keywords quotedWords = 0 := by decide
  have hright := ensures_iff .names quotedWords hinsert (by rw [hnone]; decide)
  exact ⟨hinsert, hnone, hright.mpr (by decide), by decide⟩

/-- An INSERT with its clause on a line of its own. -/
def clauseOnNewLine : String :=
  "INSERT INTO notes (body) VALUES ('x')\nRETURNING id"

/-- It is given a second clause. -/
theorem not_ensures_clauseOnNewLine :
    StatementKind.classify clauseOnNewLine = .insert ∧
      Wording.names.keywords clauseOnNewLine = 1 ∧
      ensure clauseOnNewLine = clauseOnNewLine ++ " RETURNING *" ∧
      Wording.names.keywords (ensure clauseOnNewLine) = 2 ∧
      ¬Ensures .names clauseOnNewLine := by
  have htwo : Wording.names.keywords (ensure clauseOnNewLine) = 2 := by decide
  refine ⟨by decide, by decide, by decide, htwo, fun h => ?_⟩
  have hone := h.one
  rw [htwo] at hone
  cases hone

end FluentSql.PostgreSql.Returning
