import FluentSql.Dialect.Literal
import FluentSql.Proofs.Join.Operand

/-!
# String literals read back

Each dialect reads the literal of a string up to its last quote, whatever the string holds and
whatever follows but a quote. On MySQL and PostgreSQL it reads the string; on SQLite, where a
backslash is a character as any other, it reads each backslash of the string twice.
-/

namespace FluentSql.Dialect

open Operand

/-- The content of the literal at the front of a text, and the text behind it. -/
def readLiteral (d : Dialect) : List Char → Option (List Char × List Char)
  | [] => none
  | c :: body => if c = '\'' then readBody d body else none

/-- What a character of a string becomes in the content of its literal. -/
def contentChar : Dialect → Char → List Char
  | mySql, c => [c]
  | postgreSql, c => [c]
  | sqlite, c => if c = '\\' then ['\\', '\\'] else [c]

def content (d : Dialect) (s : List Char) : List Char :=
  s.flatMap d.contentChar

/-- Of two backslashes one is taken. -/
def halved : List Char → List Char
  | [] => []
  | [c] => [c]
  | c :: e :: cs => if c = '\\' ∧ e = '\\' then c :: halved cs else c :: halved (e :: cs)

/-- The string that a content was made from. -/
def recovered : Dialect → List Char → List Char
  | mySql, cs => cs
  | postgreSql, cs => cs
  | sqlite, cs => halved cs

/-- MySQL reads an escape as the character that it was written for. -/
theorem backslashed_cases (c : Char) :
    (∃ e, backslashed c = ['\\', e] ∧ escaped e = [c]) ∨
      backslashed c = [c] ∧ c ≠ '\'' ∧ c ≠ '\\' := by
  unfold backslashed
  split_ifs with h h h h h h hself
  -- Six characters have an escape of their own, three stand for themselves.
  iterate 6 exact .inl ⟨_, rfl, h ▸ rfl⟩
  · refine .inl ⟨c, rfl, ?_⟩
    rcases hself with rfl | rfl | rfl <;> rfl
  · exact .inr ⟨rfl, fun hc => hself (.inl hc), fun hc => hself (.inr (.inr hc))⟩

/-- A quote that is doubled is read as one, and any other character as it is. -/
theorem readBody_quoteDoubled {d : Dialect} {c : Char} (hc : ¬(c = '\\' ∧ d = .mySql))
    {rest : List Char} (hrest : rest ≠ []) :
    readBody d (quoteDoubled c ++ rest) = (readBody d rest).map fun p => ([c] ++ p.1, p.2) := by
  unfold quoteDoubled
  by_cases hquote : c = '\''
  · rw [if_pos hquote, hquote]
    exact readBody_quote d rest
  · rw [if_neg hquote]
    exact readBody_cons hquote hc hrest

theorem readBody_stringChar (d : Dialect) (c : Char) {rest : List Char} (hrest : rest ≠ []) :
    readBody d (d.stringChar c ++ rest) =
      (readBody d rest).map fun p => (d.contentChar c ++ p.1, p.2) := by
  cases d with
  | mySql =>
    rw [stringChar, contentChar]
    rcases backslashed_cases c with ⟨e, hwritten, hread⟩ | ⟨hwritten, hquote, hslash⟩
    · rw [hwritten, ← hread]
      exact readBody_escape e rest
    · rw [hwritten]
      exact readBody_cons hquote (fun h => hslash h.1) hrest
  | postgreSql => exact readBody_quoteDoubled (by simp) hrest
  | sqlite =>
    rw [stringChar, contentChar, slashDoubled]
    by_cases hslash : c = '\\'
    · have hplain : ∀ {cs : List Char}, cs ≠ [] → readBody .sqlite ('\\' :: cs) =
          (readBody .sqlite cs).map fun p => ('\\' :: p.1, p.2) :=
        readBody_cons (by decide) (by simp)
      rw [if_pos hslash, if_pos hslash, List.cons_append, List.cons_append, List.nil_append,
        hplain (List.cons_ne_nil _ _), hplain hrest, Option.map_map]
      rfl
    · rw [if_neg hslash, if_neg hslash]
      exact readBody_quoteDoubled (by simp) hrest

theorem readBody_content (d : Dialect) (s : List Char) {rest : List Char}
    (hrest : rest.head? ≠ some '\'') :
    readBody d (s.flatMap d.stringChar ++ '\'' :: rest) = some (d.content s, rest) := by
  induction s with
  | nil => exact readBody_close d hrest
  | cons c s ih =>
    have hne : s.flatMap d.stringChar ++ '\'' :: rest ≠ [] := by simp
    rw [List.flatMap_cons, List.append_assoc, readBody_stringChar d c hne, ih]
    rfl

theorem halved_cons {c : Char} (hc : c ≠ '\\') (cs : List Char) :
    halved (c :: cs) = c :: halved cs := by
  cases cs with
  | nil => rfl
  | cons e cs => rw [halved, if_neg fun h => hc h.1]

theorem recovered_content (d : Dialect) (s : List Char) : d.recovered (d.content s) = s := by
  cases d with
  | mySql => exact List.flatMap_singleton' s
  | postgreSql => exact List.flatMap_singleton' s
  | sqlite =>
    show halved (content sqlite s) = s
    induction s with
    | nil => rfl
    | cons c s ih =>
      rw [content, List.flatMap_cons, contentChar, ← content]
      by_cases hc : c = '\\'
      · rw [if_pos hc, List.cons_append, List.cons_append, List.nil_append, halved,
          if_pos ⟨rfl, rfl⟩, ih, hc]
      · rw [if_neg hc, List.singleton_append, halved_cons hc, ih]

theorem readLiteral_quoteString (d : Dialect) (s : String) {rest : List Char}
    (hrest : rest.head? ≠ some '\'') :
    d.readLiteral ((d.quoteString s).toList ++ rest) = some (d.content s.toList, rest) := by
  have hread := readBody_content d s.toList hrest
  rw [quoteString, String.toList_ofList, quoteChars, List.cons_append, List.cons_append,
    List.append_assoc, readLiteral, if_pos rfl]
  exact hread

/-- The literal of a string is one literal that ends with its last character, in front of
anything but a quote. Its content gives the string back, so no two strings have one literal. -/
theorem readLiteral_escape (d : Dialect) (s : String) :
    (∀ rest : List Char, rest.head? ≠ some '\'' →
      d.readLiteral ((d.escape (.string s)).toList ++ rest) = some (d.content s.toList, rest)) ∧
    (d ≠ .sqlite → d.content s.toList = s.toList) ∧
    d.recovered (d.content s.toList) = s.toList ∧
    ∀ other : String, d.escape (.string s) = d.escape (.string other) ↔ s = other := by
  refine ⟨fun rest => readLiteral_quoteString d s, ?_, recovered_content d s.toList,
    fun other => ⟨fun h => ?_, fun h => h ▸ rfl⟩⟩
  · intro hd
    cases d with
    | mySql => exact List.flatMap_singleton' _
    | postgreSql => exact List.flatMap_singleton' _
    | sqlite => exact absurd rfl hd
  · have hend : ([] : List Char).head? ≠ some '\'' := by decide
    have hread := readLiteral_quoteString d s hend
    have hliteral : d.quoteString s = d.quoteString other := h
    rw [hliteral, readLiteral_quoteString d other hend] at hread
    have hcontent : d.content other.toList = d.content s.toList :=
      (Prod.mk.inj (Option.some.inj hread)).1
    rw [← String.toList_inj, ← recovered_content d s.toList, ← hcontent, recovered_content]

/-- A quote, a backslash in front of a wildcard and one at the end of the string, and a literal
behind the literal. -/
theorem readLiteral_escape_hostile :
    let s := "it's \"50\\%\" \n\\"
    let rest := " OR '' = ''".toList
    rest.head? ≠ some '\'' ∧
      mySql.readLiteral ((mySql.escape (.string s)).toList ++ rest) =
        some (mySql.content s.toList, rest) ∧
      mySql ≠ .sqlite ∧ mySql.content s.toList = s.toList ∧
      mySql.escape (.string s) = "'it\\'s \\\"50\\\\%\\\" \\n\\\\'" ∧
      sqlite.readLiteral ((sqlite.escape (.string s)).toList ++ rest) =
        some ("it's \"50\\\\%\" \n\\\\".toList, rest) := by
  have hrest : " OR '' = ''".toList.head? ≠ some '\'' := by decide
  exact ⟨hrest, (readLiteral_escape mySql _).1 _ hrest, by decide,
    (readLiteral_escape mySql _).2.1 (by decide), by decide,
    (readLiteral_escape sqlite _).1 _ hrest⟩

end FluentSql.Dialect
