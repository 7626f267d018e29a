import FluentSql.Join.Basic
import FluentSql.Proofs.Text.Quotation

/-!
# Operands read back

`readOperand` is how a dialect reads an operand at the front of a text. The rendered
operand of a join condition is read back as itself, whatever follows behind a blank,
unless the dialect takes the backslash for an escape and the string has a backslash that
is not in front of a wildcard.
-/

namespace FluentSql

open FluentSql.Text

namespace Operand

/-- What a backslash and a character behind it stand for in a MySQL literal; in front of
a wildcard the backslash is kept. -/
def escaped (c : Char) : List Char :=
  if c = '0' then ['\x00']
  else if c = 'b' then ['\x08']
  else if c = 't' then ['\t']
  else if c = 'n' then ['\n']
  else if c = 'r' then ['\r']
  else if c = 'Z' then ['\x1a']
  else if c = '%' ∨ c = '_' then ['\\', c]
  else [c]

/-- The content of a literal from behind its opening quote, and the text behind its
closing one. -/
def readBody (d : Dialect) : List Char → Option (List Char × List Char)
  | [] => none
  | [c] => if c = '\'' then some ([], []) else none
  | c :: e :: cs =>
    if c = '\'' ∧ e = '\'' then (readBody d cs).map fun p => ('\'' :: p.1, p.2)
    else if c = '\'' then some ([], e :: cs)
    else if c = '\\' ∧ d = .mySql then (readBody d cs).map fun p => (escaped e ++ p.1, p.2)
    else (readBody d (e :: cs)).map fun p => (c :: p.1, p.2)

/-- Two names with a point between them, each as long as it can be. -/
def readReference (cs : List Char) : Option (List Char × List Char) :=
  let qualifier := cs.takeWhile isWord
  match cs.dropWhile isWord with
  | [] => none
  | point :: rest =>
    let name := rest.takeWhile isWord
    if point = '.' ∧ qualifier ≠ [] ∧ name ≠ [] then
      some (qualifier ++ '.' :: name, rest.dropWhile isWord)
    else none

/-- The operand at the front of a text, and the text behind it. -/
def readOperand (d : Dialect) (cs : List Char) : Option (Operand × List Char) :=
  match cs with
  | [] => none
  | c :: body =>
    if c = '\'' then (readBody d body).map fun p => (.literal (String.ofList p.1), p.2)
    else (readReference (c :: body)).map fun p => (.column (String.ofList p.1), p.2)

/-- A reference consists of word characters around its point. -/
theorem exists_of_isReference {cs : List Char} (h : isReference cs = true) :
    ∃ qualifier name, cs = qualifier ++ '.' :: name ∧ qualifier ≠ [] ∧ name ≠ [] ∧
      (∀ c ∈ qualifier, isWord c = true) ∧ ∀ c ∈ name, isWord c = true := by
  unfold isReference at h
  dsimp only at h
  simp only [Bool.and_eq_true, bne_iff_ne, beq_iff_eq, List.all_eq_true] at h
  obtain ⟨⟨⟨hqualifier, hpoint⟩, hname⟩, hword⟩ := h
  have hsplit : cs = cs.takeWhile isWord ++ cs.dropWhile isWord :=
    List.takeWhile_append_dropWhile.symm
  have hdrop : cs.dropWhile isWord = '.' :: cs.drop ((cs.takeWhile isWord).length + 1) := by
    have hlt := (List.getElem?_eq_some_iff.mp hpoint).1
    have hget := (List.getElem?_eq_some_iff.mp hpoint).2
    have hdropWhile := congrArg (List.drop (cs.takeWhile isWord).length) hsplit
    rw [List.drop_left] at hdropWhile
    rw [← hdropWhile, List.drop_eq_getElem_cons hlt, hget]
  refine ⟨cs.takeWhile isWord, cs.drop ((cs.takeWhile isWord).length + 1), ?_, hqualifier,
    hname, ?_, hword⟩
  · rw [← hdrop]
    exact hsplit
  · intro c hc
    exact List.mem_takeWhile_imp hc

theorem column_of_read {raw name : String} (h : read raw = .column name) :
    isReference name.toList = true := by
  unfold read at h
  dsimp only at h
  split at h
  · next hreference =>
    obtain rfl := Operand.column.inj h
    exact hreference
  · cases h

theorem literal_of_read {raw s : String} (h : read raw = .literal s) : s = raw := by
  unfold read at h
  dsimp only at h
  split at h
  · cases h
  · exact (Operand.literal.inj h).symm

theorem not_mem_of_isWord {c : Char} (hc : isWord c = false) {cs : List Char}
    (h : ∀ d ∈ cs, isWord d = true) : c ∉ cs := by
  intro hm
  rw [h c hm] at hc
  cases hc

/-- The operands that calls store are closed when they are written. -/
theorem closed_render_read (raw : String) : Text.Closed (read raw).fragment.render := by
  cases hread : read raw with
  | literal s => exact closed_literal s
  | column name =>
    obtain ⟨qualifier, rest, hname, _, _, hqualifier, hrest⟩ :=
      exists_of_isReference (column_of_read hread)
    apply Free.closed
    show Free name
    unfold Free
    rw [hname]
    have hquote : isWord '\'' = false := by decide
    have hmark : isWord '?' = false := by decide
    simp only [List.mem_append, List.mem_cons, not_or]
    exact ⟨⟨not_mem_of_isWord hquote hqualifier, by decide, not_mem_of_isWord hquote hrest⟩,
      ⟨not_mem_of_isWord hmark hqualifier, by decide, not_mem_of_isWord hmark hrest⟩⟩

/-- A reference is read back in front of a blank. -/
theorem readReference_of_isReference {cs : List Char} (h : isReference cs = true)
    (rest : List Char) : readReference (cs ++ ' ' :: rest) = some (cs, ' ' :: rest) := by
  obtain ⟨qualifier, name, rfl, hqualifier, hname, hqword, hnword⟩ := exists_of_isReference h
  have hpoint : isWord '.' = false := by decide
  have hblank : isWord ' ' = false := by decide
  have hsplit : qualifier ++ '.' :: name ++ ' ' :: rest =
      qualifier ++ '.' :: (name ++ ' ' :: rest) := by
    simp only [List.append_assoc, List.cons_append]
  have htake : (qualifier ++ '.' :: (name ++ ' ' :: rest)).takeWhile isWord = qualifier := by
    rw [List.takeWhile_append_of_pos hqword, List.takeWhile_cons_of_neg (by rw [hpoint]; decide),
      List.append_nil]
  have hdrop : (qualifier ++ '.' :: (name ++ ' ' :: rest)).dropWhile isWord =
      '.' :: (name ++ ' ' :: rest) := by
    rw [List.dropWhile_append_of_pos hqword, List.dropWhile_cons_of_neg (by rw [hpoint]; decide)]
  have htakeName : (name ++ ' ' :: rest).takeWhile isWord = name := by
    rw [List.takeWhile_append_of_pos hnword, List.takeWhile_cons_of_neg (by rw [hblank]; decide),
      List.append_nil]
  have hdropName : (name ++ ' ' :: rest).dropWhile isWord = ' ' :: rest := by
    rw [List.dropWhile_append_of_pos hnword, List.dropWhile_cons_of_neg (by rw [hblank]; decide)]
  rw [hsplit]
  unfold readReference
  rw [hdrop]
  dsimp only
  rw [htake, htakeName, hdropName, if_pos ⟨rfl, hqualifier, hname⟩]

/-- A string with its quotes doubled. -/
def doubled (s : List Char) : List Char :=
  s.flatMap fun d => if d = '\'' then ['\'', '\''] else [d]

theorem doubled_quote (s : List Char) : doubled ('\'' :: s) = '\'' :: '\'' :: doubled s := rfl

theorem doubled_cons {c : Char} (hc : c ≠ '\'') (s : List Char) :
    doubled (c :: s) = c :: doubled s := by
  unfold doubled
  rw [List.flatMap_cons, if_neg hc]
  rfl

/-- Every backslash stands in front of a wildcard, where MySQL keeps it. -/
def Wildcarded : List Char → Prop
  | [] => True
  | [c] => c ≠ '\\'
  | c :: e :: s =>
    if c = '\\' then (e = '%' ∨ e = '_') ∧ Wildcarded s else Wildcarded (e :: s)

/-- The end of a literal in front of anything but a quote. -/
theorem readBody_close (d : Dialect) {rest : List Char} (hrest : rest.head? ≠ some '\'') :
    readBody d ('\'' :: rest) = some ([], rest) := by
  cases rest with
  | nil => rfl
  | cons e rest =>
    have he : ¬(('\'' : Char) = '\'' ∧ e = '\'') := fun h => hrest (congrArg some h.2)
    rw [readBody, if_neg he, if_pos rfl]

theorem readBody_end (d : Dialect) (rest : List Char) :
    readBody d ('\'' :: ' ' :: rest) = some ([], ' ' :: rest) :=
  readBody_close d (by simp)

theorem readBody_quote (d : Dialect) (cs : List Char) :
    readBody d ('\'' :: '\'' :: cs) = (readBody d cs).map fun p => ('\'' :: p.1, p.2) := by
  rw [readBody, if_pos ⟨rfl, rfl⟩]

/-- A character that is neither a quote nor an escape is read as it is. -/
theorem readBody_cons {d : Dialect} {c : Char} (hquote : c ≠ '\'')
    (hescape : ¬(c = '\\' ∧ d = .mySql)) {cs : List Char} (hcs : cs ≠ []) :
    readBody d (c :: cs) = (readBody d cs).map fun p => (c :: p.1, p.2) := by
  cases cs with
  | nil => exact absurd rfl hcs
  | cons e cs =>
    rw [readBody, if_neg fun h => hquote h.1, if_neg hquote, if_neg hescape]

theorem readBody_escape (e : Char) (cs : List Char) :
    readBody .mySql ('\\' :: e :: cs) =
      (readBody .mySql cs).map fun p => (escaped e ++ p.1, p.2) := by
  have hquote : ¬('\\' : Char) = '\'' := by decide
  rw [readBody, if_neg fun h => hquote h.1, if_neg hquote, if_pos ⟨rfl, rfl⟩]

/-- A doubled character that is no escape is read as itself. -/
theorem readBody_doubled {d : Dialect} {c : Char} (hescape : ¬(c = '\\' ∧ d = .mySql))
    (s rest : List Char) :
    readBody d (doubled (c :: s) ++ '\'' :: ' ' :: rest) =
      (readBody d (doubled s ++ '\'' :: ' ' :: rest)).map fun p => (c :: p.1, p.2) := by
  by_cases hquote : c = '\''
  · obtain rfl := hquote
    rw [doubled_quote, List.cons_append, List.cons_append, readBody_quote]
  · have hrest : doubled s ++ '\'' :: ' ' :: rest ≠ [] := by simp
    rw [doubled_cons hquote, List.cons_append, readBody_cons hquote hescape hrest]

/-- A backslash takes the character behind it along, and half of a doubled quote. -/
theorem readBody_backslash (e : Char) (s rest : List Char) :
    readBody .mySql (doubled ('\\' :: e :: s) ++ '\'' :: ' ' :: rest) =
      (readBody .mySql ((if e = '\'' then ['\''] else []) ++ doubled s ++ '\'' :: ' ' :: rest)).map
        fun p => (escaped e ++ p.1, p.2) := by
  have hslash : ('\\' : Char) ≠ '\'' := by decide
  rw [doubled_cons hslash, List.cons_append]
  by_cases hquote : e = '\''
  · rw [if_pos hquote, hquote, doubled_quote, List.cons_append, List.cons_append, readBody_escape]
    rfl
  · rw [if_neg hquote, doubled_cons hquote, List.cons_append, readBody_escape]
    rfl

/-- Where a backslash is no escape, every string is read back in front of anything but a
quote. -/
theorem readBody_literal {d : Dialect} (hd : d ≠ .mySql) (s : List Char) {rest : List Char}
    (hrest : rest.head? ≠ some '\'') :
    readBody d (doubled s ++ '\'' :: rest) = some (s, rest) := by
  induction s with
  | nil => exact readBody_close d hrest
  | cons c s ih =>
    by_cases hquote : c = '\''
    · rw [hquote, doubled_quote, List.cons_append, List.cons_append, readBody_quote, ih]
      rfl
    · have hne : doubled s ++ '\'' :: rest ≠ [] := by simp
      rw [doubled_cons hquote, List.cons_append, readBody_cons hquote (fun h => hd h.2) hne, ih]
      rfl

theorem readBody_of_ne_mySql {d : Dialect} (hd : d ≠ .mySql) (s rest : List Char) :
    readBody d (doubled s ++ '\'' :: ' ' :: rest) = some (s, ' ' :: rest) :=
  readBody_literal hd s (by simp)

theorem ne_quote_of_wildcard {e : Char} (h : e = '%' ∨ e = '_') : e ≠ '\'' := by
  obtain rfl | rfl := h <;> decide

theorem escaped_of_wildcard {e : Char} (h : e = '%' ∨ e = '_') : escaped e = ['\\', e] := by
  obtain rfl | rfl := h <;> rfl

/-- In MySQL a string is read back when each backslash stands in front of a wildcard. -/
theorem readBody_of_wildcarded {s : List Char} (h : Wildcarded s) (rest : List Char) :
    readBody .mySql (doubled s ++ '\'' :: ' ' :: rest) = some (s, ' ' :: rest) := by
  -- A backslash takes the wildcard behind it along, so the recursion goes down by two.
  induction s using Wildcarded.induct with
  | case1 => exact readBody_end .mySql rest
  | case2 c =>
    have hc : c ≠ '\\' := h
    have hnil : readBody .mySql (doubled [] ++ '\'' :: ' ' :: rest) = some ([], ' ' :: rest) :=
      readBody_end .mySql rest
    rw [readBody_doubled fun he => hc he.1, hnil]
    rfl
  | case3 e s ih =>
    rw [Wildcarded, if_pos rfl] at h
    obtain ⟨hwild, hs⟩ := h
    rw [readBody_backslash, if_neg (ne_quote_of_wildcard hwild), List.nil_append, ih hs,
      escaped_of_wildcard hwild]
    rfl
  | case4 c e s hc ih =>
    rw [Wildcarded, if_neg hc] at h
    rw [readBody_doubled fun he => hc he.1, ih h]
    rfl

/-- What a reader gives behind a front that it puts before it. -/
theorem exists_of_map_front {x : Option (List Char × List Char)} {f value rest : List Char}
    (h : (x.map fun p => (f ++ p.1, p.2)) = some (value, rest)) :
    ∃ v, x = some (v, rest) ∧ value = f ++ v := by
  obtain ⟨⟨v, r⟩, hread, heq⟩ := Option.map_eq_some_iff.mp h
  obtain ⟨hvalue, hrest⟩ := Prod.mk.inj heq
  obtain rfl : r = rest := hrest
  exact ⟨v, hread, hvalue.symm⟩

theorem length_escaped (e : Char) : (escaped e).length + (escaped e).count '\'' ≤ 2 := by
  unfold escaped
  repeat' split
  all_goals first | decide | skip
  · next h =>
    obtain rfl | rfl := h <;> decide
  · rw [List.count_singleton, List.length_singleton]
    split <;> omega

/-- Reading takes at least a character for each one it gives, two for a quote, and one
for the end of the literal. -/
theorem length_readBody {d : Dialect} {cs value rest : List Char}
    (h : readBody d cs = some (value, rest)) :
    value.length + value.count '\'' + 1 + rest.length ≤ cs.length := by
  induction cs using readBody.induct d generalizing value rest with
  | case1 => cases h
  | case2 =>
    rw [readBody, if_pos rfl] at h
    obtain ⟨rfl, rfl⟩ := Prod.mk.inj (Option.some.inj h)
    exact Nat.le_refl 1
  | case3 c hc =>
    rw [readBody, if_neg hc] at h
    cases h
  | case4 c e cs hquotes ih =>
    rw [readBody, if_pos hquotes] at h
    obtain ⟨v, hread, rfl⟩ := exists_of_map_front (f := ['\'']) h
    have hlen := ih hread
    simp only [List.singleton_append, List.length_cons, List.count_cons_self]
    omega
  | case5 e cs hquotes =>
    rw [readBody, if_neg hquotes, if_pos rfl] at h
    obtain ⟨rfl, rfl⟩ := Prod.mk.inj (Option.some.inj h)
    simp only [List.length_nil, List.count_nil, List.length_cons]
    omega
  | case6 c e cs hquotes hquote hescape ih =>
    rw [readBody, if_neg hquotes, if_neg hquote, if_pos hescape] at h
    obtain ⟨v, hread, rfl⟩ := exists_of_map_front h
    have hlen := ih hread
    have he := length_escaped e
    simp only [List.length_append, List.count_append, List.length_cons]
    omega
  | case7 c e cs hquotes hquote hescape ih =>
    rw [readBody, if_neg hquotes, if_neg hquote, if_neg hescape] at h
    obtain ⟨v, hread, rfl⟩ := exists_of_map_front (f := [c]) h
    have hlen := ih hread
    rw [List.singleton_append, List.count_cons_of_ne hquote]
    simp only [List.length_cons] at hlen ⊢
    omega

theorem length_doubled (s : List Char) : (doubled s).length = s.length + s.count '\'' := by
  induction s with
  | nil => rfl
  | cons c s ih =>
    by_cases hc : c = '\''
    · rw [hc, doubled_quote, List.count_cons_self]
      simp only [List.length_cons, ih]
      omega
    · rw [doubled_cons hc, List.count_cons_of_ne hc]
      simp only [List.length_cons, ih]
      omega

/-- An escape that is not in front of a wildcard gives one character, and a backslash only
for a backslash. -/
theorem escaped_of_not_wildcard {e : Char} (h : ¬(e = '%' ∨ e = '_')) :
    ∃ c, escaped e = [c] ∧ (c = '\\' → e = '\\') := by
  unfold escaped
  repeat' split
  all_goals first | exact ⟨_, rfl, fun hc => absurd hc (by decide)⟩ | skip
  exact ⟨e, rfl, id⟩

/-- An escaped quote does not give a backslash. -/
theorem ne_escaped_quote (s v : List Char) : '\\' :: s ≠ escaped '\'' ++ v := by
  intro h
  have hhead : some '\\' = some '\'' := congrArg List.head? h
  revert hhead
  decide

/-- In MySQL a string that is read back has its backslashes in front of wildcards. -/
theorem wildcarded_of_readBody {s rest : List Char}
    (h : readBody .mySql (doubled s ++ '\'' :: ' ' :: rest) = some (s, ' ' :: rest)) :
    Wildcarded s := by
  induction s using Wildcarded.induct with
  | case1 => trivial
  | case2 c =>
    show c ≠ '\\'
    rintro rfl
    -- The backslash takes the closing quote, so that the value starts with a quote.
    have hread : readBody .mySql ('\\' :: '\'' :: ' ' :: rest) = some (['\\'], ' ' :: rest) := h
    rw [readBody_escape] at hread
    obtain ⟨v, _, hvalue⟩ := exists_of_map_front hread
    exact ne_escaped_quote [] v hvalue
  | case3 e s ih =>
    rw [Wildcarded, if_pos rfl]
    rw [readBody_backslash] at h
    obtain ⟨v, hread, hvalue⟩ := exists_of_map_front h
    by_cases hwild : e = '%' ∨ e = '_'
    · rw [escaped_of_wildcard hwild] at hvalue
      have hv : s = v := by simpa using hvalue
      rw [if_neg (ne_quote_of_wildcard hwild), List.nil_append, ← hv] at hread
      exact ⟨hwild, ih hread⟩
    · exfalso
      by_cases hquote : e = '\''
      · rw [hquote] at hvalue
        exact ne_escaped_quote _ v hvalue
      · obtain ⟨c, hescaped, hbackslash⟩ := escaped_of_not_wildcard hwild
        rw [hescaped] at hvalue
        obtain ⟨hc, hv⟩ := List.cons.inj hvalue
        have he := hbackslash hc.symm
        -- Two backslashes give one, and the rest is too short for the other.
        have hlen := length_readBody hread
        rw [if_neg hquote, List.nil_append, ← show e :: s = v from hv, List.length_append,
          length_doubled, List.count_cons_of_ne hquote] at hlen
        simp only [List.length_cons] at hlen
        omega
  | case4 c e s hc ih =>
    rw [Wildcarded, if_neg hc]
    rw [readBody_doubled fun he => hc he.1] at h
    obtain ⟨v, hread, hvalue⟩ := exists_of_map_front (f := [c]) h
    obtain ⟨_, hv⟩ := List.cons.inj hvalue
    rw [← show e :: s = v from hv] at hread
    exact ih hread

/-- The characters that a join condition writes for an operand. -/
def written (raw : String) : List Char :=
  (read raw).fragment.render.toList

theorem toList_render_literal (s : String) :
    (Fragment.literal s).render.toList = '\'' :: (doubled s.toList ++ ['\'']) := by
  show ("'" ++ Text.replaceChar '\'' ['\'', '\''] s ++ "'").toList = _
  unfold Text.replaceChar
  have hquote : ("'" : String).toList = ['\''] := rfl
  rw [String.toList_append, String.toList_append, hquote, String.toList_ofList]
  rfl

theorem written_literal {raw : String} (h : read raw = .literal raw) :
    written raw = '\'' :: (doubled raw.toList ++ ['\'']) := by
  unfold written
  rw [h]
  exact toList_render_literal raw

theorem readOperand_written_column {raw name : String} (h : read raw = .column name)
    (d : Dialect) (rest : List Char) :
    readOperand d (written raw ++ ' ' :: rest) = some (.column name, ' ' :: rest) := by
  have hreference := column_of_read h
  have hread := readReference_of_isReference hreference rest
  obtain ⟨qualifier, tail, hname, hqualifier, _, hword, _⟩ := exists_of_isReference hreference
  have hwritten : written raw = name.toList := by
    unfold written
    rw [h]
    rfl
  cases qualifier with
  | nil => exact absurd rfl hqualifier
  | cons c qualifier =>
    have hc : c ≠ '\'' := by
      rintro rfl
      have hquote := hword '\'' List.mem_cons_self
      revert hquote
      decide
    rw [hwritten]
    rw [hname, List.cons_append] at hread ⊢
    rw [List.cons_append] at hread ⊢
    rw [readOperand, if_neg hc, hread, ← List.cons_append, ← hname]
    simp only [Option.map_some, String.ofList_toList]

theorem readOperand_written_literal {raw : String} (h : read raw = .literal raw) (d : Dialect)
    (rest : List Char) :
    readOperand d (written raw ++ ' ' :: rest) =
      (readBody d (doubled raw.toList ++ '\'' :: ' ' :: rest)).map fun p =>
        (.literal (String.ofList p.1), p.2) := by
  rw [written_literal h, List.cons_append, readOperand, if_pos rfl, List.append_assoc]
  rfl

/-- An operand is read back whatever follows it behind a blank, exactly if MySQL is not
given a string with a backslash outside `\%` and `\_`. -/
theorem readOperand_written_iff (d : Dialect) (raw : String) :
    (∀ rest, readOperand d (written raw ++ ' ' :: rest) = some (read raw, ' ' :: rest)) ↔
      (d = .mySql → read raw = .literal raw → Wildcarded raw.toList) := by
  cases hread : read raw with
  | column name =>
    constructor
    · intro _ _ hliteral
      cases hliteral
    · intro _ rest
      exact readOperand_written_column hread d rest
  | literal s =>
    obtain rfl := literal_of_read hread
    constructor
    · intro h hd _
      obtain rfl := hd
      have hrest := h []
      rw [readOperand_written_literal hread] at hrest
      obtain ⟨⟨v, r⟩, hbody, heq⟩ := Option.map_eq_some_iff.mp hrest
      obtain ⟨hvalue, hr⟩ := Prod.mk.inj heq
      have hv : v = s.toList := by
        have hofList := Operand.literal.inj hvalue
        rw [← hofList, String.toList_ofList]
      rw [hv, show r = [' '] from hr] at hbody
      exact wildcarded_of_readBody hbody
    · intro h rest
      rw [readOperand_written_literal hread]
      have hbody : readBody d (doubled s.toList ++ '\'' :: ' ' :: rest) =
          some (s.toList, ' ' :: rest) := by
        by_cases hd : d = .mySql
        · obtain rfl := hd
          exact readBody_of_wildcarded (h rfl rfl) rest
        · exact readBody_of_ne_mySql hd s.toList rest
      rw [hbody]
      simp only [Option.map_some, String.ofList_toList]

/-- On MySQL a single backslash takes the closing quote along, and the literal goes on to
the next quote of the statement. -/
theorem readOperand_written_backslash :
    readOperand .mySql (written "\\" ++ ' ' :: "AND a.b = 'x'".toList) =
      some (.literal "' AND a.b = ", "x'".toList) := by
  decide

end Operand

end FluentSql
