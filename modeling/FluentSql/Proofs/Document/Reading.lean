import FluentSql.Document.Printer
import FluentSql.Proofs.Document.Source
import FluentSql.Proofs.Number.Integer

/-!
# Reading what was written

The compact text of a document without floating point numbers is read as its source, whatever
document the text stands in.
-/

namespace FluentSql

namespace Source

open Document

/-- What may stand behind a value inside a document. -/
def Ends (rest : List Char) : Prop :=
  ∀ c ∈ rest.head?, c = ',' ∨ c = ']' ∨ c = '\x7d'

theorem ends_nil : Ends [] := by
  intro c hc
  cases hc

theorem ends_cons {c : Char} {cs : List Char} (h : c = ',' ∨ c = ']' ∨ c = '\x7d') :
    Ends (c :: cs) := by
  intro d hd
  obtain rfl := Option.some.inj hd
  exact h

theorem skipSpace_cons {c : Char} (h : isSpace c = false) (cs : List Char) :
    skipSpace (c :: cs) = c :: cs :=
  List.dropWhile_cons_of_neg (by simp [h])

/-! ## Strings -/

/-- Control characters are escaped by four hexadecimal digits. -/
theorem hexUnit?_fixedDigits : ∀ n < 0x20, ∃ a b c d,
    Text.fixedDigits 16 4 n = [a, b, c, d] ∧ hexUnit? a b c d = some n := by
  intro n hn
  refine ⟨_, _, _, _, rfl, ?_⟩
  revert n
  decide

theorem readString_quote (rest : List Char) :
    readString none ('"' :: rest) = some (some [], rest) := by
  unfold readString
  rw [if_pos rfl]
  rfl

theorem readString_plain {c : Char} (hquote : c ≠ '"') (hslash : c ≠ '\\')
    (hcontrol : ¬c.toNat < 0x20) (rest : List Char) :
    readString none (c :: rest) = (readString none rest).push c := by
  conv_lhs => unfold readString
  rw [if_neg hquote, if_pos hslash, if_neg hcontrol]
  rfl

theorem readString_short {e c : Char} (hunicode : e ≠ 'u') (h : shortEscape? e = some c)
    (rest : List Char) :
    readString none ('\\' :: e :: rest) = (readString none rest).push c := by
  conv_lhs => unfold readString
  rw [if_neg (by decide), if_neg (by decide)]
  dsimp only
  rw [if_pos hunicode, h]
  rfl

theorem readString_unit {a b c d : Char} {n : Nat} (h : hexUnit? a b c d = some n)
    (hhigh : isHighSurrogate n = false) (hlow : isLowSurrogate n = false) (rest : List Char) :
    readString none ('\\' :: 'u' :: a :: b :: c :: d :: rest) =
      (readString none rest).push (Char.ofNat n) := by
  conv_lhs => unfold readString
  rw [if_neg (by decide), if_neg (by decide)]
  dsimp only
  rw [if_neg (by decide), h]
  dsimp only
  rw [hhigh, hlow]
  rfl

theorem readString_control {c : Char} (h : c.toNat < 0x20) (rest : List Char) :
    readString none ('\\' :: 'u' :: Text.fixedDigits 16 4 c.toNat ++ rest) =
      (readString none rest).push c := by
  obtain ⟨w, x, y, z, hdigits, hunit⟩ := hexUnit?_fixedDigits c.toNat h
  have hsurrogate : isHighSurrogate c.toNat = false ∧ isLowSurrogate c.toNat = false := by
    simp only [isHighSurrogate, isLowSurrogate, Bool.and_eq_false_iff, decide_eq_false_iff_not]
    omega
  have hread := readString_unit hunit hsurrogate.1 hsurrogate.2 rest
  rw [Char.ofNat_toNat] at hread
  rw [hdigits]
  exact hread

/-- A character of a string is read from its escaped form. -/
theorem readString_escapedChar (c : Char) (rest : List Char) :
    readString none (escapedChar c ++ rest) = (readString none rest).push c := by
  unfold escapedChar
  by_cases hquote : c = '"'
  · subst hquote
    exact readString_short (by decide) rfl rest
  rw [if_neg hquote]
  by_cases hslash : c = '\\'
  · subst hslash
    exact readString_short (by decide) rfl rest
  rw [if_neg hslash]
  by_cases hcontrol : c.toNat < 0x20
  · rw [if_pos hcontrol]
    by_cases hback : c.toNat = 0x08
    · obtain rfl : c = '\x08' := Char.toNat_inj.mp hback
      exact readString_short (by decide) rfl rest
    rw [if_neg hback]
    by_cases hfeed : c.toNat = 0x0c
    · obtain rfl : c = '\x0c' := Char.toNat_inj.mp hfeed
      exact readString_short (by decide) rfl rest
    rw [if_neg hfeed]
    by_cases hline : c = '\n'
    · subst hline
      exact readString_short (by decide) rfl rest
    rw [if_neg hline]
    by_cases hreturn : c = '\r'
    · subst hreturn
      exact readString_short (by decide) rfl rest
    rw [if_neg hreturn]
    by_cases htab : c = '\t'
    · subst htab
      exact readString_short (by decide) rfl rest
    rw [if_neg htab]
    exact readString_control hcontrol rest
  · rw [if_neg hcontrol]
    exact readString_plain hquote hslash hcontrol rest

/-- A string is read up to its closing quote. -/
theorem readString_escaped (cs rest : List Char) :
    readString none (cs.flatMap escapedChar ++ '"' :: rest) = some (some cs, rest) := by
  induction cs with
  | nil => exact readString_quote rest
  | cons c cs ih =>
    rw [List.flatMap_cons, List.append_assoc, readString_escapedChar, ih]
    rfl

theorem toList_stringChars (s : String) (rest : List Char) :
    stringChars s ++ rest = '"' :: (s.toList.flatMap escapedChar ++ '"' :: rest) := by
  simp [stringChars]

/-! ## Numbers -/

theorem Ends.stops {rest : List Char} (h : Ends rest) : Integer.Stops rest := by
  intro c hc
  rcases h c hc with rfl | rfl | rfl <;> rfl

/-- The digits of a positive number do not start with a zero. -/
theorem head_toDigits_ne_zero {n : Nat} (hpos : 0 < n) :
    (Nat.toDigits 10 n).head? ≠ some '0' := by
  induction n using Nat.strongRecOn with
  | ind n ih =>
    by_cases hn : n < 10
    · rw [Nat.toDigits_of_lt_base hn, List.head?_cons, ne_eq, Option.some.injEq]
      have hdigit : ∀ n < 10, 0 < n → ¬Nat.digitChar n = '0' := by decide
      exact hdigit n hn hpos
    · rw [Nat.toDigits_of_base_le (by decide) (by omega),
        List.head?_append_of_ne_nil _ Nat.toDigits_ne_nil]
      exact ih (n / 10) (by omega) (by omega)

theorem readNumeral_digits {n : Nat} {rest : List Char} (hrest : Ends rest) (negative : Bool) :
    readNumeral negative (Nat.toDigits 10 n ++ rest) =
      some (⟨negative, Nat.toDigits 10 n, [], none⟩, rest) := by
  have hdigits : ∀ c ∈ Nat.toDigits 10 n, Integer.isDigit c = true :=
    fun c hc => Integer.isDigit_of_mem_toDigits hc
  have htake := Integer.takeWhile_digits hdigits hrest.stops
  have hdrop := Integer.dropWhile_digits hdigits hrest.stops
  have hwhole : ¬(Nat.toDigits 10 n = [] ∨
      (Nat.toDigits 10 n).head? = some '0' ∧ (Nat.toDigits 10 n).length ≠ 1) := by
    rintro (hnil | ⟨hzero, hlong⟩)
    · exact Nat.toDigits_ne_nil hnil
    · obtain rfl : n = 0 := by
        by_contra hne
        exact head_toDigits_ne_zero (by omega) hzero
      exact hlong rfl
  unfold readNumeral
  rw [htake, hdrop]
  dsimp only
  rw [if_neg hwhole]
  cases rest with
  | nil => rfl
  | cons c cs => rcases hrest c rfl with rfl | rfl | rfl <;> rfl

/-! ## Values -/

/-- The text of an integer starts with a sign or a digit. -/
theorem head_intChars (i : Int) :
    ∃ c cs, intChars i = c :: cs ∧ (c = '-' ∨ Integer.isDigit c = true) := by
  have hne : intChars i ≠ [] := by
    unfold intChars
    split
    · exact List.cons_ne_nil _ _
    · exact Nat.toDigits_ne_nil
  obtain ⟨c, cs, h⟩ := List.exists_cons_of_ne_nil hne
  exact ⟨c, cs, h, mem_intChars (h ▸ List.mem_cons_self)⟩

/-- A sign or a digit is no other mark of a document. -/
theorem ne_of_isDigit {c d : Char} (hc : c = '-' ∨ Integer.isDigit c = true)
    (hd : d ≠ '-' ∧ Integer.isDigit d = false) : c ≠ d := by
  rintro rfl
  rcases hc with hc | hc
  · exact hd.1 hc
  · rw [hd.2] at hc
    cases hc

theorem isSpace_of_isDigit {c : Char} (hc : c = '-' ∨ Integer.isDigit c = true) :
    isSpace c = false := by
  simp only [isSpace, Bool.or_eq_false_iff, beq_eq_false_iff_ne]
  refine ⟨⟨⟨?_, ?_⟩, ?_⟩, ?_⟩ <;> exact ne_of_isDigit hc (by decide)

/-- The text of a value starts with a mark that ends no array or object. -/
theorem head_writeChars {d : Document} (hd : d.isExact = true) :
    ∃ c cs, d.writeChars = c :: cs ∧ isSpace c = false ∧ c ≠ ']' ∧ c ≠ '\x7d' := by
  cases d with
  | null => exact ⟨'n', "ull".toList, rfl, by decide, by decide, by decide⟩
  | bool b =>
    cases b with
    | true => exact ⟨'t', "rue".toList, rfl, by decide, by decide, by decide⟩
    | false => exact ⟨'f', "alse".toList, rfl, by decide, by decide, by decide⟩
  | integer i =>
    obtain ⟨c, cs, hchars, hc⟩ := head_intChars i.val
    exact ⟨c, cs, hchars, isSpace_of_isDigit hc, ne_of_isDigit hc (by decide),
      ne_of_isDigit hc (by decide)⟩
  | float x => cases hd
  | string s => exact ⟨'"', _, rfl, by decide, by decide, by decide⟩
  | array items => exact ⟨'[', _, rfl, by decide, by decide, by decide⟩
  | object fields => exact ⟨'\x7b', _, rfl, by decide, by decide, by decide⟩

theorem length_writeChars_pos {d : Document} (hd : d.isExact = true) : 0 < d.writeChars.length := by
  obtain ⟨c, cs, hchars, -⟩ := head_writeChars hd
  rw [hchars]
  exact Nat.zero_lt_succ _

theorem readValue_integer {i : WideInt} {rest : List Char} (hrest : Ends rest) (fuel : Nat) :
    readValue (fuel + 1) (intChars i.val ++ rest) = some (.number (.ofInt i.val), rest) := by
  by_cases hneg : i.val < 0
  · have hread := readNumeral_digits (n := i.val.natAbs) hrest true
    rw [intChars_of_neg hneg, List.cons_append, readValue, skipSpace_cons (by decide)]
    simp [hread, Numeral.ofInt, hneg]
  · have hread := readNumeral_digits (n := i.val.natAbs) hrest false
    obtain ⟨c, cs, hchars, -⟩ := head_intChars i.val
    have hc : Integer.isDigit c = true := by
      rw [intChars_of_nonneg hneg] at hchars
      exact Integer.isDigit_of_mem_toDigits (hchars ▸ List.mem_cons_self)
    have hmark : ∀ {d : Char}, d ≠ '-' ∧ Integer.isDigit d = false → c ≠ d :=
      ne_of_isDigit (.inr hc)
    have hminus : c ≠ '-' := by
      rintro rfl
      cases hc
    rw [intChars_of_nonneg hneg] at hchars ⊢
    rw [hchars] at hread ⊢
    rw [List.cons_append, readValue, skipSpace_cons (isSpace_of_isDigit (.inr hc))]
    dsimp only
    rw [if_neg (hmark (by decide)), if_neg (hmark (by decide)), if_neg (hmark (by decide)),
      if_neg hminus, if_pos hc, ← List.cons_append, hread]
    simp [Numeral.ofInt, hneg, hchars]

section Steps

variable {fuel : Nat} {cs rest rest' : List Char}

theorem readValue_array {items : List Source} {c : Char} (hspace : isSpace c = false)
    (hbracket : c ≠ ']') (h : readItems fuel (c :: cs) = some (items, rest)) :
    readValue (fuel + 1) ('[' :: c :: cs) = some (.array items, rest) := by
  rw [readValue, skipSpace_cons (by decide)]
  dsimp only
  rw [if_neg (by decide), if_pos rfl, skipSpace_cons hspace]
  split
  · next heq => exact absurd (List.cons.inj heq).1 hbracket
  · rw [h]
    rfl

theorem readValue_object {fields : List (Option String × Source)} {c : Char}
    (hspace : isSpace c = false) (hbrace : c ≠ '\x7d')
    (h : readFields fuel (c :: cs) = some (fields, rest)) :
    readValue (fuel + 1) ('\x7b' :: c :: cs) = some (.object fields, rest) := by
  rw [readValue, skipSpace_cons (by decide)]
  dsimp only
  rw [if_neg (by decide), if_neg (by decide), if_pos rfl, skipSpace_cons hspace]
  split
  · next heq => exact absurd (List.cons.inj heq).1 hbrace
  · rw [h]
    rfl

theorem readItems_last {x : Source} (h : readValue fuel cs = some (x, ']' :: rest)) :
    readItems (fuel + 1) cs = some ([x], rest) := by
  rw [readItems, h]
  rfl

theorem readItems_more {x : Source} {xs : List Source}
    (h : readValue fuel cs = some (x, ',' :: rest))
    (hmore : readItems fuel rest = some (xs, rest')) :
    readItems (fuel + 1) cs = some (x :: xs, rest') := by
  rw [readItems, h]
  show (readItems fuel rest).map _ = _
  rw [hmore]
  rfl

theorem readFields_last {k : String} {x : Source}
    (h : readValue fuel cs = some (x, '\x7d' :: rest)) :
    readFields (fuel + 1) (stringChars k ++ ':' :: cs) = some ([(some k, x)], rest) := by
  have hcolon : skipSpace (':' :: cs) = ':' :: cs := skipSpace_cons (by decide) cs
  have hbrace : skipSpace ('\x7d' :: rest) = '\x7d' :: rest := skipSpace_cons (by decide) rest
  rw [toList_stringChars, readFields, skipSpace_cons (by decide)]
  simp [readString_escaped, hcolon, h, hbrace]

theorem readFields_more {k : String} {x : Source} {xs : List (Option String × Source)}
    (h : readValue fuel cs = some (x, ',' :: rest))
    (hmore : readFields fuel rest = some (xs, rest')) :
    readFields (fuel + 1) (stringChars k ++ ':' :: cs) = some ((some k, x) :: xs, rest') := by
  have hcolon : skipSpace (':' :: cs) = ':' :: cs := skipSpace_cons (by decide) cs
  have hcomma : skipSpace (',' :: rest) = ',' :: rest := skipSpace_cons (by decide) rest
  rw [toList_stringChars, readFields, skipSpace_cons (by decide)]
  simp [readString_escaped, hcolon, h, hcomma, hmore]

end Steps

mutual

theorem readValue_writeChars : ∀ (d : Document) (fuel : Nat) (rest : List Char),
    d.isExact = true → d.writeChars.length ≤ fuel + 1 → Ends rest →
      readValue (fuel + 1) (d.writeChars ++ rest) = some (d.source, rest)
  | .null, _, _, _, _, _ => rfl
  | .bool true, _, _, _, _, _ => rfl
  | .bool false, _, _, _, _, _ => rfl
  | .integer _, fuel, _, _, _, hrest => readValue_integer hrest fuel
  | .float _, _, _, h, _, _ => nomatch h
  | .string s, fuel, rest, _, _, _ => by
    rw [writeChars, toList_stringChars, readValue, skipSpace_cons (by decide)]
    dsimp only
    rw [if_pos rfl, readString_escaped]
    simp [source]
  | .array [], _, _, _, _, _ => rfl
  | .array (x :: xs), fuel, rest, h, hfuel, _ => by
    obtain ⟨c, cs, hhead, hspace, hbracket, -⟩ :=
      head_writeChars (Bool.and_eq_true_iff.mp h).1
    have htext : writeItems (x :: xs) ++ rest = c :: (cs ++ writeMoreItems xs ++ rest) := by
      rw [writeItems, hhead]
      simp
    have hlength : (writeItems (x :: xs)).length ≤ fuel := by
      rw [writeChars, List.length_cons] at hfuel
      omega
    have hpos : 0 < (writeItems (x :: xs)).length := by
      rw [writeItems, hhead]
      simp
    obtain ⟨fuel, rfl⟩ : ∃ n, fuel = n + 1 := ⟨fuel - 1, by omega⟩
    have hitems := readItems_writeItems (x :: xs) fuel rest h (List.cons_ne_nil _ _) hlength
    rw [htext] at hitems
    rw [writeChars, List.cons_append, htext, source]
    exact readValue_array hspace hbracket hitems
  | .object [], _, _, _, _, _ => rfl
  | .object ((k, x) :: fields), fuel, rest, h, hfuel, _ => by
    have htext : writeFields ((k, x) :: fields) ++ rest =
        '"' :: (k.toList.flatMap escapedChar ++
          '"' :: ':' :: (writeChars x ++ writeMoreFields fields ++ rest)) := by
      rw [writeFields, List.append_assoc, toList_stringChars]
      simp
    have hlength : (writeFields ((k, x) :: fields)).length ≤ fuel := by
      rw [writeChars, List.length_cons] at hfuel
      omega
    have hpos : 0 < (writeFields ((k, x) :: fields)).length := by
      rw [writeFields]
      simp [stringChars]
    obtain ⟨fuel, rfl⟩ : ∃ n, fuel = n + 1 := ⟨fuel - 1, by omega⟩
    have hfields :=
      readFields_writeFields ((k, x) :: fields) fuel rest h (List.cons_ne_nil _ _) hlength
    rw [htext] at hfields
    rw [writeChars, List.cons_append, htext, source]
    exact readValue_object (by decide) (by decide) hfields

theorem readItems_writeItems : ∀ (items : List Document) (fuel : Nat) (rest : List Char),
    itemsExact items = true → items ≠ [] → (writeItems items).length ≤ fuel + 1 →
      readItems (fuel + 1) (writeItems items ++ rest) = some (itemSources items, rest)
  | [], _, _, _, h, _ => absurd rfl h
  | [x], fuel, rest, h, _, hfuel => by
    have hx : x.isExact = true := (Bool.and_eq_true_iff.mp h).1
    have hpos := length_writeChars_pos hx
    have hlength : (writeItems [x]).length = x.writeChars.length + 1 := by
      simp [writeItems, writeMoreItems]
    have htext : writeItems [x] ++ rest = x.writeChars ++ ']' :: rest := by
      simp [writeItems, writeMoreItems]
    obtain ⟨fuel, rfl⟩ : ∃ n, fuel = n + 1 := ⟨fuel - 1, by omega⟩
    rw [htext]
    exact readItems_last
      (readValue_writeChars x fuel (']' :: rest) hx (by omega) (ends_cons (by simp)))
  | x :: y :: ys, fuel, rest, h, _, hfuel => by
    have hx : x.isExact = true := (Bool.and_eq_true_iff.mp h).1
    have hpos := length_writeChars_pos hx
    have hlength : (writeItems (x :: y :: ys)).length =
        x.writeChars.length + (writeItems (y :: ys)).length + 1 := by
      simp [writeItems, writeMoreItems]
      omega
    have htext : writeItems (x :: y :: ys) ++ rest =
        x.writeChars ++ ',' :: (writeItems (y :: ys) ++ rest) := by
      simp [writeItems, writeMoreItems]
    obtain ⟨fuel, rfl⟩ : ∃ n, fuel = n + 1 := ⟨fuel - 1, by omega⟩
    rw [htext]
    exact readItems_more
      (readValue_writeChars x fuel (',' :: (writeItems (y :: ys) ++ rest)) hx (by omega)
        (ends_cons (by simp)))
      (readItems_writeItems (y :: ys) fuel rest (Bool.and_eq_true_iff.mp h).2
        (List.cons_ne_nil _ _) (by omega))

theorem readFields_writeFields : ∀ (fields : List (String × Document)) (fuel : Nat)
    (rest : List Char), fieldsExact fields = true → fields ≠ [] →
      (writeFields fields).length ≤ fuel + 1 →
        readFields (fuel + 1) (writeFields fields ++ rest) = some (fieldSources fields, rest)
  | [], _, _, _, h, _ => absurd rfl h
  | [(k, x)], fuel, rest, h, _, hfuel => by
    have hx : x.isExact = true := (Bool.and_eq_true_iff.mp h).1
    have hpos := length_writeChars_pos hx
    have hlength : (writeFields [(k, x)]).length =
        (stringChars k).length + x.writeChars.length + 2 := by
      simp [writeFields, writeMoreFields]
      omega
    have htext : writeFields [(k, x)] ++ rest =
        stringChars k ++ ':' :: (x.writeChars ++ '\x7d' :: rest) := by
      simp [writeFields, writeMoreFields]
    obtain ⟨fuel, rfl⟩ : ∃ n, fuel = n + 1 := ⟨fuel - 1, by omega⟩
    rw [htext]
    exact readFields_last
      (readValue_writeChars x fuel ('\x7d' :: rest) hx (by omega) (ends_cons (by simp)))
  | (k, x) :: (l, y) :: ys, fuel, rest, h, _, hfuel => by
    have hx : x.isExact = true := (Bool.and_eq_true_iff.mp h).1
    have hpos := length_writeChars_pos hx
    have hlength : (writeFields ((k, x) :: (l, y) :: ys)).length =
        (stringChars k).length + x.writeChars.length + (writeFields ((l, y) :: ys)).length + 2 := by
      simp [writeFields, writeMoreFields]
      omega
    have htext : writeFields ((k, x) :: (l, y) :: ys) ++ rest =
        stringChars k ++ ':' :: (x.writeChars ++ ',' :: (writeFields ((l, y) :: ys) ++ rest)) := by
      simp [writeFields, writeMoreFields]
    obtain ⟨fuel, rfl⟩ : ∃ n, fuel = n + 1 := ⟨fuel - 1, by omega⟩
    rw [htext]
    exact readFields_more
      (readValue_writeChars x fuel (',' :: (writeFields ((l, y) :: ys) ++ rest)) hx (by omega)
        (ends_cons (by simp)))
      (readFields_writeFields ((l, y) :: ys) fuel rest (Bool.and_eq_true_iff.mp h).2
        (List.cons_ne_nil _ _) (by omega))

end

/-- The text of a document without floating point numbers is read as its source. -/
theorem read?_write {d : Document} (hd : d.isExact = true) : read? d.write = some d.source := by
  have hread := readValue_writeChars d (2 * d.writeChars.length + 1) [] hd (by omega) ends_nil
  rw [List.append_nil] at hread
  rw [read?, write, String.toList_ofList, hread]
  rfl

end Source

namespace Document

end Document

/-- A document without floating point numbers that does not nest too deep is read from its text. -/
theorem OrderedDocument.read?_write {d : Document} (hd : d.isExact = true)
    (hnesting : d.nesting < Source.nestingLimit) : read? d.write = some (ofDocument d) := by
  have hlimit : Source.nestingLimit = 127 + 1 := rfl
  rw [read?, Source.read?_write hd, Option.bind_some, hlimit, Document.document?_source d 127 hd,
    if_pos (by omega)]
  rfl

end FluentSql
