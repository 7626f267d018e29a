import FluentSql.Document.Basic
import FluentSql.Number.Integer

/-!
# Reading documents

A `Source` is JSON text with its structure found but its leaves not yet judged:
numbers are kept as written and a string may hold a lone surrogate. Parts that
nobody asks for need only be well formed, so the judgement is left to `document?`,
which also bounds the nesting.
-/

namespace FluentSql

/-- A JSON number as written. -/
structure Numeral where
  negative : Bool
  whole : List Char
  places : List Char
  /-- Whether the exponent is negative, and its digits. -/
  exponent : Option (Bool × List Char)
  deriving Inhabited

inductive Source where
  | null
  | bool (b : Bool)
  | number (n : Numeral)
  /-- `none` when an escape does not make up a character. -/
  | string (s : Option String)
  | array (items : List Source)
  | object (fields : List (Option String × Source))
  deriving Inhabited

namespace Numeral

def wordMax : Nat := 0xffffffffffffffff

/-- Takes digits into a word until one no longer fits; yields the word and the count
of digits taken. -/
def takeDigits : Nat → Nat → List Char → Nat × Nat
  | word, taken, [] => (word, taken)
  | word, taken, c :: cs =>
    let next := 10 * word + Integer.digitValue c
    if next ≤ wordMax then takeDigits next (taken + 1) cs else (word, taken)

def powerOfTen (n : Nat) : Binary64 :=
  Binary64.ofRatio false (tenTo n) 1

/-- `x * 10 ^ exponent` in steps of at most 308 places; `none` when it is too large. -/
def scaleByTen : Nat → Binary64 → Int → Option Binary64
  | 0, x, _ => some x
  | fuel + 1, x, exponent =>
    if exponent.natAbs ≤ 308 then
      if 0 ≤ exponent then
        let y := x.mul (powerOfTen exponent.toNat)
        if y.isFinite then some y else none
      else some (x.div (powerOfTen exponent.natAbs))
    else if x.isZero then some x
    else if 0 ≤ exponent then none
    else scaleByTen fuel (x.div (powerOfTen 308)) (exponent + 308)

def signed (n : Numeral) (x : Binary64) : Binary64 :=
  if n.negative then x.neg else x

/-- The floating point value: the digits that fit a word, scaled by a power of ten. -/
def float? (n : Numeral) : Option Binary64 :=
  let (word, kept) := takeDigits 0 0 n.whole
  let (word, taken) := takeDigits word 0 n.places
  let start : Int := (n.whole.length : Int) - kept - taken
  let scaled (exponent : Int) := (scaleByTen 8 (Binary64.ofInt word) exponent).map n.signed
  match n.exponent with
  | none => scaled start
  | some (negative, digits) =>
    let e := Integer.natOfDigits 0 digits
    if e < 0x80000000 then scaled (if negative then start - e else start + e)
    else if word ≠ 0 ∧ !negative then none
    else some (Binary64.zero n.negative)

/-- The integer, if it is written as one and fits; a negative zero is no integer. -/
def integer? (n : Numeral) : Option Int :=
  if n.places ≠ [] ∨ n.exponent.isSome then none
  else
    let m := Integer.natOfDigits 0 n.whole
    if n.negative then if 0 < m ∧ m ≤ 0x8000000000000000 then some (-(m : Int)) else none
    else if m ≤ wordMax then some m else none

def document? (n : Numeral) : Option Document :=
  match n.integer? with
  | some i =>
    if h : -0x8000000000000000 ≤ i ∧ i < 0x10000000000000000 then some (.integer ⟨i, h⟩) else none
  | none => n.float?.map .float

end Numeral

namespace Source

/-- The characters that may stand between the parts of a document. -/
def isSpace (c : Char) : Bool :=
  c == ' ' || c == '\n' || c == '\t' || c == '\r'

def skipSpace (cs : List Char) : List Char :=
  cs.dropWhile isSpace

def hexValue? (c : Char) : Option Nat :=
  if '0' ≤ c ∧ c ≤ '9' then some (c.toNat - 48)
  else if 'a' ≤ c ∧ c ≤ 'f' then some (c.toNat - 87)
  else if 'A' ≤ c ∧ c ≤ 'F' then some (c.toNat - 55)
  else none

def hexUnit? (a b c d : Char) : Option Nat :=
  match hexValue? a, hexValue? b, hexValue? c, hexValue? d with
  | some w, some x, some y, some z => some (((w * 16 + x) * 16 + y) * 16 + z)
  | _, _, _, _ => none

def shortEscape? (c : Char) : Option Char :=
  if c = '"' ∨ c = '\\' ∨ c = '/' then some c
  else if c = 'b' then some '\x08'
  else if c = 'f' then some '\x0c'
  else if c = 'n' then some '\n'
  else if c = 'r' then some '\r'
  else if c = 't' then some '\t'
  else none

def isHighSurrogate (n : Nat) : Bool := 0xd800 ≤ n && n ≤ 0xdbff

def isLowSurrogate (n : Nat) : Bool := 0xdc00 ≤ n && n ≤ 0xdfff

/-- The content of a string, if it has one, and what follows the string. -/
abbrev StringRead := Option (Option (List Char) × List Char)

def StringRead.push (c : Char) (r : StringRead) : StringRead :=
  r.map fun (content, rest) => (content.map (c :: ·), rest)

def StringRead.spoil (r : StringRead) : StringRead :=
  r.map fun (_, rest) => (none, rest)

/-- A high surrogate that is not followed by its low half makes up no character. -/
def StringRead.after (pending : Option Nat) (r : StringRead) : StringRead :=
  if pending.isSome then r.spoil else r

/-- Reads a string up to its closing quote; `pending` is a high surrogate that was
just read. -/
def readString (pending : Option Nat) : List Char → StringRead
  | [] => none
  | c :: cs =>
    if c = '"' then StringRead.after pending (some (some [], cs))
    else if c ≠ '\\' then
      if c.toNat < 0x20 then none else ((readString none cs).push c).after pending
    else match cs with
      | [] => none
      | e :: cs =>
        if e ≠ 'u' then
          match shortEscape? e with
          | some d => ((readString none cs).push d).after pending
          | none => none
        else match cs with
          | a :: b :: c :: d :: cs =>
            match hexUnit? a b c d with
            | none => none
            | some n =>
              if isHighSurrogate n then (readString (some n) cs).after pending
              else if isLowSurrogate n then
                match pending with
                | some high => (readString none cs).push
                    (Char.ofNat (0x10000 + (high - 0xd800) * 0x400 + (n - 0xdc00)))
                | none => (readString none cs).spoil
              else ((readString none cs).push (Char.ofNat n)).after pending
          | _ => none

/-- Digits, a point with digits and an exponent, behind the sign. -/
def readNumeral (negative : Bool) (cs : List Char) : Option (Numeral × List Char) :=
  let whole := cs.takeWhile Integer.isDigit
  let rest := cs.dropWhile Integer.isDigit
  if whole = [] ∨ (whole.head? = some '0' ∧ whole.length ≠ 1) then none
  else
    let fraction : Option (List Char × List Char) := match rest with
      | '.' :: rest =>
        let places := rest.takeWhile Integer.isDigit
        if places = [] then none else some (places, rest.dropWhile Integer.isDigit)
      | rest => some ([], rest)
    match fraction with
    | none => none
    | some (places, rest) =>
      match rest with
      | e :: rest' =>
        if e = 'e' ∨ e = 'E' then
          let (down, digits) := match rest' with
            | '+' :: ds => (false, ds)
            | '-' :: ds => (true, ds)
            | ds => (false, ds)
          let power := digits.takeWhile Integer.isDigit
          if power = [] then none
          else some (⟨negative, whole, places, some (down, power)⟩,
            digits.dropWhile Integer.isDigit)
        else some (⟨negative, whole, places, none⟩, rest)
      | [] => some (⟨negative, whole, places, none⟩, [])

/-- A word of the grammar that stands at the front. -/
def readWord (word : List Char) (value : Source) (cs : List Char) :
    Option (Source × List Char) :=
  if cs.take word.length = word then some (value, cs.drop word.length) else none

mutual

/-- Reads one value behind the white space before it. -/
def readValue : Nat → List Char → Option (Source × List Char)
  | 0, _ => none
  | fuel + 1, cs =>
    match skipSpace cs with
    | [] => none
    | c :: rest =>
      if c = '"' then
        (readString none rest).map fun (s, rest) => (.string (s.map String.ofList), rest)
      else if c = '[' then
        match skipSpace rest with
        | ']' :: rest => some (.array [], rest)
        | rest => (readItems fuel rest).map fun (items, rest) => (.array items, rest)
      else if c = '\x7b' then
        match skipSpace rest with
        | '\x7d' :: rest => some (.object [], rest)
        | rest => (readFields fuel rest).map fun (fields, rest) => (.object fields, rest)
      else if c = '-' then (readNumeral true rest).map fun (n, rest) => (.number n, rest)
      else if Integer.isDigit c then
        (readNumeral false (c :: rest)).map fun (n, rest) => (.number n, rest)
      else if c = 'n' then readWord "null".toList .null (c :: rest)
      else if c = 't' then readWord "true".toList (.bool true) (c :: rest)
      else if c = 'f' then readWord "false".toList (.bool false) (c :: rest)
      else none

/-- Reads at least one item and the closing bracket. -/
def readItems : Nat → List Char → Option (List Source × List Char)
  | 0, _ => none
  | fuel + 1, cs =>
    match readValue fuel cs with
    | none => none
    | some (x, rest) =>
      match skipSpace rest with
      | ']' :: rest => some ([x], rest)
      | ',' :: rest => (readItems fuel rest).map fun (xs, rest) => (x :: xs, rest)
      | _ => none

/-- Reads at least one field and the closing brace. -/
def readFields : Nat → List Char → Option (List (Option String × Source) × List Char)
  | 0, _ => none
  | fuel + 1, cs =>
    match skipSpace cs with
    | '"' :: rest =>
      match readString none rest with
      | none => none
      | some (key, rest) =>
        match skipSpace rest with
        | ':' :: rest =>
          match readValue fuel rest with
          | none => none
          | some (x, rest) =>
            let field := (key.map String.ofList, x)
            match skipSpace rest with
            | '\x7d' :: rest => some ([field], rest)
            | ',' :: rest => (readFields fuel rest).map fun (xs, rest) => (field :: xs, rest)
            | _ => none
        | _ => none
    | _ => none

end

/-- Reads a whole text as one value. -/
def read? (text : String) : Option Source :=
  let cs := text.toList
  match readValue (2 * cs.length + 2) cs with
  | some (s, rest) => if skipSpace rest = [] then some s else none
  | none => none

mutual

/-- The document, if every leaf stands for a value and arrays and objects nest less
than `depth` deep. -/
def document? (depth : Nat) : Source → Option Document
  | .null => some .null
  | .bool b => some (.bool b)
  | .number n => n.document?
  | .string s => s.map .string
  | .array items => if depth ≤ 1 then none else (documents? (depth - 1) items).map .array
  | .object fields => if depth ≤ 1 then none else (fieldDocuments? (depth - 1) fields).map .object

def documents? (depth : Nat) : List Source → Option (List Document)
  | [] => some []
  | x :: xs =>
    match document? depth x, documents? depth xs with
    | some d, some ds => some (d :: ds)
    | _, _ => none

def fieldDocuments? (depth : Nat) :
    List (Option String × Source) → Option (List (String × Document))
  | [] => some []
  | (k, x) :: xs =>
    match k, document? depth x, fieldDocuments? depth xs with
    | some k, some d, some ds => some ((k, d) :: ds)
    | _, _, _ => none

end

/-- How deep arrays and objects may nest, less one. -/
def nestingLimit : Nat := 128

end Source

/-- Reads JSON text; the keys of every object are brought into order. -/
def OrderedDocument.read? (text : String) : Option OrderedDocument :=
  ((Source.read? text).bind (Source.document? Source.nestingLimit)).map OrderedDocument.ofDocument

end FluentSql
