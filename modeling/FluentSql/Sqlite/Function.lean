import FluentSql.Sqlite.Hexadecimal
import FluentSql.Sqlite.Operator
import FluentSql.Sqlite.Pattern
import FluentSql.Sqlite.Table

/-!
# Functions of expressions

The functions that an expression may call. Most of them give NULL if an argument is NULL.
The few calls that fail at run time have no outcome.
-/

namespace FluentSql.Sqlite

/-- What terms can ask of the engine. -/
structure Scene where
  tables : List Table
  /-- How many rows the last insert, update or delete changed. -/
  changes : Nat
  /-- The key of the row inserted last. -/
  lastKey : Int64

inductive Function where
  | abs
  | changes
  | characters
  | coalesce
  | concat
  | concatWith
  | glob
  | hex
  | identity
  | instr
  | lastKey
  | length
  | like
  | lower
  | greatest
  | least
  | nullIf
  | octetLength
  | quote
  | replace
  | round
  | sign
  | substring
  | trim (left right : Bool)
  | typeName
  | unhex
  | unicode
  | upper
  | version
  | zeros
  deriving DecidableEq

namespace Function

/-- The function of a name that takes a number of arguments. -/
def named? (name : String) (count : Nat) : Option Function :=
  let exactly (n : Nat) (f : Function) := if count = n then some f else none
  let between (low high : Nat) (f : Function) :=
    if low ≤ count ∧ count ≤ high then some f else none
  let atLeast (n : Nat) (f : Function) := if n ≤ count then some f else none
  match name with
  | "abs" => exactly 1 abs
  | "changes" => exactly 0 changes
  | "char" => some characters
  | "coalesce" => atLeast 2 coalesce
  | "concat" => atLeast 1 concat
  | "concat_ws" => atLeast 2 concatWith
  | "glob" => exactly 2 glob
  | "hex" => exactly 1 hex
  | "ifnull" => exactly 2 coalesce
  | "instr" => exactly 2 instr
  | "last_insert_rowid" => exactly 0 lastKey
  | "length" => exactly 1 length
  | "like" => between 2 3 like
  | "likelihood" => exactly 2 identity
  | "likely" => exactly 1 identity
  | "lower" => exactly 1 lower
  | "ltrim" => between 1 2 (trim true false)
  | "max" => atLeast 2 greatest
  | "min" => atLeast 2 least
  | "nullif" => exactly 2 nullIf
  | "octet_length" => exactly 1 octetLength
  | "quote" => exactly 1 quote
  | "replace" => exactly 3 replace
  | "round" => between 1 2 round
  | "rtrim" => between 1 2 (trim false true)
  | "sign" => exactly 1 sign
  | "sqlite_version" => exactly 0 version
  | "substr" => between 2 3 substring
  | "substring" => between 2 3 substring
  | "trim" => between 1 2 (trim true true)
  | "typeof" => exactly 1 typeName
  | "unhex" => between 1 2 unhex
  | "unicode" => exactly 1 unicode
  | "unlikely" => exactly 1 identity
  | "upper" => exactly 1 upper
  | "zeroblob" => exactly 1 zeros
  | _ => none

def naturalCell (n : Nat) : Cell :=
  .integer (Int64.ofNat n)

def charsCell (cs : List Char) : Cell :=
  .text (String.ofList cs)

/-- An integer of thirty-two bits. -/
def toSmall (c : Cell) : Int :=
  Int.bmod c.toInteger.toInt 0x100000000

/-- The absolute value; the least integer has none. -/
def applyAbs : Cell → Option Cell
  | .null => some .null
  | .integer i => if i = Int64.minValue then none else some (.integer (if i < 0 then -i else i))
  | c =>
    let x := c.toReal
    some (.real (if x.isNegative && !x.isZero then x.neg else x))

def applyLength : Cell → Cell
  | .null => .null
  | .blob b => naturalCell b.length
  | c => naturalCell c.textChars.length

def applyType : Cell → Cell
  | .null => .text "null"
  | .integer _ => .text "integer"
  | .real _ => .text "real"
  | .text _ => .text "text"
  | .blob _ => .text "blob"

/-- The part of `items` at a position from one on, counted from the end if it is negative;
a negative length takes what stands before. -/
def slice {α : Type} (position : Int) (size? : Option Int) (items : List α) : List α :=
  let length : Int := items.length
  let size : Int := (size?.getD 1000000000).natAbs
  let (start, size) : Int × Int :=
    if position < 0 then
      let start := position + length
      if start < 0 then (0, max 0 (size + start)) else (start, size)
    else if 0 < position then (position - 1, size)
    else (0, if 0 < size then size - 1 else size)
  let (start, size) : Int × Int :=
    if size?.any (· < 0) then
      if start < size then (0, start) else (start - size, size)
    else (start, size)
  (items.drop start.toNat).take size.toNat

/-- A part of a text or of bytes; of no bytes there is none. -/
def applySubstring (c position : Cell) (size? : Option Cell) : Cell :=
  if c.isNull || position.isNull || size?.any Cell.isNull then .null
  else
    let size? := size?.map toSmall
    match c with
    | .blob [] => .null
    | .blob b => .blob (slice (toSmall position) size? b)
    | c => charsCell (slice (toSmall position) size? c.textChars)

/-- The position of the first occurrence, from `index` on; zero if there is none. -/
def position {α : Type} [BEq α] (part : List α) (index : Nat) : List α → Nat
  | [] => if part.isEmpty then index else 0
  | c :: cs => if part.isPrefixOf (c :: cs) then index else position part (index + 1) cs

def applyInstr : Cell → Cell → Cell
  | .null, _ | _, .null => .null
  | .blob a, .blob b => naturalCell (position b 1 a)
  | a, b => naturalCell (position (b.toText?.getD "").toList 1 (a.toText?.getD "").toList)

/-- Every occurrence of a part that is not empty replaced; `skip` more characters belong to
the last occurrence. -/
def replaceAll (part other : List Char) (skip : Nat) : List Char → List Char
  | [] => []
  | c :: cs =>
    match skip with
    | skip + 1 => replaceAll part other skip cs
    | 0 =>
      if part.isPrefixOf (c :: cs) then other ++ replaceAll part other (part.length - 1) cs
      else c :: replaceAll part other 0 cs

def applyReplace (c part other : Cell) : Cell :=
  let chars (c : Cell) := (c.toText?.getD "").toList
  if c.isNull || part.isNull then .null
  else if part.textChars.isEmpty then charsCell (chars c)
  else if other.isNull then .null
  else charsCell (replaceAll (chars part) (chars other) 0 (chars c))

def applyTrim (left right : Bool) (members : List Char) (cs : List Char) : List Char :=
  let cs := if left then cs.dropWhile members.contains else cs
  if right then Text.dropTail members.contains cs else cs

/-- A number with its places rounded half up; beyond 2 ^ 52 there are none. A zero loses its
sign. -/
def roundReal (places : Nat) (x : Binary64) : Binary64 :=
  let bound : Binary64 := Binary64.ofInt 4503599627370496
  let half : Binary64 := Binary64.ofRatio x.isNegative 1 2
  if x.isZero then Binary64.zero false
  else if x.order bound == .gt || x.order bound.neg == .lt then x
  else if places = 0 then Binary64.ofInt (x.plus half).truncate
  else
    let d := RealText.Digits.ofReal x
    let count := (d.point + places).toNat
    let d := if count = 0 ∧ (d.point + places < 0 ∨ d.digits.head?.any (· < '5')) then d
      else d.roundTo count
    let body := d.positional places
    (Numeral.read (if x.isNegative then '-' :: body else body)).toReal

def applyRound (c : Cell) (places? : Option Cell) : Cell :=
  if c.isNull || places?.any Cell.isNull then .null
  else
    let places := min 30 ((places?.map toSmall).getD 0).toNat
    .real (roundReal places c.toReal)

def applySign (c : Cell) : Cell :=
  match c.preferNumber with
  | .integer i => .integer (if i < 0 then -1 else if 0 < i then 1 else 0)
  | .real x => .integer (if x.isZero then 0 else if x.isNegative then -1 else 1)
  | _ => .null

/-- Twenty-one significant digits with an exponent. -/
def scientific (x : Binary64) : List Char :=
  let d := RealText.Digits.ofReal x
  let lead := d.point - 1
  (if x.isNegative then ['-'] else []) ++
    RealText.Digits.stripPlaces ((⟨d.digits, 1⟩ : RealText.Digits).positional 20) ++
    'e' :: (if lead < 0 then '-' else '+') :: RealText.Digits.exponentDigits lead.natAbs

/-- A literal for a cell; a number that fifteen digits do not give back has more of them. -/
def applyQuote : Cell → Cell
  | .null => .text "NULL"
  | .integer i => .text (Value.intText i)
  | .real x =>
    let usual := RealText.write x
    if x.isInfinite then .text (if x.isNegative then "-9.0e+999" else "9.0e+999")
    else if (Numeral.read usual.toList).toReal != x && !x.isZero then
      charsCell (scientific x)
    else .text usual
  | .text s =>
    charsCell ('\'' :: ((Cell.text s).textChars.flatMap fun c =>
      if c = '\'' then ['\'', '\''] else [c]) ++ ['\''])
  | .blob b => charsCell ('X' :: '\'' :: Hexadecimal.write b ++ ['\''])

/-- The bytes of pairs of digits; between the pairs may stand ignored characters. -/
def readHex (ignored : List Char) : List Char → Option (List UInt8)
  | [] => some []
  | [c] => if ignored.contains c && !Hexadecimal.isDigit c then some [] else none
  | c :: d :: cs =>
    if Hexadecimal.isDigit c then
      if Hexadecimal.isDigit d then (readHex ignored cs).map (Hexadecimal.byte c d :: ·)
      else none
    else if ignored.contains c then readHex ignored (d :: cs)
    else none

def applyUnhex (c : Cell) (ignored : List Char) : Cell :=
  match readHex ignored c.textChars with
  | some bytes => .blob bytes
  | none => .null

/-- A code point that is none counts as the replacement character. -/
def charOf (c : Cell) : Char :=
  let n := c.toInteger.toInt
  if 0 ≤ n ∧ n ≤ 0x10ffff then
    if 0xd800 ≤ n ∧ n ≤ 0xdfff then Text.replacement else Char.ofNat n.toNat
  else Text.replacement

/-- Whether a text matches a pattern of the first kind. An escape is one character. -/
def applyLike (pattern c : Cell) (escape? : Option Cell) : Option Cell :=
  match escape? with
  | some .null => some .null
  | some e =>
    match e.textChars with
    | [d] => some (outcome (some d))
    | _ => if pattern.isNull && c.isNull then some .null else none
  | none => some (outcome none)
where
  outcome (escape : Option Char) : Cell :=
    if pattern.isNull || c.isNull then .null
    else .ofTruth (Pattern.isMatch true (Pattern.ofLike escape pattern.textChars) c.textChars)

def applyGlob (pattern c : Cell) : Cell :=
  if pattern.isNull || c.isNull then .null
  else .ofTruth (Pattern.isMatch false (Pattern.ofGlob pattern.textChars) c.textChars)

/-- The greatest of cells, of equal ones the first; NULL if one of them is. -/
def greatestOf : List Cell → Cell
  | [] => .null
  | [c] => c
  | c :: d :: cs =>
    let best := greatestOf (d :: cs)
    if c.isNull || best.isNull then .null
    else if Cell.order .binary c best == .lt then best else c

/-- The least of cells, of equal ones the last; NULL if one of them is. -/
def leastOf : List Cell → Cell
  | [] => .null
  | [c] => c
  | c :: d :: cs =>
    let best := leastOf (d :: cs)
    if c.isNull || best.isNull then .null
    else if Cell.order .binary c best == .lt then c else best

/-- A text from a text; NULL from NULL. -/
def onText (f : List Char → List Char) : Cell → Cell
  | .null => .null
  | c => charsCell (f (c.toText?.getD "").toList)

/-- The outcome of a call, if it does not fail. -/
def apply (scene : Scene) : Function → List Cell → Option Cell
  | abs, [c] => applyAbs c
  | changes, _ => some (naturalCell scene.changes)
  | characters, cs => some (charsCell (cs.map charOf))
  | coalesce, cs => some ((cs.find? fun c => !c.isNull).getD .null)
  | concat, cs => some (.text (Text.concat (cs.filterMap Cell.toText?)))
  | concatWith, separator :: cs =>
    some (match separator.toText? with
      | some s => .text (Text.joinWith s ((cs.filterMap Cell.toText?).filter (· != "")))
      | none => .null)
  | glob, [pattern, c] => some (applyGlob pattern c)
  | hex, [c] => some (charsCell (Hexadecimal.write c.toBytes))
  | identity, c :: _ => some c
  | instr, [c, part] => some (applyInstr c part)
  | lastKey, _ => some (.integer scene.lastKey)
  | length, [c] => some (applyLength c)
  | like, [pattern, c] => applyLike pattern c none
  | like, [pattern, c, escape] => applyLike pattern c (some escape)
  | lower, [c] => some (onText (·.map Char.toLower) c)
  | upper, [c] => some (onText (·.map Char.toUpper) c)
  | greatest, cs => some (greatestOf cs)
  | least, cs => some (leastOf cs)
  | nullIf, [c, d] => some (if Cell.order .binary c d == .eq then .null else c)
  | octetLength, [c] => some (if c.isNull then .null else naturalCell c.toBytes.length)
  | quote, [c] => some (applyQuote c)
  | replace, [c, part, other] => some (applyReplace c part other)
  | round, [c] => some (applyRound c none)
  | round, [c, places] => some (applyRound c (some places))
  | sign, [c] => some (applySign c)
  | substring, [c, position] => some (applySubstring c position none)
  | substring, [c, position, size] => some (applySubstring c position (some size))
  | trim left right, [c] => some (onText (applyTrim left right [' ']) c)
  | trim left right, [c, members] =>
    some (match members.toText? with
      | some s => onText (applyTrim left right s.toList) c
      | none => .null)
  | typeName, [c] => some (applyType c)
  | unhex, [c] => some (if c.isNull then .null else applyUnhex c [])
  | unhex, [c, ignored] =>
    some (if c.isNull || ignored.isNull then .null else applyUnhex c ignored.textChars)
  | unicode, [c] =>
    some (match c.textChars with
      | d :: _ => naturalCell d.toNat
      | [] => .null)
  | version, _ => some (.text "3.46.0")
  | zeros, [c] =>
    let n := c.toInteger.toInt
    if n ≤ 1000000000 then some (.blob (List.replicate n.toNat 0)) else none
  | _, _ => none

end Function

end FluentSql.Sqlite
