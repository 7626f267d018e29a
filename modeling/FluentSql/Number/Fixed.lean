import FluentSql.Number.Binary64
import FluentSql.Number.Integer

/-!
# Fixed point decimals

A `FixedDecimal` is a signed mantissa of at most ninety-six bits with a scale of at
most twenty-eight decimal places. The scale is part of the text: `1234.50` keeps
both places.
-/

namespace FluentSql

/-- `± mantissa / 10 ^ scale`. -/
structure FixedDecimal where
  negative : Bool
  mantissa : Nat
  scale : Nat
  deriving DecidableEq, Inhabited

namespace FixedDecimal

def maxMantissa : Nat := twoTo 96 - 1

def maxScale : Nat := 28

def ofInt (i : Int) : FixedDecimal :=
  ⟨i < 0, i.natAbs, 0⟩

/-- The sign is dropped from a zero. -/
def make (negative : Bool) (mantissa scale : Nat) : FixedDecimal :=
  ⟨negative && mantissa != 0, mantissa, scale⟩

/-- All digits of the mantissa, with a point before the last `scale` of them. -/
def toText (d : FixedDecimal) : String :=
  let bare := if d.mantissa = 0 then [] else Nat.toDigits 10 d.mantissa
  let padded := List.replicate (d.scale - bare.length) '0' ++ bare
  let whole := padded.take (padded.length - d.scale)
  let places := padded.drop (padded.length - d.scale)
  let body := (if whole = [] then ['0'] else whole) ++
    if places = [] then [] else '.' :: places
  String.ofList (if d.negative then '-' :: body else body)

/-- The decimal as a server holds it: a zero has neither sign nor places. -/
def stored (d : FixedDecimal) : FixedDecimal :=
  if d.mantissa = 0 then ⟨false, 0, 0⟩ else d

/-- What may stand behind the last digit that fits. -/
def isSurplus (c : Char) : Bool :=
  Integer.isDigit c || c == '_'

/-- Rounds half up by the first character that no longer fits; an underscore counts as
zero. The rest only has to be digits and underscores. -/
def roundIn (negative : Bool) (mantissa scale : Nat) (next : Char) (rest : List Char) :
    Option FixedDecimal :=
  if (next :: rest).all isSurplus then
    let digit := if next = '_' then 0 else Integer.digitValue next
    if digit < 5 then some (make negative mantissa scale)
    else if mantissa + 1 ≤ maxMantissa then some (make negative (mantissa + 1) scale)
    else if scale = 0 then none
    else some (make negative ((mantissa + 5) / 10) (scale - 1))
  else none

/-- From here on the mantissa is held in more than one word. -/
def wordFull : Nat := 1844674407370954906

/-- What comes behind the last place: underscores are passed over, and the first character
behind them rounds. -/
def closeAt (negative : Bool) (mantissa scale : Nat) (cs : List Char) : Option FixedDecimal :=
  match cs.dropWhile (· == '_') with
  | [] => some (make negative mantissa scale)
  | next :: rest => roundIn negative mantissa scale next rest

/-- Reads on with a mantissa wider than a word. -/
def readWide (negative : Bool) : List Char → (mantissa scale : Nat) → (point : Bool) →
    Option FixedDecimal
  | [], m, s, _ => some (make negative m s)
  | c :: cs, m, s, point =>
    if Integer.isDigit c then
      let m' := 10 * m + Integer.digitValue c
      let s' := if point then s + 1 else s
      if maxMantissa < m' then if point then roundIn negative m s c cs else none
      else if point && maxScale ≤ s' then closeAt negative m' s' cs
      else readWide negative cs m' s' point
    else if c = '.' && !point then readWide negative cs m s true
    else if c = '_' then readWide negative cs m s point
    else none

/-- Reads on behind the sign while the mantissa fits a word. `seen` tells whether a digit
came, `point` whether the point came. -/
def readNarrow (negative : Bool) : List Char → (mantissa scale : Nat) → (seen point : Bool) →
    Option FixedDecimal
  | [], m, s, seen, _ => if seen then some (make negative m s) else none
  | c :: cs, m, s, seen, point =>
    if Integer.isDigit c then
      let m' := 10 * m + Integer.digitValue c
      let s' := if point then s + 1 else s
      match cs with
      | [] => some (make negative m' s')
      | next :: rest =>
        if point && maxScale ≤ s' then roundIn negative m' s' next rest
        else if wordFull ≤ m' then readWide negative (next :: rest) m' s' point
        else readNarrow negative (next :: rest) m' s' true point
    else if c = '.' && !point then readNarrow negative cs m s seen true
    else if c = '_' && seen then readNarrow negative cs m s seen point
    else none

/-- A sign, digits with underscores between them and at most one point. -/
def readPositional? : List Char → Option FixedDecimal
  | [] => none
  | '-' :: cs => readNarrow true cs 0 0 false false
  | '+' :: cs => readNarrow false cs 0 0 false false
  | cs => readNarrow false cs 0 0 false false

/-- The size of an exponent: digits behind an optional plus, at most `maxScale`. -/
def readExponent? (cs : List Char) : Option Nat :=
  let digits := match cs with
    | '+' :: ds => ds
    | ds => ds
  if digits.isEmpty || !digits.all Integer.isDigit then none
  else
    let n := Integer.natOfDigits 0 digits
    if n ≤ maxScale then some n else none

/-- The mantissa without its last `count` digits, half up by the first of them. -/
def dropDigits (count m : Nat) : Nat :=
  match count with
  | 0 => m
  | count + 1 => (m / tenTo count + 5) / 10

/-- The decimal divided by `10 ^ n`; places beyond the last one are rounded away. -/
def lower (d : FixedDecimal) (n : Nat) : FixedDecimal :=
  let excess := d.scale + n - maxScale
  make d.negative (dropDigits excess d.mantissa) (d.scale + n - excess)

/-- The decimal times `10 ^ n`, if it fits. -/
def raise? (d : FixedDecimal) (n : Nat) : Option FixedDecimal :=
  if n ≤ d.scale then some (make d.negative d.mantissa (d.scale - n))
  else
    let wide := d.mantissa * tenTo (n - d.scale)
    if wide ≤ maxMantissa then some (make d.negative wide 0) else none

/-- Whether a character stands before the exponent. -/
def isExponentMark (c : Char) : Bool :=
  c == 'e' || c == 'E'

/-- A positional decimal and behind the first mark the power of ten it is times. -/
def readScientific? (cs : List Char) : Option FixedDecimal :=
  match readPositional? (cs.takeWhile (!isExponentMark ·)),
      cs.dropWhile (!isExponentMark ·) with
  | some d, _ :: '-' :: exponent => (readExponent? exponent).map d.lower
  | some d, _ :: exponent => (readExponent? exponent).bind d.raise?
  | _, _ => none

/-- A decimal as it may be written, with or without an exponent. -/
def read? (s : String) : Option FixedDecimal :=
  (readPositional? s.toList).or (readScientific? s.toList)

/-- Multiplies by five, or halves where that would not fit, until `count` factors of
five are in; yields the mantissa and the power of ten that is left. -/
def raiseFives : Nat → Nat → Int → Nat × Int
  | 0, m, ten => (m, ten)
  | count + 1, m, ten =>
    if m % 2 = 0 then raiseFives count (m / 2) (ten + 1)
    else if m * 5 ≤ maxMantissa then raiseFives count (m * 5) ten
    else raiseFives count (m / 2) (ten + 1)

/-- The mantissa divided by ten, half up. -/
def dropPlace (m : Nat) : Nat :=
  (m + 5) / 10

/-- Drops `count` places; a mantissa that vanishes ends the loss and has no places. -/
def dropPlaces : Nat → Nat → Int → Nat × Int
  | 0, m, ten => (m, ten)
  | count + 1, m, ten =>
    if m / 10 = 0 then (0, 0) else dropPlaces count (dropPlace m) (ten + 1)

/-- Drops places while the mantissa needs more than fifty-two bits. -/
def shorten : Nat → Nat → Int → Nat × Int
  | 0, m, ten => (m, ten)
  | count + 1, m, ten =>
    if ten < 0 ∧ twoTo 52 ≤ m then shorten count (dropPlace m) (ten + 1) else (m, ten)

/-- Removes trailing zeros behind the point. -/
def stripPlaces : Nat → Nat → Int → Nat × Int
  | 0, m, ten => (m, ten)
  | count + 1, m, ten =>
    if ten < 0 ∧ m % 10 = 0 then stripPlaces count (m / 10) (ten + 1) else (m, ten)

/-- The decimal of a finite binary number: an integer exactly, another number to about
fifteen digits; `none` when it does not fit. -/
def ofBinary? (x : Binary64) : Option FixedDecimal :=
  if !x.isFinite then none
  else if x.isZero then some ⟨x.isNegative, 0, 0⟩
  else
    let two := x.exponent
    if 0 < two then
      let wide := x.significand * twoTo two.toNat
      if wide ≤ maxMantissa then some ⟨x.isNegative, wide, 0⟩ else none
    else
      let (m, ten) := raiseFives (-two).toNat x.significand two
      let (m, ten) := dropPlaces (-ten - maxScale).toNat m ten
      let (m, ten) := shorten maxScale m ten
      let (m, ten) := stripPlaces maxScale m ten
      some ⟨x.isNegative, m, (-ten).toNat⟩

end FixedDecimal

end FluentSql
