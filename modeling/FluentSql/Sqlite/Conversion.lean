import FluentSql.Number.Arithmetic
import FluentSql.Sqlite.Cell
import FluentSql.Text.Utf8

/-!
# Conversions of cells

A cell can be taken as a number, an integer, a truth value or a text, and a column or a
cast may prefer one of them. NULL is none of these.
-/

namespace FluentSql.Sqlite

/-- What a column or a cast prefers its cells to be. -/
inductive Affinity where
  | blob
  | text
  | numeric
  | integer
  | real
  deriving DecidableEq

namespace Cell

def isNull : Cell → Bool
  | null => true
  | _ => false

/-- The number that a text or blob starts with. -/
def numeral : Cell → Numeral
  | text s => Numeral.read s.toList
  | blob b => Numeral.read (b.map fun n => Char.ofNat n.toNat)
  | _ => Numeral.read []

/-- A number as a cell: an integer unless it has a point or an exponent or does not fit. A
mark without its exponent, at the end or before other text, does not count. -/
def ofNumeral (n : Numeral) : Cell :=
  if Numeral.fits n.toInt && !n.startsReal && (n.isPlain || !n.isWhole) then
    integer (Int64.ofInt n.toInt)
  else real n.toReal

/-- The number that arithmetic takes a cell for. -/
def toNumber : Cell → Cell
  | text s => ofNumeral (text s).numeral
  | blob b => ofNumeral (blob b).numeral
  | c => c

/-- The integer part of a number, within bounds. -/
def ofReal (x : Binary64) : Int64 :=
  if x.isInfinite then if x.isNegative then Int64.minValue else Int64.maxValue
  else Numeral.clamp x.truncate

def toInteger : Cell → Int64
  | null => 0
  | integer i => i
  | real x => ofReal x
  | c => Numeral.clamp c.numeral.toInt

def toReal : Cell → Binary64
  | null => Binary64.zero false
  | integer i => Binary64.ofInt i.toInt
  | real x => x
  | c => c.numeral.toReal

/-- A real outcome; NaN is no number. -/
def ofOutcome (x : Binary64) : Cell :=
  if x.isNaN then null else real x

def ofTruth (b : Bool) : Cell :=
  integer (if b then 1 else 0)

def ofTruth? : Option Bool → Cell
  | some b => ofTruth b
  | none => null

/-- Whether a cell counts as true: a number other than zero. -/
def toTruth? : Cell → Option Bool
  | null => none
  | integer i => some (i != 0)
  | c => some (!c.toReal.isZero)

def toText? : Cell → Option String
  | null => none
  | integer i => some (Value.intText i)
  | real x => some (RealText.write x)
  | text s => some s
  | blob b => some (Text.ofBytes b)

/-- The characters of the text, up to a NUL. -/
def textChars (c : Cell) : List Char :=
  (c.toText?.getD "").toList.takeWhile (· != '\x00')

def toBytes : Cell → List UInt8
  | blob b => b
  | c => Text.toBytes (c.toText?.getD "")

/-- A text that is a number becomes one. -/
def preferNumber : Cell → Cell
  | text s => (ofNumber? s).getD (text s)
  | c => c

/-- A number becomes a text. -/
def preferText : Cell → Cell
  | integer i => text (Value.intText i)
  | real x => text (RealText.write x)
  | c => c

/-- A number that is an integer of moderate size becomes one. -/
def preferInteger : Cell → Cell
  | real x =>
    match x.toInteger? with
    | some i =>
      if -2251799813685248 ≤ i && i < 2251799813685248 then integer i else real x
    | none => real x
  | c => c

/-- A text or blob becomes the number it starts with, an integer if it can be one. -/
def castNumeric : Cell → Cell
  | text s => preferInteger (text s).toNumber
  | blob b => preferInteger (blob b).toNumber
  | c => c

/-- A cell brought into the form that a type name asks for. -/
def cast : Affinity → Cell → Cell
  | _, null => null
  | .blob, c => blob c.toBytes
  | .text, c => text (c.toText?.getD "")
  | .numeric, c => c.castNumeric
  | .integer, c => integer c.toInteger
  | .real, c => real c.toReal

end Cell

end FluentSql.Sqlite
