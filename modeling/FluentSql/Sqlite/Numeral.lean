import FluentSql.Sqlite.RealText

/-!
# Numerals at the start of a text

A text stands for the number it starts with, spaces allowed in front. What follows the
number decides whether the text as a whole is a number, and points and exponents whether
it is an integer.
-/

namespace FluentSql.Sqlite

def isSpace (c : Char) : Bool :=
  c == ' ' || ('\t' ≤ c && c ≤ '\r')

/-- The parts of a text that is read as a number. -/
structure Numeral where
  negative : Bool
  whole : List Char
  /-- The digits behind the point, if there is a point. -/
  places : Option (List Char)
  /-- The sign and the digits behind an exponent mark, if there is one. -/
  exponent : Option (Bool × List Char)
  /-- What follows the number. -/
  rest : List Char

namespace Numeral

def readExponent : List Char → Option (Bool × List Char) × List Char
  | [] => (none, [])
  | c :: cs =>
    if RealText.isExponentMark c then
      let (negative, cs) := match cs with
        | '-' :: cs => (true, cs)
        | '+' :: cs => (false, cs)
        | cs => (false, cs)
      (some (negative, cs.takeWhile Integer.isDigit), cs.dropWhile Integer.isDigit)
    else (none, c :: cs)

/-- The number that characters start with; it may have no digits. -/
def read (cs : List Char) : Numeral :=
  let (negative, cs) := match cs.dropWhile isSpace with
    | '-' :: cs => (true, cs)
    | '+' :: cs => (false, cs)
    | cs => (false, cs)
  let (places, rest) := match cs.dropWhile Integer.isDigit with
    | '.' :: rest => (some (rest.takeWhile Integer.isDigit), rest.dropWhile Integer.isDigit)
    | rest => (none, rest)
  let (exponent, rest) := readExponent rest
  ⟨negative, cs.takeWhile Integer.isDigit, places, exponent, rest⟩

def hasDigits (n : Numeral) : Bool :=
  !n.whole.isEmpty || n.places.any (!·.isEmpty)

/-- An exponent has a digit, if there is one. -/
def hasValidExponent (n : Numeral) : Bool :=
  n.exponent.all fun (_, digits) => !digits.isEmpty

/-- Neither a point nor an exponent mark. -/
def isPlain (n : Numeral) : Bool :=
  n.places.isNone && n.exponent.isNone

/-- Nothing but spaces follows. -/
def endsText (n : Numeral) : Bool :=
  n.rest.all isSpace

/-- The text as a whole is a number. -/
def isWhole (n : Numeral) : Bool :=
  n.hasDigits && n.hasValidExponent && n.endsText

/-- The text starts with a number that has a point or an exponent, other text behind it. -/
def startsReal (n : Numeral) : Bool :=
  n.hasDigits && !n.isWhole && !n.isPlain &&
    (n.hasValidExponent || (n.places.isSome && n.exponent.isSome))

def toReal (n : Numeral) : Binary64 :=
  let size : Int := match n.exponent with
    | some (negative, digits) =>
      let size : Int := RealText.exponentSize digits
      if negative then -size else size
    | none => 0
  RealText.value n.negative n.whole (n.places.getD []) size

/-- The digits before a point or an exponent, with their sign. -/
def toInt (n : Numeral) : Int :=
  let size : Int := Integer.natOfDigits 0 n.whole
  if n.negative then -size else size

def fits (i : Int) : Bool :=
  -0x8000000000000000 ≤ i && i ≤ 0x7fffffffffffffff

/-- The integer nearest to `i` that has sixty-four bits. -/
def clamp (i : Int) : Int64 :=
  if fits i then Int64.ofInt i else if i < 0 then Int64.minValue else Int64.maxValue

end Numeral

end FluentSql.Sqlite
