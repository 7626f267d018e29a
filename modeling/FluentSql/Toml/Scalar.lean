import FluentSql.Document.Basic
import FluentSql.Toml.Moment
import FluentSql.Toml.Text

/-!
# Numbers in TOML

Integers have sixty-four bits; floating point numbers are rounded to nearest and must
not exceed the greatest one. A number may begin like a date or a time, which are tried
first.
-/

namespace FluentSql.Toml

/-- Digits with single underscores between them; yields the digits alone. -/
def digitRun (isDigit : Char → Bool) : List Char → Option (List Char × List Char)
  | [] => some ([], [])
  | c :: cs =>
    if isDigit c then (digitRun isDigit cs).map fun (ds, rest) => (c :: ds, rest)
    else if c = '_' then if cs.head?.any isDigit then digitRun isDigit cs else none
    else some ([], c :: cs)

/-- At least one digit. -/
def digits? (isDigit : Char → Bool) (cs : List Char) : Option (List Char × List Char) :=
  if cs.head?.any isDigit then digitRun isDigit cs else none

/-- A sign, if there is one: whether it is a minus sign, and what follows it. -/
def splitSign : List Char → Bool × List Char
  | '+' :: cs => (false, cs)
  | '-' :: cs => (true, cs)
  | cs => (false, cs)

/-- The digits of a decimal integer, which has no leading zeros. -/
def wholeDigits? (cs : List Char) : Option (List Char × List Char) :=
  match cs with
  | '0' :: rest => some (['0'], rest)
  | _ => digits? Integer.isDigit cs

def fits64 (i : Int) : Bool :=
  -0x8000000000000000 ≤ i && i < 0x8000000000000000

def integer? (i : Int) : Option Document :=
  if fits64 i then some (.ofInt64 (Int64.ofInt i)) else none

/-- The number written by `digits` in a base up to sixteen. -/
def natIn (base : Nat) (digits : List Char) : Nat :=
  digits.foldl (fun n c => base * n + (Source.hexValue? c).getD 0) 0

/-- An integer in a base of its own, behind the mark of the base. -/
def readBased (base : Nat) (cs : List Char) : Option (Document × List Char) := do
  let (digits, rest) ← digits? (fun c => (Source.hexValue? c).any (· < base)) cs
  return (← integer? (natIn base digits), rest)

/-- A fraction and an exponent, if they are there; otherwise nothing. -/
def readTail (cs : List Char) : Option ((List Char × Option (Bool × List Char)) × List Char) := do
  let (places, rest) ← match cs with
    | '.' :: rest => digits? Integer.isDigit rest
    | rest => some ([], rest)
  match rest with
  | e :: after =>
    if e = 'e' ∨ e = 'E' then
      let (down, after) := splitSign after
      let (power, rest) ← digits? Integer.isDigit after
      return ((places, some (down, power)), rest)
    else return ((places, none), rest)
  | [] => return ((places, none), rest)

/-- A decimal number: an integer unless it has a fraction or an exponent. -/
def readDecimal (cs : List Char) : Option (Document × List Char) := do
  let (negative, body) := splitSign cs
  let (whole, rest) ← wholeDigits? body
  let ((places, power), rest) ← readTail rest
  if places = [] ∧ power.isNone then
    let n : Int := Integer.natOfDigits 0 whole
    return (← integer? (if negative then -n else n), rest)
  else
    let shift : Int := match power with
      | some (true, ds) => -Integer.natOfDigits 0 ds
      | some (false, ds) => Integer.natOfDigits 0 ds
      | none => 0
    let x := Binary64.ofDecimal negative (Integer.natOfDigits 0 (whole ++ places))
      (shift - places.length)
    if x = .infinity false then none else return (.ofFloat x, rest)

/-- An integer or a floating point number. Infinities and NaN become null. -/
def readNumber (cs : List Char) : Option (Document × List Char) :=
  match cs with
  | '0' :: 'x' :: rest => readBased 16 rest
  | '0' :: 'o' :: rest => readBased 8 rest
  | '0' :: 'b' :: rest => readBased 2 rest
  | _ =>
    match (splitSign cs).2 with
    | 'i' :: 'n' :: 'f' :: rest => some (.null, rest)
    | 'n' :: 'a' :: 'n' :: rest => some (.null, rest)
    | _ => readDecimal cs

/-- A date, a time or a number. -/
def readNumeric (cs : List Char) : Option (Document × List Char) :=
  match readMoment cs with
  | some (moment, rest) => some (documentOfMoment moment, rest)
  | none => readNumber cs

end FluentSql.Toml
