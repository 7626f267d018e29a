import FluentSql.Number.Extended
import FluentSql.Number.Integer
import FluentSql.Text.Blank

/-!
# Numbers as text

How digits become a double precision number: they go into a word as long as they fit, what
follows them only counts places, and the word is scaled in extended precision. The outcome
may differ from the nearest number in its last bit. The way back gives fifteen significant
digits.
-/

namespace FluentSql.Sqlite.RealText

/-- A word from this size on takes no more digits. -/
def wordFull : Nat := 1844674407370955160

/-- A word below this size can be multiplied by ten. -/
def wordRoom : Nat := 1844674407370955161

/-- Appends digits to a word while it takes them, and counts those that are left. -/
def gather : Nat → List Char → Nat × Nat
  | word, [] => (word, 0)
  | word, c :: cs =>
    if word < wordFull then gather (10 * word + Integer.digitValue c) cs
    else (word, cs.length + 1)

/-- Multiplies the word by ten as long as it has room and places are left. -/
def takePlaces : Nat → Nat → Nat × Nat
  | word, 0 => (word, 0)
  | word, places + 1 =>
    if word < wordRoom then takePlaces (10 * word) places else (word, places + 1)

/-- Takes zeros off the end of the word as long as places are left. -/
def givePlaces : Nat → Nat → Nat × Nat
  | word, 0 => (word, 0)
  | word, places + 1 =>
    if word % 10 = 0 then givePlaces (word / 10) places else (word, places + 1)

/-- The word times a power of ten. -/
def scale (negative : Bool) (word : Nat) (exponent : Int) : Binary64 :=
  if word = 0 then Binary64.zero negative
  else if 0 ≤ exponent then
    let (word, places) := takePlaces word exponent.toNat
    ((Extended.ofNat word).raise places).toBinary64 negative
  else
    let (word, places) := givePlaces word (-exponent).toNat
    ((Extended.ofNat word).lower places).toBinary64 negative

/-- The size of an exponent; one of more than four digits is as good as any. -/
def exponentSize (digits : List Char) : Nat :=
  digits.foldl (fun n c => if n < 10000 then 10 * n + Integer.digitValue c else 10000) 0

/-- The number of the digits before and behind the point and the exponent. -/
def value (negative : Bool) (whole places : List Char) (exponent : Int) : Binary64 :=
  let (word, left) := gather 0 whole
  let (word, dropped) := gather word places
  scale negative word (exponent + left - (places.length - dropped : Nat))

def isExponentMark (c : Char) : Bool :=
  c == 'e' || c == 'E'

/-- The digits of a number that is positive, the point standing behind the first `point`
of them. -/
structure Digits where
  digits : List Char
  point : Int

namespace Digits

/-- Multiplies while a condition holds, at most `fuel` times; every factor counts `step`. -/
def scaleWhile (more : Extended → Bool) (factor : Extended) (step : Int) :
    Nat → Extended × Int → Extended × Int
  | 0, x => x
  | fuel + 1, (x, exponent) =>
    if more x then scaleWhile more factor step fuel (x.mul factor, exponent + step)
    else (x, exponent)

/-- Brings a number between `10 ^ 17` and `10 ^ 19`, in steps of a hundred places, of ten and
of one. -/
def normalize (x : Extended) : Extended × Int :=
  let power (n : Nat) := Extended.ofNat (tenTo n)
  if !x.lt (power 19) then
    let down (n : Nat) (x : Extended × Int) :=
      scaleWhile (fun x => !x.lt (power (19 + n))) (Extended.reciprocal (tenTo n)) n 10 x
    let last := scaleWhile (fun x => !x.lt (power 19)) (Extended.reciprocal 10) 1 20
    last (down 10 (down 100 (x, 0)))
  else
    let up (least : Extended) (n : Nat) (x : Extended × Int) :=
      scaleWhile (·.lt least) (power n) (-n) 20 x
    up (power 17) 1 (up (power 7) 10 (up (Extended.reciprocal (tenTo 97)) 100 (x, 0)))

/-- About eighteen digits, the rest being cut off. -/
def ofReal (x : Binary64) : Digits :=
  let (scaled, exponent) := normalize ⟨x.significand, x.exponent⟩
  let digits := Nat.toDigits 10 scaled.floor
  ⟨digits, digits.length + exponent⟩

/-- The first `count` digits, the next digit rounding half up. -/
def roundTo (count : Nat) (d : Digits) : Digits :=
  if count < d.digits.length then
    let kept := Integer.natOfDigits 0 (d.digits.take (count + 1))
    let digits := Nat.toDigits 10 ((kept + 5) / 10)
    ⟨digits, d.point + digits.length - count⟩
  else d

/-- Positional notation with a number of places. -/
def positional (places : Nat) (d : Digits) : List Char :=
  let before := d.point.toNat
  let whole := d.digits.take before ++ List.replicate (before - d.digits.length) '0'
  let behind := List.replicate (-d.point).toNat '0' ++ d.digits.drop before
  (if before = 0 then ['0'] else whole) ++
    '.' :: (behind ++ List.replicate places '0').take places

/-- Removes zeros from the end, but not the first place. -/
def stripPlaces (cs : List Char) : List Char :=
  match Text.dropTail (· == '0') cs with
  | [] => []
  | cs => if cs.getLast? = some '.' then cs ++ ['0'] else cs

/-- At least two digits. -/
def exponentDigits (n : Nat) : List Char :=
  if n < 10 then '0' :: Nat.toDigits 10 n else Nat.toDigits 10 n

end Digits

/-- The number of significant digits of a text. -/
def usualDigits : Nat := 15

/-- Fifteen significant digits without zeros at the end; positional from `1e-4` up to below
`1e15`. -/
def magnitude (x : Binary64) : List Char :=
  let d := (Digits.ofReal x).roundTo usualDigits
  let lead := d.point - 1
  if -4 ≤ lead ∧ lead < usualDigits then
    Digits.stripPlaces (d.positional (usualDigits - 1 - lead).toNat)
  else
    Digits.stripPlaces ((⟨d.digits, 1⟩ : Digits).positional (usualDigits - 1)) ++
      'e' :: (if lead < 0 then '-' else '+') :: Digits.exponentDigits lead.natAbs

/-- The text of a number. -/
def write (x : Binary64) : String :=
  if x.isZero then "0.0"
  else
    let body := if x.isFinite then magnitude x else "Inf".toList
    String.ofList (if x.isNegative then '-' :: body else body)

end FluentSql.Sqlite.RealText
