import FluentSql.Number.Shortest

/-!
# Number layouts

How the digits of a number are laid out: which exponents are written in positional
notation, whether a fraction digit is kept, and how an exponent is marked.
-/

namespace FluentSql

/-- The decisions of one way to write floating point numbers. -/
structure NumberLayout where
  /-- Least and greatest exponent of the first digit in positional notation. -/
  positional : Option (Int × Int)
  /-- Keep `.0` behind a whole number. -/
  keepFraction : Bool
  /-- Write a plus sign before an exponent that is not negative. -/
  plusExponent : Bool
  /-- Of two equally close shortest decimals take the greater, else the even one. -/
  tieUp : Bool
  deriving DecidableEq

namespace NumberLayout

/-- Always positional, whole numbers without a fraction. -/
def plain : NumberLayout := ⟨none, false, false, true⟩

/-- Positional from `1e-4` up to below `1e16`, whole numbers with `.0`. -/
def diagnostic : NumberLayout := ⟨some (-4, 15), true, false, true⟩

/-- Positional from `1e-5` up to below `1e16`, whole numbers with `.0`, signed
exponents. -/
def document : NumberLayout := ⟨some (-5, 15), true, true, false⟩

/-- Positional notation of `digits`, the first of them standing for `10 ^ lead`. -/
def positionalText (keepFraction : Bool) (digits : List Char) (lead : Int) : List Char :=
  if lead < 0 then '0' :: '.' :: List.replicate (-lead - 1).toNat '0' ++ digits
  else
    let whole := lead.toNat + 1
    if digits.length ≤ whole then
      digits ++ List.replicate (whole - digits.length) '0' ++
        if keepFraction then ['.', '0'] else []
    else digits.take whole ++ '.' :: digits.drop whole

/-- Scientific notation of `digits`. -/
def exponentText (plus : Bool) (digits : List Char) (lead : Int) : List Char :=
  let mantissa := match digits with
    | d :: e :: rest => d :: '.' :: e :: rest
    | short => short
  let sign := if lead < 0 then ['-'] else if plus then ['+'] else []
  mantissa ++ 'e' :: sign ++ Nat.toDigits 10 lead.natAbs

/-- A number that is finite, without its sign. -/
def magnitude (layout : NumberLayout) (x : Binary64) : List Char :=
  if x.isZero then positionalText layout.keepFraction ['0'] 0
  else
    let d := x.shortest layout.tieUp
    let digits := d.digitChars
    let lead : Int := d.exponent + digits.length - 1
    if layout.positional.all fun (least, greatest) => least ≤ lead && lead ≤ greatest then
      positionalText layout.keepFraction digits lead
    else exponentText layout.plusExponent digits lead

/-- The text of a number. -/
def write (layout : NumberLayout) (x : Binary64) : String :=
  if x.isNaN then "NaN"
  else
    let body := if x.isFinite then layout.magnitude x else "inf".toList
    String.ofList (if x.isNegative then '-' :: body else body)

end NumberLayout

end FluentSql
