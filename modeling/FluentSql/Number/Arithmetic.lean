import FluentSql.Number.Binary64

/-!
# Arithmetic on binary numbers

Sums, products and quotients of double precision numbers: the exact outcome on rationals,
rounded once. Infinities and zeros follow the signs; an outcome without a meaning is NaN.
-/

namespace FluentSql.Binary64

def isInfinite (x : Binary64) : Bool :=
  x.exponentField == 2047 && x.fraction == 0

/-- The exact value of a finite number as a numerator over a positive denominator. -/
def toRational (x : Binary64) : Int × Nat :=
  let (num, den) := x.ratio
  (if x.isNegative then -(num : Int) else num, den)

/-- The number nearest to a quotient; a zero has the given sign. -/
def ofRational (zeroIsNegative : Bool) (num : Int) (den : Nat) : Binary64 :=
  if num = 0 then zero zeroIsNegative else ofRatio (num < 0) num.natAbs den

def plus (x y : Binary64) : Binary64 :=
  if x.isNaN || y.isNaN then nan
  else if x.isInfinite then if y.isInfinite && x.isNegative != y.isNegative then nan else x
  else if y.isInfinite then y
  else
    let (a, b) := x.toRational
    let (c, d) := y.toRational
    ofRational (x.isNegative && y.isNegative) (a * d + c * b) (b * d)

def minus (x y : Binary64) : Binary64 :=
  x.plus y.neg

def times (x y : Binary64) : Binary64 :=
  let negative := x.isNegative != y.isNegative
  if x.isNaN || y.isNaN then nan
  else if x.isInfinite || y.isInfinite then
    if x.isZero || y.isZero then nan else infinity negative
  else x.mul y

def dividedBy (x y : Binary64) : Binary64 :=
  let negative := x.isNegative != y.isNegative
  if x.isNaN || y.isNaN then nan
  else if x.isInfinite then if y.isInfinite then nan else infinity negative
  else if y.isInfinite then zero negative
  else if y.isZero then if x.isZero then nan else infinity negative
  else x.div y

/-- The order of the values of numbers that are no NaN. -/
def order (x y : Binary64) : Ordering :=
  let rank (z : Binary64) : Int :=
    if z.isInfinite then if z.isNegative then -1 else 1 else 0
  if x.isInfinite || y.isInfinite then compare (rank x) (rank y)
  else
    let (a, b) := x.toRational
    let (c, d) := y.toRational
    compare (a * d) (c * b)

/-- The integer part of a finite number. -/
def truncate (x : Binary64) : Int :=
  let (num, den) := x.ratio
  let size : Int := (num / den : Nat)
  if x.isNegative then -size else size

end FluentSql.Binary64
