import FluentSql.Number.Binary64

/-!
# Numbers of extended precision

An `Extended` is a number that is not negative, with sixty-four significant bits and an
exponent of any size. Products are rounded to nearest, ties to the even significand, as
is the way back to double precision.
-/

namespace FluentSql

/-- The number `significand * 2 ^ exponent`. -/
structure Extended where
  significand : Nat
  exponent : Int
  deriving DecidableEq, Inhabited

namespace Extended

/-- The number nearest to `n * 2 ^ exponent`. -/
def round (n : Nat) (exponent : Int) : Extended :=
  let excess := Nat.log2 n - 63
  ⟨Binary64.roundHalfEven n (twoTo excess), exponent + excess⟩

def ofNat (n : Nat) : Extended :=
  round n 0

def mul (x y : Extended) : Extended :=
  round (x.significand * y.significand) (x.exponent + y.exponent)

/-- The number nearest to `1 / n`. -/
def reciprocal (n : Nat) : Extended :=
  let (m, q) := Binary64.roundTo 64 (-(Nat.log2 n + 64 : Nat)) 1 n
  ⟨m, q⟩

/-- The number nearest to the extended one in double precision. -/
def toBinary64 (negative : Bool) (x : Extended) : Binary64 :=
  if 0 ≤ x.exponent then
    Binary64.ofRatio negative (x.significand * twoTo x.exponent.toNat) 1
  else Binary64.ofRatio negative x.significand (twoTo (-x.exponent).toNat)

/-- Whether `x` is less than `y`. -/
def lt (x y : Extended) : Bool :=
  let least := min x.exponent y.exponent
  x.significand * twoTo (x.exponent - least).toNat <
    y.significand * twoTo (y.exponent - least).toNat

/-- The greatest natural that is not above `x`. -/
def floor (x : Extended) : Nat :=
  if 0 ≤ x.exponent then x.significand * twoTo x.exponent.toNat
  else x.significand / twoTo (-x.exponent).toNat

/-- `x * 10 ^ n`, in steps of a hundred places, of ten and of one. -/
def raise (x : Extended) (n : Nat) : Extended :=
  let x := Nat.repeat (mul (ofNat (tenTo 100))) (n / 100) x
  let x := Nat.repeat (mul (ofNat (tenTo 10))) (n % 100 / 10) x
  Nat.repeat (mul (ofNat 10)) (n % 10) x

/-- `x / 10 ^ n`, the divisors of the same steps being rounded first. -/
def lower (x : Extended) (n : Nat) : Extended :=
  let x := Nat.repeat (mul (reciprocal (tenTo 100))) (n / 100) x
  let x := Nat.repeat (mul (reciprocal (tenTo 10))) (n % 100 / 10) x
  Nat.repeat (mul (reciprocal 10)) (n % 10) x

end Extended

end FluentSql
