import FluentSql.Number.Power

/-!
# Binary floating point numbers

A `Binary64` is the sixty-four bits of a double precision number; a finite one
stands for `significand * 2 ^ exponent` with a sign. Numbers are made by rounding
an exact quotient of naturals to nearest, ties to the even significand. Two
numbers are the same value by `eqv`: the zeros agree and no NaN equals anything.
-/

namespace FluentSql

/-- The bits of a double precision number. -/
structure Binary64 where
  bits : UInt64
  deriving DecidableEq, Inhabited

namespace Binary64

def isNegative (x : Binary64) : Bool :=
  x.bits.toNat / twoTo 63 == 1

def exponentField (x : Binary64) : Nat :=
  x.bits.toNat / twoTo 52 % twoTo 11

def fraction (x : Binary64) : Nat :=
  x.bits.toNat % twoTo 52

def isNaN (x : Binary64) : Bool :=
  x.exponentField == 2047 && x.fraction != 0

def isFinite (x : Binary64) : Bool :=
  x.exponentField != 2047

def significand (x : Binary64) : Nat :=
  if x.exponentField = 0 then x.fraction else twoTo 52 + x.fraction

def exponent (x : Binary64) : Int :=
  max (x.exponentField : Int) 1 - 1075

def isZero (x : Binary64) : Bool :=
  x.exponentField == 0 && x.fraction == 0

def nan : Binary64 := ⟨0x7ff8000000000000⟩

def zero (negative : Bool) : Binary64 :=
  ⟨if negative then 0x8000000000000000 else 0⟩

def infinity (negative : Bool) : Binary64 :=
  ⟨if negative then 0xfff0000000000000 else 0x7ff0000000000000⟩

def neg (x : Binary64) : Binary64 :=
  ⟨x.bits ^^^ 0x8000000000000000⟩

/-- Equality of values: `-0 = 0`, and a NaN differs from itself. -/
def eqv (x y : Binary64) : Bool :=
  !x.isNaN && !y.isNaN && (x.bits == y.bits || (x.isZero && y.isZero))

/-- The absolute value of a finite number as a quotient. -/
def ratio (x : Binary64) : Nat × Nat :=
  if 0 ≤ x.exponent then (x.significand * twoTo x.exponent.toNat, 1)
  else (x.significand, twoTo (-x.exponent).toNat)

/-- The nearest natural to `num / den`, ties to even. -/
def roundHalfEven (num den : Nat) : Nat :=
  let q := num / den
  let r := num % den
  if 2 * r < den then q
  else if den < 2 * r then q + 1
  else q + q % 2

/-- The greatest `k` with `2 ^ k ≤ num / den`. -/
def floorLog2 (num den : Nat) : Int :=
  let k : Int := (Nat.log2 num : Int) - (Nat.log2 den : Int)
  let reached := if 0 ≤ k then den * twoTo k.toNat ≤ num else den ≤ num * twoTo (-k).toNat
  if reached then k else k - 1

/-- The significand and exponent of `num / den` rounded to `precision` bits, no
exponent below `least`. -/
def roundTo (precision : Nat) (least : Int) (num den : Nat) : Nat × Int :=
  let q := max least (floorLog2 num den - (precision - 1 : Nat))
  if 0 ≤ q then (roundHalfEven num (den * twoTo q.toNat), q)
  else (roundHalfEven (num * twoTo (-q).toNat) den, q)

/-- The number nearest to `num / den`; infinity when that is out of range. -/
def ofRatio (negative : Bool) (num den : Nat) : Binary64 :=
  if num = 0 then zero negative
  else
    let (m, q) := roundTo 53 (-1074) num den
    let field := (q + 1074).toNat * twoTo 52 + m
    if 2047 * twoTo 52 ≤ field then infinity negative
    else ⟨UInt64.ofNat (field + if negative then twoTo 63 else 0)⟩

def ofInt (i : Int) : Binary64 :=
  ofRatio (i < 0) i.natAbs 1

/-- The single precision number nearest to `num / den`, held in double precision. -/
def ofRatioSingle (negative : Bool) (num den : Nat) : Binary64 :=
  if num = 0 then zero negative
  else
    let (m, q) := roundTo 24 (-149) num den
    if twoTo 128 ≤ m * twoTo q.toNat then infinity negative
    else if 0 ≤ q then ofRatio negative (m * twoTo q.toNat) 1
    else ofRatio negative m (twoTo (-q).toNat)

def ofIntSingle (i : Int) : Binary64 :=
  ofRatioSingle (i < 0) i.natAbs 1

/-- The nearest single precision number, held in double precision. -/
def toSingle (x : Binary64) : Binary64 :=
  if x.isFinite then ofRatioSingle x.isNegative x.ratio.1 x.ratio.2 else x

def mul (x y : Binary64) : Binary64 :=
  ofRatio (x.isNegative != y.isNegative) (x.ratio.1 * y.ratio.1) (x.ratio.2 * y.ratio.2)

/-- The quotient of finite numbers by a divisor that is not zero. -/
def div (x y : Binary64) : Binary64 :=
  ofRatio (x.isNegative != y.isNegative) (x.ratio.1 * y.ratio.2) (x.ratio.2 * y.ratio.1)

/-- The number nearest to `digits * 10 ^ exponent`. -/
def ofDecimal (negative : Bool) (digits : Nat) (exponent : Int) : Binary64 :=
  if digits = 0 then zero negative
  else if 400 < exponent then infinity negative
  else if exponent + (Nat.log2 digits : Int) / 3 + 1 < -400 then zero negative
  else if 0 ≤ exponent then ofRatio negative (digits * tenTo exponent.toNat) 1
  else ofRatio negative digits (tenTo (-exponent).toNat)

end Binary64

end FluentSql
