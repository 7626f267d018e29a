import FluentSql.Number.Binary64

/-!
# Shortest decimals

The fewest decimal digits that read back to a given binary number. The reals that
round to `m * 2 ^ q` form an interval, closed when `m` is even. For one digit, two
digits and so on, the two neighbours of the number on that decimal grid are tried;
the first grid with a neighbour inside wins, of two the nearer, and an exact tie is
decided by the caller.
-/

namespace FluentSql

/-- `digits * 10 ^ exponent`, without trailing zeros in `digits`. -/
structure Decimal where
  digits : Nat
  exponent : Int
  deriving DecidableEq, Inhabited

namespace Decimal

/-- Moves up to `fuel` trailing zeros into the exponent. -/
def strip : Nat → Decimal → Decimal
  | 0, d => d
  | fuel + 1, d =>
    if d.digits ≠ 0 ∧ d.digits % 10 = 0 then strip fuel ⟨d.digits / 10, d.exponent + 1⟩ else d

/-- The digits as characters. -/
def digitChars (d : Decimal) : List Char :=
  Nat.toDigits 10 d.digits

end Decimal

namespace Binary64

/-- The interval of reals that round to a number, as numerators over one common
denominator, with the number itself. -/
structure Interval where
  low : Nat
  value : Nat
  high : Nat
  den : Nat
  closed : Bool

def Interval.holds (i : Interval) (num den : Nat) : Bool :=
  if i.closed then i.low * den ≤ num * i.den && num * i.den ≤ i.high * den
  else i.low * den < num * i.den && num * i.den < i.high * den

/-- The interval of `x`, which is finite and not zero. Below a power of two the
spacing is halved. -/
def interval (x : Binary64) : Interval :=
  let m := x.significand
  let down := if m = twoTo 52 ∧ 1 < x.exponentField then 1 else 2
  let up := if 0 ≤ x.exponent then twoTo x.exponent.toNat else 1
  let den := if 0 ≤ x.exponent then 4 else 4 * twoTo (-x.exponent).toNat
  ⟨(4 * m - down) * up, 4 * m * up, (4 * m + 2) * up, den, m % 2 = 0⟩

/-- The greatest `k` with `10 ^ k ≤ num / den`, for a positive quotient. -/
def floorLog10 (num den : Nat) : Int :=
  let guess : Int := (floorLog2 num den * 30103) / 100000
  let reached (k : Int) : Bool :=
    if 0 ≤ k then den * tenTo k.toNat ≤ num else den ≤ num * tenTo (-k).toNat
  if reached (guess + 1) then guess + 1 else if reached guess then guess else guess - 1

/-- The neighbour on the grid of `10 ^ unit` that lies in the interval. -/
def onGrid (i : Interval) (tieUp : Bool) (unit : Int) : Option Nat :=
  let scaleNum := if 0 ≤ unit then tenTo unit.toNat else 1
  let scaleDen := if 0 ≤ unit then 1 else tenTo (-unit).toNat
  let below := (i.value * scaleDen) / (i.den * scaleNum)
  let left := (i.value * scaleDen) % (i.den * scaleNum)
  let inside (d : Nat) : Bool := i.holds (d * scaleNum) scaleDen
  match inside below, inside (below + 1) with
  | true, true =>
    if 2 * left < i.den * scaleNum then some below
    else if i.den * scaleNum < 2 * left then some (below + 1)
    else if tieUp then some (below + 1) else some (below + below % 2)
  | true, false => some below
  | false, true => some (below + 1)
  | false, false => none

/-- Tries `fuel` grids, each ten times finer than the one before. -/
def searchGrids (i : Interval) (tieUp : Bool) : Nat → Int → Option Decimal
  | 0, _ => none
  | fuel + 1, unit =>
    match onGrid i tieUp unit with
    | some d => some ⟨d, unit⟩
    | none => searchGrids i tieUp fuel (unit - 1)

/-- The shortest decimal of a finite number that is not zero. -/
def shortest (tieUp : Bool) (x : Binary64) : Decimal :=
  let i := x.interval
  match searchGrids i tieUp 17 (floorLog10 i.value i.den) with
  | some d => d.strip 20
  | none => ⟨0, 0⟩

end Binary64

end FluentSql
