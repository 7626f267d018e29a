/-!
# Reading integers

Decimal integers in a fixed range: an optional sign, at least one ASCII digit, and
nothing else.
-/

namespace FluentSql.Integer

def isDigit (c : Char) : Bool :=
  '0' ≤ c && c ≤ '9'

def digitValue (c : Char) : Nat :=
  c.toNat - '0'.toNat

/-- The number written by a run of digits, `acc` being what stands before it. -/
def natOfDigits (acc : Nat) : List Char → Nat
  | [] => acc
  | c :: cs => natOfDigits (10 * acc + digitValue c) cs

/-- A nonempty run of digits. -/
def readNat? (cs : List Char) : Option Nat :=
  if cs ≠ [] ∧ cs.all isDigit then some (natOfDigits 0 cs) else none

/-- An optional sign and digits, between `low` and `high`. -/
def read? (low high : Int) (s : String) : Option Int :=
  let number := match s.toList with
    | '-' :: cs => (readNat? cs).map fun n => -(n : Int)
    | '+' :: cs => (readNat? cs).map Int.ofNat
    | cs => (readNat? cs).map Int.ofNat
  number.filter fun i => low ≤ i && i ≤ high

/-- Digits that may follow a plus sign, up to `high`. -/
def readUnsigned? (high : Nat) (s : String) : Option Nat :=
  let number := match s.toList with
    | '+' :: cs => readNat? cs
    | cs => readNat? cs
  number.filter (· ≤ high)

def read64? (s : String) : Option Int64 :=
  (read? (-0x8000000000000000) (0x7fffffffffffffff) s).map Int64.ofInt

end FluentSql.Integer
