import FluentSql.Sqlite.Comparison

/-!
# Operators

What the operators of expressions do to cells. NULL on a side gives NULL, but for truth
values that are settled by the other side and for the question whether two cells are the
same. Integers that do not fit go over into real numbers.
-/

namespace FluentSql.Sqlite

inductive UnaryOperator where
  | negate
  | plus
  | complement
  | not
  deriving DecidableEq

inductive Arithmetic where
  | add
  | subtract
  | multiply
  | divide
  | remainder
  deriving DecidableEq

inductive BitOperator where
  | and
  | or
  | shiftLeft
  | shiftRight
  deriving DecidableEq

inductive Relation where
  | equal
  | unequal
  | less
  | lessEqual
  | greater
  | greaterEqual
  deriving DecidableEq

inductive BinaryOperator where
  | arithmetic (op : Arithmetic)
  | bits (op : BitOperator)
  | relation (r : Relation)
  | concat
  | and
  | or
  | is
  | isNot
  deriving DecidableEq

/-- The outcome on integers, if it is an integer that fits. A division by zero has none. -/
def Arithmetic.onIntegers (op : Arithmetic) (i j : Int64) : Option Int64 :=
  let outcome (k : Int) : Option Int64 := if Numeral.fits k then some (Int64.ofInt k) else none
  match op with
  | add => outcome (i.toInt + j.toInt)
  | subtract => outcome (i.toInt - j.toInt)
  | multiply => outcome (i.toInt * j.toInt)
  | divide => outcome (Int.tdiv i.toInt j.toInt)
  | remainder => outcome (Int.tmod i.toInt j.toInt)

/-- The outcome on real numbers; a remainder is that of the integer parts. -/
def Arithmetic.onReals (op : Arithmetic) (a b : Cell) : Cell :=
  let x := a.toReal
  let y := b.toReal
  match op with
  | add => .ofOutcome (x.plus y)
  | subtract => .ofOutcome (x.minus y)
  | multiply => .ofOutcome (x.times y)
  | divide => if y.isZero then .null else .ofOutcome (x.dividedBy y)
  | remainder =>
    if b.toInteger = 0 then .null
    else .real (Binary64.ofInt (Int.tmod a.toInteger.toInt b.toInteger.toInt))

def Arithmetic.apply (op : Arithmetic) (a b : Cell) : Cell :=
  match a.toNumber, b.toNumber with
  | .null, _ | _, .null => .null
  | .integer i, .integer j =>
    if (op = divide ∨ op = remainder) ∧ j = 0 then .null
    else match op.onIntegers i j with
      | some k => .integer k
      | none => op.onReals (.integer i) (.integer j)
  | _, _ => op.onReals a b

/-- The bits of an integer moved up, or down if the distance is negative; moved down, the
sign stays. -/
def shift (i : Int64) (distance : Int) : Int64 :=
  if 0 ≤ distance then
    if 64 ≤ distance then 0 else Int64.ofInt (i.toInt * twoTo distance.toNat)
  else Int64.ofInt (Int.fdiv i.toInt (twoTo (min 64 (-distance).toNat)))

def BitOperator.onIntegers (op : BitOperator) (i j : Int64) : Int64 :=
  match op with
  | and => i &&& j
  | or => i ||| j
  | shiftLeft => shift i j.toInt
  | shiftRight => shift i (-j.toInt)

def BitOperator.apply (op : BitOperator) (a b : Cell) : Cell :=
  if a.isNull || b.isNull then .null else .integer (op.onIntegers a.toInteger b.toInteger)

def Relation.holds (r : Relation) (o : Ordering) : Bool :=
  match r with
  | equal => o == .eq
  | unequal => o != .eq
  | less => o == .lt
  | lessEqual => o != .gt
  | greater => o == .gt
  | greaterEqual => o != .lt

def concatCells (a b : Cell) : Cell :=
  match a.toText?, b.toText? with
  | some s, some t => .text (s ++ t)
  | _, _ => .null

/-- False if a side is false, and else unknown if a side is. -/
def andTruth : Option Bool → Option Bool → Option Bool
  | some false, _ | _, some false => some false
  | some true, some true => some true
  | _, _ => none

/-- True if a side is true, and else unknown if a side is. -/
def orTruth : Option Bool → Option Bool → Option Bool
  | some true, _ | _, some true => some true
  | some false, some false => some false
  | _, _ => none

def UnaryOperator.apply : UnaryOperator → Cell → Cell
  | negate, c => Arithmetic.apply .subtract (.integer 0) c
  | plus, c => c
  | complement, c => if c.isNull then .null else .integer (~~~c.toInteger)
  | not, c => .ofTruth? (c.toTruth?.map (!·))

/-- The outcome of an operator whose sides are compared by an affinity and a collation. -/
def BinaryOperator.apply (affinity : Affinity) (collation : Collation) :
    BinaryOperator → Cell → Cell → Cell
  | arithmetic op, a, b => op.apply a b
  | bits op, a, b => op.apply a b
  | relation r, a, b => .ofTruth? ((Cell.compare? affinity collation a b).map r.holds)
  | concat, a, b => concatCells a b
  | and, a, b => .ofTruth? (andTruth a.toTruth? b.toTruth?)
  | or, a, b => .ofTruth? (orTruth a.toTruth? b.toTruth?)
  | is, a, b => .ofTruth (Cell.same affinity collation a b)
  | isNot, a, b => .ofTruth (!Cell.same affinity collation a b)

end FluentSql.Sqlite
