import FluentSql.Sqlite.Function

/-!
# Aggregates

Functions over all rows of a selection. NULL counts for nothing. Sums of integers are exact,
and fail where they do not fit; other sums carry along what rounding has lost.
-/

namespace FluentSql.Sqlite

inductive Aggregate where
  | count
  | sum
  | total
  | average
  | least
  | greatest
  | join
  deriving DecidableEq

/-- A sum of real numbers, and what is lost of it. -/
structure RealSum where
  sum : Binary64
  lost : Binary64

namespace RealSum

def start : RealSum :=
  ⟨Binary64.zero false, Binary64.zero false⟩

def magnitude (x : Binary64) : Binary64 :=
  if x.isNegative then x.neg else x

def add (s : RealSum) (x : Binary64) : RealSum :=
  let t := s.sum.plus x
  let lost :=
    if (magnitude s.sum).order (magnitude x) == .gt then (s.sum.minus t).plus x
    else (x.minus t).plus s.sum
  ⟨t, s.lost.plus lost⟩

/-- Adds an integer; a large one in two parts. -/
def addInteger (s : RealSum) (i : Int64) : RealSum :=
  if -4503599627370496 < i ∧ i < 4503599627370496 then s.add (Binary64.ofInt i.toInt)
  else
    let small := Int.tmod i.toInt 16384
    (s.add (Binary64.ofInt (i.toInt - small))).add (Binary64.ofInt small)

def addCell (s : RealSum) (c : Cell) : RealSum :=
  match c.preferNumber with
  | .integer i => s.addInteger i
  | c => s.add c.toReal

def value (s : RealSum) : Binary64 :=
  if s.lost.isFinite then s.sum.plus s.lost else s.sum

end RealSum

namespace Aggregate

/-- The aggregate of a name that takes a number of arguments. -/
def named? (name : String) (count : Nat) : Option Aggregate :=
  match name, count with
  | "count", 0 | "count", 1 => some .count
  | "sum", 1 => some sum
  | "total", 1 => some total
  | "avg", 1 => some average
  | "min", 1 => some least
  | "max", 1 => some greatest
  | "group_concat", 1 | "group_concat", 2 | "string_agg", 2 => some join
  | _, _ => none

/-- The sum of cells that are all integers. -/
def integerSum? : List Cell → Option Int
  | [] => some 0
  | c :: cs =>
    match c.preferNumber with
    | .integer i => (integerSum? cs).map (i.toInt + ·)
    | _ => none

def realSum (cs : List Cell) : Binary64 :=
  (cs.foldl RealSum.addCell RealSum.start).value

def sumOf (cs : List Cell) : Option Cell :=
  match cs, integerSum? cs with
  | [], _ => some .null
  | _, some i => if Numeral.fits i then some (.integer (Int64.ofInt i)) else none
  | cs, none => some (.ofOutcome (realSum cs))

/-- The total as a real number. -/
def totalOf (cs : List Cell) : Binary64 :=
  match integerSum? cs with
  | some i => if Numeral.fits i then Binary64.ofInt i else realSum cs
  | none => realSum cs

/-- The texts one after the other, each but the first behind its separator. -/
def joinAll : List (List Cell) → String
  | [] => ""
  | [c :: _] => c.toText?.getD ""
  | (c :: _) :: rest =>
    let separator := match rest with
      | [_, s] :: _ => s.toText?.getD ""
      | _ => ","
    (c.toText?.getD "") ++ separator ++ joinAll rest
  | [] :: rest => joinAll rest

/-- The outcome over the arguments of all rows, if it does not fail. -/
def apply (f : Aggregate) (rows : List (List Cell)) : Option Cell :=
  let rows := rows.filter fun row => row.head?.all fun c => !c.isNull
  let firsts := rows.filterMap List.head?
  match f with
  | count => some (.integer (Int64.ofNat rows.length))
  | sum => sumOf firsts
  | total => some (.ofOutcome (totalOf firsts))
  | average =>
    if firsts = [] then some .null
    else some (.ofOutcome ((totalOf firsts).dividedBy (Binary64.ofInt firsts.length)))
  | least => some (Function.leastOf firsts.reverse)
  | greatest => some (Function.greatestOf firsts)
  | join => some (if rows = [] then .null else .text (joinAll rows))

end Aggregate

end FluentSql.Sqlite
