import FluentSql.Sqlite.Numeral
import FluentSql.Value.Basic

/-!
# Cells

What a SQLite column holds. Values are stored in the nearest of five classes, and come
back as what they were stored as. A column of integer keys takes every cell that stands
for an integer, whatever its class.
-/

namespace FluentSql

/-- The integer that a finite number is, if it is strictly between the least and the
greatest integer of sixty-four bits. -/
def Binary64.toInteger? (x : Binary64) : Option Int64 :=
  let (num, den) := x.ratio
  if x.isFinite ∧ num % den = 0 ∧ num / den < 0x8000000000000000 then
    let n : Int := (num / den : Nat)
    some (Int64.ofInt (if x.isNegative then -n else n))
  else none

namespace Sqlite

inductive Cell where
  | null
  | integer (i : Int64)
  | real (x : Binary64)
  | text (s : String)
  | blob (b : List UInt8)
  deriving DecidableEq

namespace Cell

/-- The cell of a value. There is no cell for NaN; calendar values, UUIDs and documents
are stored as text. -/
def ofValue : Value → Cell
  | .null => null
  | .bool b => integer (if b then 1 else 0)
  | .int i => integer i
  | .float x => if x.isNaN then null else real x
  | .string s => text s
  | .bytes b => blob b
  | .date d => text d.toText
  | .dateTime t => text t.toText
  | .instant t => text t.toText
  | .time t => text t.toText
  | .uuid u => text u.toText
  | .json d => text d.tree.write

def toValue : Cell → Value
  | null => .null
  | integer i => .int i
  | real x => .float x
  | text s => .string s
  | blob b => .bytes b

/-- The number that a text stands for: an integer if it is written as one and fits. -/
def ofNumber? (s : String) : Option Cell :=
  let n := Numeral.read s.toList
  if !n.isWhole then none
  else if n.isPlain && Numeral.fits n.toInt then some (integer (Int64.ofInt n.toInt))
  else some (real n.toReal)

/-- The key that a cell stands for. -/
def key? : Cell → Option Int64
  | integer i => some i
  | real x => x.toInteger?
  | text s =>
    match ofNumber? s with
    | some (integer i) => some i
    | some (real x) => x.toInteger?
    | _ => none
  | null | blob _ => none

end Cell

end Sqlite

end FluentSql
