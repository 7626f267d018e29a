import FluentSql.Error
import FluentSql.Number.Integer

/-!
# Rows

A row is a list of named values; names may repeat, and a look-up by name finds the
first. `Reads` says which values are read as a given type.
-/

namespace FluentSql

structure Row where
  cells : List (String × Value)

namespace Row

/-- A row of as many values as columns. -/
def of? (columns : List String) (values : List Value) : Option Row :=
  if columns.length = values.length then some ⟨columns.zip values⟩ else none

def columns (r : Row) : List String :=
  r.cells.map (·.1)

def values (r : Row) : List Value :=
  r.cells.map (·.2)

def size (r : Row) : Nat :=
  r.cells.length

/-- The value of the first column of that name. -/
def value? (r : Row) (column : String) : Option Value :=
  (r.cells.find? fun cell => cell.1 == column).map (·.2)

end Row

/-- Values that are read as an `α`. -/
class Reads (α : Type) where
  read : Value → Except Error α

def mismatch (expected : String) (v : Value) : Error :=
  .value (.mismatch expected v)

/-- Integers, also as text, as some drivers return aggregates. -/
instance : Reads Int64 where
  read
    | .int i => .ok i
    | v@(.string s) =>
      match Integer.read64? (Text.trim s) with
      | some i => .ok i
      | none => .error (mismatch "Int" v)
    | v => .error (mismatch "Int" v)

instance : Reads Int32 where
  read v := do
    let i : Int64 ← Reads.read v
    if i.toInt < -0x80000000 then .error (.value .tooSmall32)
    else if 0x80000000 ≤ i.toInt then .error (.value .tooLarge32)
    else return Int32.ofInt i.toInt

instance : Reads Binary64 where
  read
    | .float x => .ok x
    | .int i => .ok (Binary64.ofInt i.toInt)
    | v => .error (mismatch "Float" v)

instance : Reads Bool where
  read v :=
    match v.toBool? with
    | some b => .ok b
    | none => .error (mismatch "Bool" v)

instance : Reads String where
  read
    | .string s => .ok s
    | v => .error (mismatch "String" v)

instance : Reads Value where
  read v := .ok v

/-- A date and time, also as text; a zoned one gives its UTC form. -/
instance : Reads DateTime where
  read
    | .dateTime t => .ok t
    | .instant t => .ok t.utc
    | v@(.string s) =>
      match DateTime.read? s with
      | some t => .ok t
      | none => .error (mismatch "DateTime" v)
    | v => .error (mismatch "DateTime" v)

/-- NULL is read as no value. -/
instance {α : Type} [Reads α] : Reads (Option α) where
  read v := if v.isNull then .ok none else (Reads.read v).map some

namespace Row

/-- The value of a column, read as an `α`. -/
def get (α : Type) [Reads α] (r : Row) (column : String) : Except Error α :=
  match r.value? column with
  | some v => Reads.read v
  | none => .error (.argument (.missingColumn column))

/-- The value at a position, read as an `α`. -/
def getAt (α : Type) [Reads α] (r : Row) (index : Nat) : Except Error α :=
  match r.values[index]? with
  | some v => Reads.read v
  | none => .error (.argument (.columnOutOfBounds index r.size))

end Row

end FluentSql
