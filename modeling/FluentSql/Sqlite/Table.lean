import FluentSql.Row.Basic
import FluentSql.Sqlite.Cell

/-!
# Keyed tables

A table of rows in ascending order of their integer keys, with any cells in its other
columns. A row that comes without a key gets the next one; no two rows share a key.
-/

namespace FluentSql.Sqlite

/-- A column of a table: its key or, by its position, one of the others. -/
inductive Column where
  | key
  | other (index : Nat)
  deriving DecidableEq

/-- A row: its key and the cells of the other columns. -/
structure Entry where
  key : Int64
  cells : List Cell
  deriving DecidableEq

/-- The cell in a column. -/
def Entry.cell (e : Entry) : Column → Cell
  | .key => .integer e.key
  | .other index => e.cells[index]?.getD .null

structure Table where
  name : String
  /-- The name of the key column, which is the first. -/
  keyColumn : String
  columns : List String
  entries : List Entry
  deriving DecidableEq

namespace Table

/-- Names that the key has in every table. -/
def keyNames : List String :=
  ["rowid", "oid", "_rowid_"]

/-- The column of a name. The key goes by other names too, unless a column has them. -/
def column? (t : Table) (name : String) : Option Column :=
  if name = t.keyColumn then some .key
  else match t.columns.idxOf? name with
    | some index => some (.other index)
    | none => if keyNames.contains name then some .key else none

/-- The columns of names, all of which the table has. -/
def columnsNamed? (t : Table) (names : List String) : Option (List Column) :=
  names.mapM t.column?

def isTaken (t : Table) (key : Int64) : Bool :=
  t.entries.any fun e => e.key == key

/-- One more than the greatest key, or one; there is none behind the last integer. -/
def nextKey? (t : Table) : Option Int64 :=
  match t.entries.getLast? with
  | none => some 1
  | some e => if e.key = Int64.maxValue then none else some (e.key + 1)

/-- Puts a row in front of the first row with a greater key. -/
def place (e : Entry) : List Entry → List Entry
  | [] => [e]
  | f :: rest => if e.key.toInt < f.key.toInt then e :: f :: rest else f :: place e rest

/-- Adds a row under a key that is free. -/
def add (t : Table) (e : Entry) : Option Table :=
  if t.isTaken e.key then none else some { t with entries := place e t.entries }

/-- The key that a new row is to have. -/
def keyFor (t : Table) : Cell → Option Int64
  | .null => t.nextKey?
  | c => c.key?

/-- A row under a key, from the cells of some columns; of several for one column the first
counts. -/
def entry (t : Table) (key : Int64) (row : List (Column × Cell)) : Entry :=
  ⟨key, (List.range t.columns.length).map fun i => (row.lookup (.other i)).getD .null⟩

/-- The key of a row given by some of its columns. Of several keys the last counts. -/
def rowKey? (t : Table) (row : List (Column × Cell)) : Option Int64 :=
  t.keyFor ((row.reverse.lookup .key).getD .null)

/-- Adds a row given by some of its columns and tells its key. -/
def insert (t : Table) (row : List (Column × Cell)) : Option (Table × Int64) := do
  let key ← t.rowKey? row
  let t ← t.add (t.entry key row)
  return (t, key)

/-- Adds rows in turn, or passes over those whose key is taken; a row that could not be computed
is an obstacle. Yields the key of the last row that was added and, if all went well, the table
and how many rows were added. -/
def insertAll (passOver : Bool) (last : Int64) (added : Nat) :
    List (Option (List (Column × Cell))) → Table → Int64 × Option (Table × Nat)
  | [], t => (last, some (t, added))
  | none :: _, _ => (last, none)
  | some row :: rows, t =>
    if passOver && (t.rowKey? row).any t.isTaken then insertAll passOver last added rows t
    else match t.insert row with
      | some (t, key) => insertAll passOver key (added + 1) rows t
      | none => (last, none)

/-- The row with assignments made; of several to one column the last counts. -/
def assign (assignments : List (Column × Cell)) (e : Entry) : Option Entry := do
  let new? (column : Column) := assignments.reverse.lookup column
  let key ← match new? .key with
    | none => some e.key
    | some c => c.key?
  return ⟨key, e.cells.mapIdx fun i old => (new? (.other i)).getD old⟩

def remove (t : Table) (key : Int64) : Table :=
  { t with entries := t.entries.filter fun e => e.key != key }

/-- Changes rows in turn; a key that another row has is an obstacle. -/
def updateAll : List (Entry × List (Column × Cell)) → Table → Option Table
  | [], t => some t
  | (e, assignments) :: rest, t => do
    let new ← assign assignments e
    let t ← (t.remove e.key).add new
    updateAll rest t

def removeAll (t : Table) (gone : List Entry) : Table :=
  { t with entries := t.entries.filter fun e => !gone.contains e }

end Table

end FluentSql.Sqlite
