import FluentSql.Row.Basic

/-!
# Records

The payload of a write: columns in the order of their first mention, each with a value
or declared without one. Writing a column again replaces it in place.
-/

namespace FluentSql

structure Record where
  entries : List (String × Option Value)

namespace Record

def empty : Record := ⟨[]⟩

instance : Inhabited Record := ⟨empty⟩

/-- Replaces the entry of a column in place, or appends one. -/
def putEntry (column : String) (value : Option Value) :
    List (String × Option Value) → List (String × Option Value)
  | [] => [(column, value)]
  | (c, v) :: rest =>
    if c = column then (c, value) :: rest else (c, v) :: putEntry column value rest

/-- Gives a column a value. -/
def set (r : Record) (column : String) (value : Value) : Record :=
  ⟨putEntry column (some value) r.entries⟩

/-- Mentions a column without a value. -/
def declare (r : Record) (column : String) : Record :=
  ⟨putEntry column none r.entries⟩

/-- The entry of a column, if it is mentioned. -/
def get? (r : Record) (column : String) : Option (Option Value) :=
  (r.entries.find? fun entry => entry.1 == column).map (·.2)

def contains (r : Record) (column : String) : Bool :=
  r.entries.any fun entry => entry.1 == column

def columns (r : Record) : List String :=
  r.entries.map (·.1)

def size (r : Record) : Nat :=
  r.entries.length

def isEmpty (r : Record) : Bool :=
  r.entries.isEmpty

/-- Sets the pairs in turn. -/
def ofList (pairs : List (String × Value)) : Record :=
  pairs.foldl (fun r pair => r.set pair.1 pair.2) empty

def ofRow (row : Row) : Record :=
  ofList row.cells

/-- The value a statement binds for a column: NULL unless the record has one. -/
def bound (r : Record) (column : String) : Value :=
  match r.get? column with
  | some (some v) => v
  | _ => .null

end Record

end FluentSql
