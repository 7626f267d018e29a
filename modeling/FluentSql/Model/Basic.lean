import FluentSql.Row.Record

/-!
# Models

What is declared about a table: which columns may be written in bulk, which are kept
out of output, and whether rows are deleted by a marker. An instance is a row of the
table with the names of its hidden columns.
-/

namespace FluentSql

structure Model where
  table : String
  fillable : List String := []
  guarded : List String := []
  hidden : List String := []
  timestamps : Bool := true
  softDelete : Bool := false
  deriving DecidableEq

structure Instance where
  attributes : Row
  hidden : List String

/-- What a serializer of an object is told: how many entries will come, and then each of them. -/
structure ObjectOutput where
  announced : Nat
  entries : List (String × Document)

namespace Instance

/-- Column names taken by the declarations of a model. -/
def declarationNames : List String := ["fillable", "guarded", "hidden", "timestamp"]

/-- The instance of a row; columns named like a declaration are dropped. -/
def ofRow (row : Row) (hidden : List String) : Instance :=
  ⟨⟨row.cells.filter fun cell => !declarationNames.contains cell.1⟩, hidden⟩

def isHidden (x : Instance) (column : String) : Bool :=
  x.hidden.contains column

/-- The columns that are not hidden, in row order. -/
def visible (x : Instance) : List (String × Document) :=
  (x.attributes.cells.filter fun cell => !x.isHidden cell.1).map fun cell =>
    (cell.1, cell.2.toDocument)

/-- The visible columns as an object; of several of one name the last counts. -/
def toDocument (x : Instance) : Document :=
  .object (Document.sortFields x.visible)

/-- The entry of a column, unless the column is hidden. -/
def visibleField? (x : Instance) (cell : String × Value) : Option (String × Document) :=
  if x.isHidden cell.1 then none else some (cell.1, cell.2.toDocument)

/-- Tells the visible columns as they come, repeated names included. -/
def serialize (x : Instance) : ObjectOutput where
  announced := (x.attributes.cells.filter fun cell => !x.isHidden cell.1).length
  entries := x.attributes.cells.filterMap x.visibleField?

/-- The object with the entries that a serializer is told. -/
def serialized (x : Instance) : Document :=
  .object x.serialize.entries

end Instance

/-- What rows of a query become. -/
class Hydrates (α : Type) where
  hydrate : Row → Option Model → α

instance : Hydrates Row where
  hydrate row _ := row

instance : Hydrates Instance where
  hydrate row model := Instance.ofRow row ((model.map (·.hidden)).getD [])

namespace Model

/-- The instances of rows of the model's table. -/
def hydrate (m : Model) (rows : List Row) : List Instance :=
  rows.map fun row => Instance.ofRow row m.hidden

end Model

end FluentSql
