import FluentSql.Calls
import FluentSql.Schema.Column

/-!
# New tables

A table is described call by call and written as one CREATE TABLE statement, followed
by a CREATE INDEX statement for each indexed column. It needs a column.
-/

namespace FluentSql

/-- An entry between the parentheses of CREATE TABLE. -/
inductive TableItem where
  | column (name : String) (definition : ColumnDefinition)
  | foreign (column : String) (target : ForeignKey)
  | primary (columns : List String)
  deriving DecidableEq

namespace TableItem

def isColumn : TableItem → Bool
  | .column .. => true
  | _ => false

def pieces (d : Dialect) : TableItem → List SchemaPiece
  | .column name definition => [.identifier name, .verbatim (" " ++ definition.sql d)]
  | .foreign referring target =>
    .verbatim "FOREIGN KEY (" :: .identifier referring :: .verbatim ") " :: target.pieces
  | .primary columns =>
    .verbatim "PRIMARY KEY (" :: SchemaPiece.nameList columns ++ [.verbatim ")"]

end TableItem

structure TableDefinition where
  table : String
  items : List TableItem
  /-- The columns with an index of their own. -/
  indexed : List String

/-- A call inside the description of a new table. -/
inductive TableCall where
  | id
  | timestamps
  | softDeletes
  | column (type : ColumnType) (name : String) (options : ColumnOptions)
  | foreign (column : String) (target : ForeignKey)
  | primary (columns : List String)
  | index (column : String)
  /-- The description gives up with an error of its own. -/
  | raise (error : Error)

/-- The name of a table to be created, changed or dropped. -/
def schemaTable (raw : String) : Except Error String :=
  let table := Text.trim raw
  if table = "" then .error (.argument .blankSchemaTable) else .ok table

namespace TableDefinition

def start (table : String) : Except Error TableDefinition := do
  return ⟨← schemaTable table, [], []⟩

def addItems (t : TableDefinition) (items : List TableItem) : TableDefinition :=
  { t with items := t.items ++ items }

/-- A primary key of no columns adds nothing. -/
def apply (t : TableDefinition) : TableCall → Except Error TableDefinition
  | .id => .ok (t.addItems [.column "id" .key])
  | .timestamps =>
    .ok (t.addItems [.column "created_at" .creationTime, .column "updated_at" .updateTime])
  | .softDeletes => .ok (t.addItems [.column "deleted_at" .deletionTime])
  | .column kind name options => .ok (t.addItems [.column name (.typed kind options)])
  | .foreign column target => .ok (t.addItems [.foreign column target])
  | .primary columns => .ok (if columns.isEmpty then t else t.addItems [.primary columns])
  | .index column => .ok { t with indexed := t.indexed ++ [column] }
  | .raise error => .error error

/-- The calls in turn; the first error ends the description. -/
def applyAll (t : TableDefinition) (calls : List TableCall) : Except Error TableDefinition :=
  Calls.applyAll apply t calls

def indexName (column : String) : String :=
  column ++ "_index"

def indexPieces (table column : String) : List SchemaPiece :=
  [.verbatim " CREATE INDEX ", .identifier (indexName column), .verbatim " ON ",
    .identifier table, .verbatim " (", .identifier column, .verbatim ");"]

def pieces (d : Dialect) (t : TableDefinition) : List SchemaPiece :=
  .verbatim "CREATE TABLE " :: .identifier t.table :: .verbatim " (" ::
    SchemaPiece.separate ", " (t.items.map (TableItem.pieces d)) ++
    .verbatim ");" :: t.indexed.flatMap (indexPieces t.table)

/-- The statements of a table, which needs a column. -/
def sql (d : Dialect) (t : TableDefinition) : Except Error String :=
  if t.items.any TableItem.isColumn then .ok (SchemaPiece.renderAll d (t.pieces d))
  else .error (.state (.tableWithoutColumns t.table))

end TableDefinition

end FluentSql
