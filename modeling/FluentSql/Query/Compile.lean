import FluentSql.Dialect.Placeholder
import FluentSql.Query.State
import FluentSql.Row.Record

/-!
# Compiled statements

The statement of a query state: its fragments in the order of the text, brought into
the placeholders of the dialect.
-/

namespace FluentSql

/-- What a query state is compiled to. -/
inductive Statement where
  | select
  | count
  | insert (rows : List Record)
  | update (data : Record)
  | delete

namespace QueryState

/-- The limit that stands for no limit where an offset needs one. -/
def unboundedLimit : String := "18446744073709551615"

def fieldList (q : QueryState) : String :=
  if q.fields.isEmpty then "*" else Text.commaList q.fields

/-- Table hints, which only MySQL has. -/
def hintText (d : Dialect) (q : QueryState) : String :=
  if d = .mySql ∧ q.indexHints ≠ [] then " USE INDEX (" ++ Text.commaList q.indexHints ++ ")"
  else ""

def joinFragments (d : Dialect) (q : QueryState) : List Fragment :=
  q.joins.flatMap (Join.fragments d)

/-- Hints, joins and the WHERE part. -/
def sourceFragments (d : Dialect) (q : QueryState) : List Fragment :=
  .text (q.hintText d) :: q.joinFragments d ++ q.conditions.fragments "WHERE"

def groupText (q : QueryState) : String :=
  if q.groupBy.isEmpty then "" else " GROUP BY " ++ Text.commaList q.groupBy

def groupFragments (q : QueryState) : List Fragment :=
  .text q.groupText :: q.having.fragments "HAVING"

def orderText (q : QueryState) : String :=
  if q.orderBy.isEmpty then ""
  else " ORDER BY " ++ Text.commaList (q.orderBy.map fun o => o.column ++ " " ++ o.direction.sql)

def offsetText (offset : Option Nat) : String :=
  match offset with
  | some n => " OFFSET " ++ natText n
  | none => ""

/-- LIMIT and OFFSET; MySQL and SQLite have no offset without a limit. -/
def pageText (d : Dialect) (q : QueryState) : String :=
  match q.limit, q.offset with
  | some n, offset => " LIMIT " ++ natText n ++ offsetText offset
  | none, some n =>
    match d with
    | .mySql => " LIMIT " ++ unboundedLimit ++ offsetText (some n)
    | .sqlite => " LIMIT -1" ++ offsetText (some n)
    | .postgreSql => offsetText (some n)
  | none, none => ""

def selectFragments (d : Dialect) (q : QueryState) : List Fragment :=
  .text ("SELECT " ++ q.fieldList ++ " FROM " ++ q.table) :: q.sourceFragments d ++
    q.groupFragments ++ [.text (q.orderText ++ q.pageText d)]

def countFragments (d : Dialect) (q : QueryState) : List Fragment :=
  .text ("SELECT COUNT(*) AS count FROM " ++ q.table) :: q.sourceFragments d ++ q.groupFragments

/-- The columns of the records, each where it is mentioned first. -/
def columnUnion (rows : List Record) : List String :=
  (rows.flatMap Record.columns).foldl
    (fun columns c => if columns.contains c then columns else columns ++ [c]) []

/-- The groups of slots of an INSERT, a comma before each group but the first. -/
def rowFragments (columns : List String) : List Record → List Fragment
  | [] => []
  | [row] => .text "(" :: Fragment.slots (columns.map row.bound) ++ [.text ")"]
  | row :: next :: rows =>
    .text "(" :: Fragment.slots (columns.map row.bound) ++
      .text "), " :: rowFragments columns (next :: rows)

def insertFragments (table : String) (rows : List Record) : Except Error (List Fragment) :=
  if rows.isEmpty then .error (.argument .noRows)
  else
    let columns := columnUnion rows
    if columns.isEmpty then .error (.argument .rowsWithoutColumns)
    else .ok (.text ("INSERT INTO " ++ table ++ " (" ++ Text.commaList columns ++ ") VALUES ") ::
      rowFragments columns rows)

/-- The assignments of an UPDATE, a comma before each but the first. -/
def assignmentFragments : List (String × Option Value) → List Fragment
  | [] => []
  | [(c, v)] => [.text (c ++ " = "), .slot (v.getD .null)]
  | (c, v) :: next :: rest =>
    .text (c ++ " = ") :: .slot (v.getD .null) :: .text ", " :: assignmentFragments (next :: rest)

/-- Only MySQL updates and deletes through joins. -/
def checkJoins (d : Dialect) (q : QueryState) (verb : String) : Except Error Unit :=
  if q.joins.isEmpty ∨ d = .mySql then .ok ()
  else .error (.state (.joinsNotSupported verb d.name))

def updateFragments (d : Dialect) (q : QueryState) (data : Record) :
    Except Error (List Fragment) :=
  if data.isEmpty then .error (.argument .emptyUpdate)
  else do
    q.checkJoins d "UPDATE"
    return .text ("UPDATE " ++ q.table ++ q.hintText d) :: q.joinFragments d ++
      .text " SET " :: assignmentFragments data.entries ++ q.conditions.fragments "WHERE"

/-- The name a joined DELETE deletes from: the alias of the table if it has one. -/
def deleteTarget (q : QueryState) : String :=
  (Text.words q.table).getLast?.getD q.table

def deleteFragments (d : Dialect) (q : QueryState) : Except Error (List Fragment) := do
  q.checkJoins d "DELETE"
  let target := if q.joins.isEmpty then "" else q.deleteTarget ++ " "
  return .text ("DELETE " ++ target ++ "FROM " ++ q.table) :: q.joinFragments d ++
    q.conditions.fragments "WHERE"

/-- The statement of a list of fragments. -/
def finish (d : Dialect) (fragments : List Fragment) : BoundStatement :=
  ⟨d.lowerPlaceholders (Fragment.renderAll fragments), Fragment.values fragments⟩

def compileSelect (d : Dialect) (q : QueryState) : BoundStatement :=
  finish d (q.selectFragments d)

def compileCount (d : Dialect) (q : QueryState) : BoundStatement :=
  finish d (q.countFragments d)

def compileInsert (d : Dialect) (table : String) (rows : List Record) :
    Except Error BoundStatement :=
  (insertFragments table rows).map (finish d)

def compileUpdate (d : Dialect) (q : QueryState) (data : Record) : Except Error BoundStatement :=
  (q.updateFragments d data).map (finish d)

def compileDelete (d : Dialect) (q : QueryState) : Except Error BoundStatement :=
  (q.deleteFragments d).map (finish d)

def compile (d : Dialect) (q : QueryState) : Statement → Except Error BoundStatement
  | .select => .ok (q.compileSelect d)
  | .count => .ok (q.compileCount d)
  | .insert rows => compileInsert d q.table rows
  | .update data => q.compileUpdate d data
  | .delete => q.compileDelete d

end QueryState

end FluentSql
