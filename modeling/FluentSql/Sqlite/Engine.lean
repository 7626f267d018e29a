import FluentSql.Sqlite.Evaluation
import FluentSql.Sqlite.Fault
import FluentSql.Sqlite.Statement

/-!
# The engine

What one connection to a SQLite database holds, and what statements do to it. A
statement takes effect as a whole or not at all. A transaction is the tables as they
were when it began.
-/

namespace FluentSql.Sqlite

structure Engine where
  tables : List Table
  /-- The tables at the start of the open transaction. -/
  saved : Option (List Table)
  /-- How many rows the last insert, update or delete changed. -/
  changes : Nat
  /-- The key of the row inserted last. -/
  lastKey : Int64

/-- What a statement leaves behind: the rows it yields, unless it failed, and the
engine after it. -/
abbrev Effect := Except Fault (List Row) × Engine

/-- The greatest number of columns of a result. -/
def maxColumns : Nat := 2000

namespace Engine

/-- A fresh connection to a database with the tables. -/
def ofTables (tables : List Table) : Engine :=
  ⟨tables, none, 0, 0⟩

/-- The tables that outlive the connection. -/
def committed (e : Engine) : List Table :=
  e.saved.getD e.tables

def table? (e : Engine) (name : String) : Option Table :=
  e.tables.find? fun t => t.name == name

def replace (e : Engine) (t : Table) : Engine :=
  { e with tables := e.tables.map fun u => if u.name == t.name then t else u }

def scene (e : Engine) : Scene :=
  ⟨e.tables, e.changes, e.lastKey⟩

/-- What names stand for in a statement about tables. -/
def surroundings (e : Engine) (about : List Table) : Surroundings :=
  ⟨e.tables, about.map fun t => ⟨t.name, t⟩, false⟩

/-- The statement cannot be run. -/
def refuse (e : Engine) : Effect :=
  (.error .untold, e)

/-- The statement broke off and its changes are undone. -/
def abort (e : Engine) : Effect :=
  (.error .untold, { e with changes := 0 })

/-- The statement was run and yields no rows. -/
def finish (e : Engine) : Effect :=
  (.ok [], e)

/-- The statement was run. It has changed rows and may have been asked for them, though no one
reads them: that is an error, but the changes stay. -/
def finishWith (e : Engine) (returning : Option (List Expression)) (changed : Nat) : Effect :=
  if returning.isSome && changed != 0 then (.error .untold, e) else e.finish

/-- The statement was run and yields rows. -/
def answer (e : Engine) (rows : List Row) : Effect :=
  (.ok rows, e)

/-- Runs a statement on a table. -/
def withTable (e : Engine) (name : String) (run : Table → Effect) : Effect :=
  match e.table? name with
  | some t => run t
  | none => e.refuse

/-- Runs a statement that was prepared, if it could be. -/
def prepared {α : Type} (e : Engine) (a : Option α) (run : α → Effect) : Effect :=
  match a with
  | some a => run a
  | none => e.refuse

def select (e : Engine) (q : Query) : Effect :=
  e.prepared (Expression.resolveQuery? (e.surroundings []) q) fun (q, width) =>
    if maxColumns < width then (.error .tooManyColumns, e)
    else match Expression.evalQuery e.scene [] q with
      | some rows => e.answer (rows.map fun row => ⟨q.names.zip (row.map Cell.toValue)⟩)
      | none => e.refuse

/-- The rows that an INSERT brings, each of a number of cells; `none` inside for one that cannot
be computed. -/
def sourceRows? (e : Engine) (width : Nat) : Source → Option (List (Option (List Cell)))
  | .values rows => do
    let rows ← rows.mapM (Expression.resolveAll? (e.surroundings []))
    if rows.all fun row => row.length == width then
      return rows.map (Expression.evalAll e.scene [] [])
    else none
  | .query q => do
    let (q, queried) ← Expression.resolveQuery? (e.surroundings []) q
    if queried = width then
      return match Expression.evalQuery e.scene [] q with
        | some rows => rows.map some
        | none => [none]
    else none

/-- Whether conflicts in a column can be passed over: there are none but in the key. -/
def canPassOver (t : Table) : Option (Option String) → Bool
  | some (some name) => t.column? name == some .key
  | _ => true

/-- Whether rows of a table can be asked for terms. -/
def canReturn (e : Engine) (t : Table) : Option (List Expression) → Bool
  | none => true
  | some terms => (Expression.resolveTerms? (e.surroundings [t]) true terms []).isSome

/-- Adds the rows of an INSERT. The key of the last row that was added is kept even if a later
row breaks the statement off. -/
def insert (e : Engine) (t : Table) (i : Insertion) : Effect :=
  let plan : Option (List (Option (List (Column × Cell)))) := do
    let columns ← t.columnsNamed? i.columns
    let rows ← e.sourceRows? columns.length i.source
    if canPassOver t i.passOver && e.canReturn t i.returning then
      return rows.map fun row => row.map columns.zip
    else none
  e.prepared plan fun rows =>
    match t.insertAll i.passOver.isSome e.lastKey 0 rows with
    | (lastKey, some (t, changes)) =>
      finishWith { e.replace t with changes, lastKey } i.returning changes
    | (lastKey, none) => abort { e with lastKey }

/-- The rows of a table that meet a condition. -/
def found? (e : Engine) (t : Table) (condition : Expression) : Option (List Entry) :=
  t.entries.filterM fun entry => (condition.eval e.scene [entry] []).map isMet

/-- A condition on the rows of a table with its names looked up. -/
def condition? (e : Engine) (t : Table) (condition : Expression) : Option Expression :=
  (condition.resolve? (e.surroundings [t])).map Expression.seek

/-- The last assignment to each column. -/
def lastAssignments {α β : Type} [BEq α] : List (α × β) → List (α × β)
  | [] => []
  | (a, b) :: rest =>
    if (rest.lookup a).isSome then lastAssignments rest else (a, b) :: lastAssignments rest

def update (e : Engine) (t : Table) (c : Change) : Effect :=
  let plan := do
    let columns ← t.columnsNamed? (c.assignments.map (·.1))
    let terms ← Expression.resolveAll? (e.surroundings [t]) (c.assignments.map (·.2))
    let condition ← e.condition? t c.condition
    if e.canReturn t c.returning then return (lastAssignments (columns.zip terms), condition)
    else none
  e.prepared plan fun (assignments, condition) =>
    let outcome := do
      let found ← e.found? t condition
      let changes ← found.mapM fun entry => do
        let cells ← Expression.evalAll e.scene [entry] [] (assignments.map (·.2))
        return (entry, (assignments.map (·.1)).zip cells)
      return (← t.updateAll changes, found.length)
    match outcome with
    | some (t, changes) => finishWith { e.replace t with changes } c.returning changes
    | none => e.abort

def delete (e : Engine) (t : Table) (condition : Expression) : Effect :=
  e.prepared (e.condition? t condition) fun condition =>
    match e.found? t condition with
    | some found => finish { e.replace (t.removeAll found) with changes := found.length }
    | none => e.abort

/-- Runs a statement. -/
def exec (e : Engine) : Statement → Effect
  | .createTable name keyColumn columns =>
    if (e.table? name).isSome then e.refuse
    else finish { e with tables := e.tables ++ [⟨name, keyColumn, columns, []⟩] }
  | .createIndex table columns =>
    e.withTable table fun t => e.prepared (t.columnsNamed? columns) fun _ => e.finish
  | .dropTable name =>
    e.withTable name fun _ =>
      finish { e with tables := e.tables.filter fun t => t.name != name }
  | .insert i => e.withTable i.table fun t => e.insert t i
  | .update c => e.withTable c.table fun t => e.update t c
  | .delete table condition => e.withTable table fun t => e.delete t condition
  | .select q => e.select q
  | .tableNames =>
    let names := (e.tables.map (·.name)).filter (· != "migrations")
    e.answer ((names.mergeSort (· ≤ ·)).map fun name => ⟨[("name", .string name)]⟩)
  | .foreignKeys => e.answer [⟨[("foreign_keys", .int 1)]⟩]
  | .beginTransaction =>
    match e.saved with
    | none => finish { e with saved := some e.tables }
    | some _ => e.refuse
  | .rollBack =>
    match e.saved with
    | some tables => finish { e with tables, saved := none }
    | none => e.refuse

/-- Runs statements in turn up to the first that fails. -/
def execAll (e : Engine) : List (List Token) → Effect
  | [] => e.finish
  | tokens :: rest =>
    match Statement.read? tokens with
    | none => e.refuse
    | some statement =>
      match e.exec statement with
      | (.ok _, e) => e.execAll rest
      | failed => failed

end Engine

end FluentSql.Sqlite
