import FluentSql.Model.Guard
import FluentSql.Query.Compile
import FluentSql.Session.Basic

/-!
# Queries

A query is a state with its dialect and, for a model, the model's declarations. Reads
of a soft-delete model carry the read guard. Each terminal is a session that sends one
statement at most.
-/

namespace FluentSql

structure Query where
  dialect : Dialect
  model : Option Model
  state : QueryState

namespace Query

def ofTable (dialect : Dialect) (table : String) : Except Error Query := do
  let state ← QueryState.start table
  return ⟨dialect, none, state⟩

def ofModel (dialect : Dialect) (model : Model) : Except Error Query := do
  let state ← QueryState.start model.table
  return ⟨dialect, some model, state⟩

/-- Runs a clause call. -/
def apply (q : Query) (call : QueryCall) : Except Error Query := do
  let state ← q.state.apply call
  return { q with state }

def softDelete (q : Query) : Bool :=
  q.model.any (·.softDelete)

/-- The state with the read guard, if the model has one. -/
def readState (q : Query) : QueryState :=
  if q.softDelete then q.state.guardReads else q.state

/-- The SELECT statement of a query. -/
def selection (q : Query) : BoundStatement :=
  q.readState.compileSelect q.dialect

def toSql (q : Query) : String :=
  q.selection.sql

/-- The SELECT statement with its values written in, for a trace. -/
def toSqlWithValues (q : Query) : String :=
  q.dialect.interpolate q.selection.sql q.selection.params

def bindings (q : Query) : List Value :=
  q.readState.bindings

/-- All rows of a query. -/
def get (α : Type) [Hydrates α] (q : Query) : Session (List α) := do
  let output ← Session.ask q.selection
  let rows ← Session.ofExcept output.expectRows
  return rows.map fun row => Hydrates.hydrate row q.model

/-- The first row of a query, which is limited to one. -/
def first (α : Type) [Hydrates α] (q : Query) : Session (Option α) := do
  let found ← { q with state.limit := some 1 }.get α
  return found.head?

def count (q : Query) : Session Int64 := do
  let output ← Session.ask (q.readState.compileCount q.dialect)
  Session.ofExcept output.count

/-- The checks of an insert and its statement. -/
def insertion (q : Query) (records : List Record) (validate : Bool) :
    Except Error BoundStatement := do
  if q.state.hasClauses then throw (.state .insertWithClauses)
  if records.isEmpty then throw (.argument .noRecords)
  match q.model with
  | some m => if validate then m.validate records
  | none => pure ()
  QueryState.compileInsert q.dialect q.state.table records

/-- Inserts records and gives the generated id, or NULL. -/
def insertMany (q : Query) (records : List Record) (validate : Bool) : Session Value := do
  let statement ← Session.ofExcept (q.insertion records validate)
  let output ← Session.ask statement
  return output.insertId?.getD .null

def insert (q : Query) (record : Record) (validate : Bool) : Session Value :=
  q.insertMany [record] validate

/-- The checks of an update and its statement. -/
def modification (q : Query) (data : Record) : Except Error BoundStatement := do
  match q.model with
  | some m => m.validate [data]
  | none => pure ()
  q.readState.compileUpdate q.dialect data

/-- Updates the rows of a query and tells whether there were any. -/
def update (q : Query) (data : Record) : Session Bool := do
  let statement ← Session.ofExcept (q.modification data)
  let output ← Session.ask statement
  return output.toBool

/-- Deletes the rows of a query; on a soft-delete model they are marked with `now`. -/
def delete (q : Query) (now : DateTime) : Session Bool :=
  if q.softDelete then q.update (Model.deletion now)
  else do
    let statement ← Session.ofExcept (q.state.compileDelete q.dialect)
    let output ← Session.ask statement
    return output.toBool

end Query

end FluentSql
