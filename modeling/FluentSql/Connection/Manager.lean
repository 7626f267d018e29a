import FluentSql.Migration.Tables
import FluentSql.Settings.Basic

/-!
# Connection managers

A manager holds at most one connection of its dialect. It opens the connection when it
is first needed, and again after it was closed. What connections do, and for which dialects
there are any, is given by `Drivers`, for connections of type `δ` in a world of states `σ`.
-/

namespace FluentSql

/-- How connections are opened, used and closed. -/
structure Drivers (δ σ : Type) where
  /-- Whether connections of a dialect can be opened. -/
  compiled : Dialect → Bool
  openUp : Dialect → DatabaseSettings → σ → Except Error δ × σ
  query : δ → BoundStatement → σ → Except Error Output × σ
  schemaExists : δ → σ → Except Error Bool × σ
  createSchema : δ → σ → Except Error Bool × σ
  close : δ → σ → Except Error Unit × σ
  note : LogEntry → σ → σ

structure Manager (δ : Type) where
  dialect : Dialect
  settings : DatabaseSettings
  /-- The open connection. -/
  slot : Option δ
  /-- Whether a shutdown was asked for. -/
  shuttingDown : Bool

/-- Work with a manager in a world, which may fail. -/
abbrev Managed (δ σ α : Type) := ExceptT Error (StateM (Manager δ × σ)) α

/-- The drivers of a build that does not choose any. -/
def Dialect.hasDriver (d : Dialect) : Bool :=
  d == .sqlite

def missingDriver (d : Dialect) : Error :=
  .unsupportedDialect (d.name ++ " (driver not compiled in)")

namespace Manager

variable {δ σ : Type}

/-- A manager without a connection, for the dialect the settings name. -/
def ofSettings (settings : DatabaseSettings) (compiled : Dialect → Bool := Dialect.hasDriver) :
    Except Error (Manager δ) := do
  let dialect ← Dialect.read settings.dialect
  if compiled dialect then return ⟨dialect, settings, none, false⟩
  else .error (missingDriver dialect)

/-- A manager around a connection that is open. -/
def around (dialect : Dialect) (settings : DatabaseSettings) (connection : δ) : Manager δ :=
  ⟨dialect, settings, some connection, false⟩

def isConnected (m : Manager δ) : Bool :=
  m.slot.isSome

/-- The name of the database on the server; SQLite has none. -/
def databaseName (m : Manager δ) : Option String :=
  match m.dialect with
  | .mySql => some m.settings.mySql.database
  | .postgreSql => some m.settings.postgreSql.database
  | .sqlite => none

def target (m : Manager δ) : MigrationTarget :=
  ⟨m.dialect, m.databaseName⟩

/-- The manager in a diagnostic. -/
def inspect (m : Manager δ) : String :=
  let dialect := match m.dialect with
    | .mySql => "MySql"
    | .postgreSql => "PostgreSql"
    | .sqlite => "Sqlite"
  let trace := if m.settings.queryTrace then "true" else "false"
  "ConnectionManager \x7b dialect: " ++ dialect ++ ", query_trace: " ++ trace ++ ", .. \x7d"

/-- Applies an action of the world. -/
def act {α : Type} (f : σ → Except Error α × σ) : Managed δ σ α :=
  fun (m, s) =>
    let (r, s) := f s
    (r, (m, s))

def write (drivers : Drivers δ σ) (level : LogLevel) (message : String) : Managed δ σ Unit :=
  act fun s => (.ok (), drivers.note ⟨level, message⟩ s)

def current : Managed δ σ (Manager δ) :=
  fun (m, s) => (.ok m, (m, s))

def setSlot (slot : Option δ) : Managed δ σ Unit :=
  fun (m, s) => (.ok (), ({ m with slot }, s))

/-- Opens a connection and keeps it. -/
def connect (drivers : Drivers δ σ) : Managed δ σ δ := do
  let m ← current
  if drivers.compiled m.dialect then
    let connection ← act (drivers.openUp m.dialect m.settings)
    write drivers .info "database connection opened"
    setSlot (some connection)
    return connection
  else throw (missingDriver m.dialect)

/-- The open connection, opened first if needed. -/
def connection (drivers : Drivers δ σ) : Managed δ σ δ := do
  let m ← current
  match m.slot with
  | some connection => return connection
  | none => connect drivers

/-- Sends a statement as it is, after a trace of it if the settings ask for one. -/
def execute (drivers : Drivers δ σ) (statement : BoundStatement) : Managed δ σ Output := do
  let m ← current
  if m.settings.queryTrace then
    write drivers .info
      ("Query Trace: " ++ m.dialect.interpolate statement.sql statement.params)
  let connection ← connection drivers
  act (drivers.query connection statement)

/-- Sends a text written with question marks. -/
def runQuery (drivers : Drivers δ σ) (sql : String) (params : List Value) :
    Managed δ σ Output := do
  let m ← current
  execute drivers ⟨m.dialect.lowerPlaceholders sql, params⟩

/-- Takes the connection out of the manager and closes it. -/
def close (drivers : Drivers δ σ) : Managed δ σ Unit := do
  let m ← current
  match m.slot with
  | none => return ()
  | some connection =>
    setSlot none
    act (drivers.close connection)
    write drivers .info "database connection closed"

/-- Closes the connection the first time it is called; it never fails. -/
def shutdown (drivers : Drivers δ σ) : Managed δ σ Unit :=
  fun (m, s) =>
    if m.shuttingDown then (.ok (), (m, s))
    else match close drivers ({ m with shuttingDown := true }, s) with
      | (.ok (), state) => write drivers .info "Database connection closed." state
      | (.error _, state) => write drivers .error "failed to close database connection" state

/-- The name of the database if the server does not have it. -/
def missingSchema (drivers : Drivers δ σ) : Managed δ σ (Option String) := do
  let m ← current
  match m.databaseName with
  | none => return none
  | some name =>
    let connection ← connection drivers
    let found ← act (drivers.schemaExists connection)
    return if found then none else some name

/-- Creates the database unless the server has it, and tells whether it did. -/
def createSchema (drivers : Drivers δ σ) : Managed δ σ Bool := do
  let m ← current
  if m.dialect = .sqlite then return false
  else
    let connection ← connection drivers
    let found ← act (drivers.schemaExists connection)
    if found then return false
    else
      write drivers .info "Creating schema..."
      act (drivers.createSchema connection)

/-- The manager as a backend of sessions. -/
def backend (drivers : Drivers δ σ) : Backend (Manager δ × σ) where
  answer statement state := execute drivers statement state
  note entry state := (state.1, drivers.note entry state.2)

/-- A session over the manager. -/
def converse {α : Type} (drivers : Drivers δ σ) (x : Session α) : Managed δ σ α :=
  fun state => x.run (backend drivers) state

end Manager

end FluentSql
