import FluentSql.Connection.Manager
import FluentSql.Sqlite.Binding
import FluentSql.Sqlite.Engine

/-!
# SQLite connections

A connection sends statements to its engine and brings what comes back into the form of
their kind. A closed connection stays closed. Connections of a manager are opened on the
database its settings name: in memory, which is empty each time, or at what a `Disk`
has at the path.
-/

namespace FluentSql.Sqlite

/-- A connection, with its engine until it is closed. -/
structure Connection where
  engine : Option Engine

namespace Connection

/-- A connection to a database with the tables. -/
def ofTables (tables : List Table) : Connection :=
  ⟨some (.ofTables tables)⟩

/-- The output of a statement of the kind that was run. -/
def output (kind : StatementKind) (statement : Statement) (rows : List Row) (e : Engine) :
    Output :=
  if kind = .select ∨ (kind = .other ∧ statement.hasColumns) then .rows rows
  else .ofCounts kind e.changes (if kind = .insert then some (.int e.lastKey) else none)

/-- Runs a text: a script of any number of statements if it defines the schema and has
no parameters, and else one statement, whatever follows it. -/
def run (sql : String) (params : List Value) (e : Engine) : Except Fault Output × Engine :=
  let kind := StatementKind.classify sql
  let tokens := Token.read sql
  if kind = .ddl ∧ params.isEmpty then
    let (outcome, e) := e.execAll (Token.statements tokens)
    (outcome.map fun _ => .done, e)
  else
    match Token.bind sql (params.map Cell.ofValue) (Token.firstStatement tokens) with
    | .error fault => (.error fault, e)
    | .ok tokens =>
      match Statement.read? tokens with
      | none => (.error .untold, e)
      | some statement =>
        let (outcome, e) := e.exec statement
        (outcome.map fun rows => output kind statement rows e, e)

def query (sql : String) (params : List Value) (c : Connection) :
    Except Error Output × Connection :=
  match c.engine with
  | none => (.error (.driver "SQLite connection is closed"), c)
  | some e =>
    let (r, e) := run sql params e
    (r.mapError Fault.toError, ⟨some e⟩)

def close (_ : Connection) : Connection :=
  ⟨none⟩

end Connection

/-- What is found at the path of a database. -/
inductive Disk where
  /-- A database file, or none yet. -/
  | file (tables : List Table)
  /-- A path below something that is no directory. -/
  | belowFile
  | directory

/-- A disk with the one connection to it. -/
structure Station where
  disk : Disk
  connection : Connection

namespace Station

def inMemory (settings : DatabaseSettings) : Bool :=
  settings.sqlite.path.text == ":memory:"

/-- The tables that a new connection finds. -/
def tables? (settings : DatabaseSettings) (s : Station) : Except Error (List Table) :=
  if inMemory settings then .ok []
  else match s.disk with
    | .file tables => .ok tables
    | .belowFile => .error (.io "Not a directory (os error 20)")
    | .directory => .error (.driver "sqlite connection error")

/-- The disk after a connection was closed: a file keeps what was committed. -/
def keep (inFile : Bool) (s : Station) : Disk :=
  match s.disk, s.connection.engine with
  | .file tables, some e => .file (if inFile then e.committed else tables)
  | disk, _ => disk

/-- An error of a statement without the engine's own words. -/
def plain (e : Error) : Error :=
  match e with
  | .driver _ => Fault.untold.toError
  | e => e

/-- The handle tells whether the connection is to a file. -/
def drivers : Drivers Bool Station where
  compiled d := d == .sqlite
  openUp _ settings s :=
    match s.tables? settings with
    | .ok tables => (.ok (!inMemory settings), { s with connection := .ofTables tables })
    | .error e => (.error e, s)
  query _ statement s :=
    let (r, connection) := s.connection.query statement.sql statement.params
    (r.mapError plain, { s with connection })
  schemaExists _ s := (.ok true, s)
  createSchema _ s := (.ok false, s)
  close inFile s := (.ok (), ⟨s.keep inFile, s.connection.close⟩)
  note _ s := s

end Station

end FluentSql.Sqlite
