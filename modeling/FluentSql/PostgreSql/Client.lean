import FluentSql.Dialect.Literal
import FluentSql.PostgreSql.Fault
import FluentSql.PostgreSql.Parameter
import FluentSql.PostgreSql.Returning
import FluentSql.Session.Output
import FluentSql.Settings.Basic

/-!
# PostgreSQL clients

A client keeps one connection, made by the first statement. Statements are prepared,
which tells the types of their slots and columns; parameters are bound to the slots and
result columns read by their types. Texts of a log-in and of statements travel with a
NUL behind them, so those with a NUL inside are not sent at all. What a server does is
given by `Host`, for a server with states of type `σ`.
-/

namespace FluentSql.PostgreSql

/-- What the server tells about a prepared statement. -/
structure Prepared where
  slots : List SlotType
  columns : List (String × SlotType)

/-- What an executed statement comes back with. -/
structure Reply where
  rows : List (List (Option Datum))
  affected : Nat

/-- How a server is talked to. Each action may be refused. -/
structure Host (σ : Type) where
  /-- Log in to a database. -/
  connect : (user database password : String) → σ → Bool × σ
  /-- Run a text of statements without parameters. -/
  simple : String → σ → Bool × σ
  prepare : String → σ → Option Prepared × σ
  /-- Run a prepared text with what is bound to its slots. -/
  execute : String → List (Option Datum) → σ → Option Reply × σ

inductive ConnectionState where
  | idle | connected | closed
  deriving DecidableEq

structure Client where
  settings : ServerSettings
  connection : ConnectionState

namespace Client

/-- Work of a client with its server, which may fail. -/
abbrev Talk (σ α : Type) := ExceptT Fault (StateM (Client × σ)) α

variable {σ : Type}

/-- The database that every server has. -/
def maintenanceDatabase : String := "postgres"

/-- A client that has not connected yet; it needs the name of a database. -/
def ofSettings (settings : ServerSettings) : Except Error Client :=
  if settings.database = "" then
    .error (.configuration
      "Failed to create pool: Config: configuration property \"dbname\" not found")
  else .ok ⟨settings, .idle⟩

/-- An action of the server. -/
def act {α : Type} (f : σ → α × σ) : Talk σ α :=
  fun (c, s) =>
    let (a, s) := f s
    (.ok a, (c, s))

def current : Talk σ Client :=
  fun (c, s) => (.ok c, (c, s))

def setConnection (connection : ConnectionState) : Talk σ Unit :=
  fun (c, s) => (.ok (), ({ c with connection }, s))

/-- Goes on with what was granted. -/
def granted {α : Type} (fault : Fault) : Option α → Talk σ α
  | some a => return a
  | none => throw fault

/-- Goes on unless a check found a fault. -/
def checked {α : Type} : Except Fault α → Talk σ α
  | .ok a => return a
  | .error fault => throw fault

/-- Whether a text can be sent. -/
def isSendable (s : String) : Bool :=
  s.toList.all (· != '\x00')

/-- Logs in to a database of the server. -/
def logIn (host : Host σ) (database : String) : Talk σ Unit := do
  let c ← current
  if [c.settings.user, database, c.settings.password].all isSendable then
    let welcome ← act (host.connect c.settings.user database c.settings.password)
    if welcome then return () else throw .refused
  else throw .unsendableLogin

/-- Connects unless there is a connection. -/
def connect (host : Host σ) : Talk σ Unit := do
  let c ← current
  match c.connection with
  | .closed => throw .closed
  | .connected => return ()
  | .idle =>
    logIn host c.settings.database
    setConnection .connected

/-- Runs a text without parameters. -/
def runSimple (host : Host σ) (sql : String) : Talk σ Unit := do
  if isSendable sql then
    let done ← act (host.simple sql)
    if done then return () else throw .rejected
  else throw .unsendable

def prepare (host : Host σ) (sql : String) : Talk σ Prepared := do
  if isSendable sql then
    let answer ← act (host.prepare sql)
    granted .rejected answer
  else throw .unsendable

/-- The parameters of values; a value without a slot is taken as text. -/
def parameters : List SlotType → List Value → List Parameter
  | _, [] => []
  | [], v :: values => .ofValue .text v :: parameters [] values
  | t :: slots, v :: values => .ofValue t v :: parameters slots values

/-- What arrives in the slots; the first parameter that does not fit is a fault. -/
def fill (index : Nat) : List (Parameter × SlotType) → Except Fault (List (Option Datum))
  | [] => .ok []
  | (p, t) :: rest =>
    if p.fits t then (fill (index + 1) rest).map (p.arrival :: ·)
    else .error (.misfit index)

/-- What arrives when each slot is bound to one parameter. -/
def fillSlots (slots : List SlotType) (params : List Parameter) :
    Except Fault (List (Option Datum)) :=
  if params.length = slots.length then fill 0 (params.zip slots)
  else .error (.parameterCount slots.length params.length)

/-- Binds parameters to the slots of a prepared text and runs it. -/
def execute (host : Host σ) (sql : String) (slots : List SlotType) (params : List Parameter) :
    Talk σ Reply := do
  let bound ← checked (fillSlots slots params)
  let answer ← act (host.execute sql bound)
  granted .rejected answer

/-- Reads columns by their types, the first of them at position `index`. -/
def readCells (index : Nat) :
    List ((String × SlotType) × Option Datum) → Except Fault (List (String × Value))
  | [] => .ok []
  | ((name, t), x) :: rest =>
    if t.isForeign then .error (.undecodable name t index)
    else (readCells (index + 1) rest).map ((name, x.elim .null Datum.toValue) :: ·)

def readRow (columns : List (String × SlotType)) (cells : List (Option Datum)) :
    Except Fault Row :=
  (readCells 0 (columns.zip cells)).map Row.mk

/-- The column `id` of the first row; NULL if there is none. -/
def insertedId (rows : List Row) : Value :=
  (rows.head?.bind fun row => row.value? "id").getD .null

/-- Sends a statement and brings what comes back into the form of its kind. -/
def query (host : Host σ) (sql : String) (values : List Value) : Talk σ Output := do
  connect host
  let kind := StatementKind.classify sql
  if kind = .ddl ∧ values.isEmpty then
    runSimple host sql
    return .done
  else
    let sql := if kind = .insert then Returning.ensure sql else sql
    let prepared ← prepare host sql
    let reply ← execute host sql prepared.slots (parameters prepared.slots values)
    if kind = .insert then
      let rows ← checked (reply.rows.mapM (readRow prepared.columns))
      return Output.ofCounts kind rows.length (some (insertedId rows))
    else if kind = .select ∨ prepared.columns ≠ [] then
      let rows ← checked (reply.rows.mapM (readRow prepared.columns))
      return .rows rows
    else return Output.ofCounts kind reply.affected none

def existenceQuery : String := "SELECT 1 FROM pg_database WHERE datname = $1"

/-- Whether the server has the database; asked over a connection of its own. -/
def schemaExists (host : Host σ) : Talk σ Bool := do
  logIn host maintenanceDatabase
  let c ← current
  let prepared ← prepare host existenceQuery
  let name := Parameter.datum (.text c.settings.database)
  let reply ← execute host existenceQuery prepared.slots [name]
  return !reply.rows.isEmpty

/-- Creates the database, over a connection of its own. -/
def createSchema (host : Host σ) : Talk σ Bool := do
  logIn host maintenanceDatabase
  let c ← current
  runSimple host ("CREATE DATABASE " ++ Dialect.postgreSql.quoteIdentifier c.settings.database)
  return true

/-- Gives the connection up; from now on no statement is sent. -/
def close : Talk σ Unit :=
  setConnection .closed

end Client

end FluentSql.PostgreSql
