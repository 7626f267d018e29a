import FluentSql.Clause.Fragment
import FluentSql.Dialect.Placeholder
import FluentSql.Session.Output

/-!
# Sessions

A session is a conversation with a database: it sends statements, goes on with what
comes back, writes to the log, and ends with a result or an error. It says nothing of
who answers; `Session.run` gives it a backend with a state of its own.
-/

namespace FluentSql

inductive LogLevel where
  | info | warn | error
  deriving DecidableEq

def LogLevel.name : LogLevel → String
  | info => "INFO"
  | warn => "WARN"
  | error => "ERROR"

structure LogEntry where
  level : LogLevel
  message : String
  deriving DecidableEq

def LogEntry.text (e : LogEntry) : String :=
  e.level.name ++ " " ++ e.message

/-- What answers statements and takes log entries, with a state of type `σ`. -/
structure Backend (σ : Type) where
  answer : BoundStatement → σ → Except Error Output × σ
  note : LogEntry → σ → σ

inductive Session (α : Type) where
  | done (result : Except Error α)
  | send (statement : BoundStatement) (next : Except Error Output → Session α)
  | log (entry : LogEntry) (next : Session α)

namespace Session

def ret {α : Type} (a : α) : Session α :=
  .done (.ok a)

def fail {α : Type} (e : Error) : Session α :=
  .done (.error e)

/-- The answer of a session that only computes. -/
def ofExcept {α : Type} (r : Except Error α) : Session α :=
  .done r

/-- Goes on with the result, or with the error. -/
def thenWith {α β : Type} : Session α → (Except Error α → Session β) → Session β
  | .done r, f => f r
  | .send s next, f => .send s fun answer => (next answer).thenWith f
  | .log e next, f => .log e (next.thenWith f)

/-- Goes on with the result; an error ends the session. -/
def bind {α β : Type} (x : Session α) (f : α → Session β) : Session β :=
  x.thenWith fun
    | .ok a => f a
    | .error e => .done (.error e)

instance : Monad Session where
  pure := ret
  bind := bind

/-- Sends a statement; its error ends the session. -/
def ask (statement : BoundStatement) : Session Output :=
  .send statement .done

/-- Sends a text written with question marks, in the placeholders of the dialect. -/
def query (d : Dialect) (sql : String) (params : List Value) : Session Output :=
  ask ⟨d.lowerPlaceholders sql, params⟩

def note (level : LogLevel) (message : String) : Session Unit :=
  .log ⟨level, message⟩ (.done (.ok ()))

/-- The result of a session against a backend, and the last state of the backend. -/
def run {α σ : Type} (b : Backend σ) : Session α → σ → Except Error α × σ
  | .done r, s => (r, s)
  | .send statement next, s =>
    let (reply, s) := b.answer statement s
    run b (next reply) s
  | .log entry next, s => run b next (b.note entry s)

end Session

end FluentSql
