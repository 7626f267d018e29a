import Mathlib.Logic.Function.Basic
import Mathlib.Logic.Relation
import FluentSql.Session.Basic

/-!
# Sessions that share a database

Several clients talk to one database at a time. Their statements arrive one by one, in any
order, and what the database answers is left open: it is a relation, so that a statement may go
through in one run and fail in another. A client that makes several calls counts as a client
for each of them.
-/

namespace FluentSql

/-- What a database may answer to a statement in a state, and the state that follows. -/
def Server (σ : Type) : Type :=
  BoundStatement → σ → Except Error Output → σ → Prop

variable {ι σ α : Type}

/-- A backend is a database that has one answer to everything. -/
def Backend.server (b : Backend σ) : Server σ :=
  fun statement s reply s' => b.answer statement s = (reply, s')

/-- Nothing more is sent by the session. -/
inductive Session.Quiet : Session α → Prop
  | done (result : Except Error α) : Quiet (.done result)
  | log {entry : LogEntry} {next : Session α} (h : Quiet next) : Quiet (.log entry next)

/-- What each client has still to do, and the state of the database. -/
structure Crowd (ι σ α : Type) where
  sessions : ι → Session α
  state : σ

namespace Crowd

variable [DecidableEq ι]

/-- The client goes on with the session. -/
def turn (c : Crowd ι σ α) (i : ι) (next : Session α) (s : σ) : Crowd ι σ α :=
  ⟨Function.update c.sessions i next, s⟩

theorem sessions_turn_self (c : Crowd ι σ α) (i : ι) (next : Session α) (s : σ) :
    (c.turn i next s).sessions i = next := by
  simp [turn]

theorem sessions_turn_of_ne (c : Crowd ι σ α) {i j : ι} (h : j ≠ i) (next : Session α) (s : σ) :
    (c.turn i next s).sessions j = c.sessions j := by
  simp [turn, h]

/-- One client goes on: its statement is answered, or it writes to its log. -/
inductive Step (server : Server σ) (c : Crowd ι σ α) : Crowd ι σ α → Prop
  | answered (i : ι) {statement : BoundStatement} {next : Except Error Output → Session α}
      {reply : Except Error Output} {s : σ} (hsend : c.sessions i = .send statement next)
      (hanswer : server statement c.state reply s) : Step server c (c.turn i (next reply) s)
  | logged (i : ι) {entry : LogEntry} {next : Session α}
      (hlog : c.sessions i = .log entry next) : Step server c (c.turn i next c.state)

/-- The clients come from one situation to another, in any order. -/
def Reaches (server : Server σ) : Crowd ι σ α → Crowd ι σ α → Prop :=
  Relation.ReflTransGen (Step server)

/-- The client goes on if it has something to do. -/
def advance (b : Backend σ) (c : Crowd ι σ α) (i : ι) : Crowd ι σ α :=
  match c.sessions i with
  | .done _ => c
  | .send statement next =>
    c.turn i (next (b.answer statement c.state).1) (b.answer statement c.state).2
  | .log _ next => c.turn i next c.state

/-- Every schedule of clients is one of the orders. -/
theorem reaches_foldl_advance (b : Backend σ) (schedule : List ι) (c : Crowd ι σ α) :
    Reaches b.server c (schedule.foldl (advance b) c) := by
  induction schedule generalizing c with
  | nil => exact .refl
  | cons i schedule ih =>
    have hnext := ih (advance b c i)
    rw [advance] at hnext
    rw [List.foldl_cons, advance]
    split at hnext
    · exact hnext
    · next hsend => exact .head (.answered i hsend rfl) hnext
    · next hlog => exact .head (.logged i hlog) hnext

end Crowd

end FluentSql
