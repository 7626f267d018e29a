import FluentSql.Proofs.Query.Vocabulary
import FluentSql.Query.Basic

/-!
# Terminals

A terminal ends a query. Each is a session that stops with an error before anything is
sent, or sends one statement, and goes on with nothing but its answer. Which of the two
it is depends on the query and the payload alone.
-/

namespace FluentSql

inductive Terminal where
  | get
  | first
  | count
  | insertMany (records : List Record) (validate : Bool)
  | update (data : Record)
  | delete

namespace Session

/-- One statement is sent, and its answer ends the session. -/
def Asks {α : Type} (x : Session α) (s : BoundStatement) : Prop :=
  ∃ next, x = .send s next ∧ ∀ answer, ∃ r, next answer = .done r

/-- The session stops with the error, or asks the statement. -/
def Follows {α : Type} (x : Session α) : Except Error BoundStatement → Prop
  | .error e => x = .done (.error e)
  | .ok s => x.Asks s

/-- The statement is sent, whatever was answered before it. -/
inductive Sends {α : Type} : Session α → BoundStatement → Prop
  | here {s : BoundStatement} {next : Except Error Output → Session α} : Sends (.send s next) s
  | later {s s' : BoundStatement} {next : Except Error Output → Session α}
      (answer : Except Error Output) (h : Sends (next answer) s') : Sends (.send s next) s'
  | logged {s : BoundStatement} {entry : LogEntry} {next : Session α} (h : Sends next s) :
      Sends (.log entry next) s

theorem Asks.sends {α : Type} {x : Session α} {s : BoundStatement} (h : x.Asks s) : x.Sends s := by
  obtain ⟨next, rfl, _⟩ := h
  exact .here

/-- A session that follows a statement sends this statement or nothing. -/
theorem Follows.sends_iff {α : Type} {x : Session α} {r : Except Error BoundStatement}
    (h : x.Follows r) {s : BoundStatement} : x.Sends s ↔ r = .ok s := by
  cases r with
  | error e =>
    obtain rfl : x = .done (.error e) := h
    constructor <;> (intro h; cases h)
  | ok s' =>
    obtain ⟨next, rfl, hnext⟩ := h
    constructor
    · intro hsends
      cases hsends with
      | here => rfl
      | later answer hlater =>
        obtain ⟨r, hdone⟩ := hnext answer
        rw [hdone] at hlater
        cases hlater
    · intro hs
      obtain rfl := Except.ok.inj hs
      exact .here

/-- What is done with the answer to a statement without asking again. -/
theorem asks_ask {α : Type} (s : BoundStatement) {f : Output → Session α}
    (h : ∀ output, ∃ r, f output = .done r) : Asks (ask s >>= f) s := by
  refine ⟨_, rfl, ?_⟩
  intro answer
  cases answer with
  | ok output => exact h output
  | error e => exact ⟨.error e, rfl⟩

theorem follows_ofExcept {α : Type} (x : Except Error BoundStatement)
    {f : BoundStatement → Session α} (h : ∀ s, (f s).Asks s) :
    Follows (ofExcept x >>= f) x := by
  cases x with
  | error e => rfl
  | ok s => exact h s

/-- A pure step behind a question changes nothing of what is asked. -/
theorem Asks.bind {α β : Type} {x : Session α} {s : BoundStatement} (h : x.Asks s)
    {f : α → Session β} (hf : ∀ a, ∃ r, f a = .done r) : (x >>= f).Asks s := by
  obtain ⟨next, rfl, hnext⟩ := h
  refine ⟨_, rfl, ?_⟩
  intro answer
  obtain ⟨r, hr⟩ := hnext answer
  show ∃ r, (next answer).thenWith _ = .done r
  rw [hr]
  cases r with
  | ok a => exact hf a
  | error e => exact ⟨.error e, rfl⟩

end Session

/-- What a terminal ends with. -/
def Terminal.Answer (α : Type) : Terminal → Type
  | .get => List α
  | .first => Option α
  | .count => Int64
  | .insertMany _ _ => Value
  | .update _ => Bool
  | .delete => Bool

theorem QueryState.joins_guardReads (q : QueryState) : q.guardReads.joins = q.joins := by
  unfold guardReads
  split <;> rfl

namespace Query

/-- The session of a terminal. -/
def perform (α : Type) [Hydrates α] (q : Query) (now : DateTime) :
    (t : Terminal) → Session (t.Answer α)
  | .get => q.get α
  | .first => q.first α
  | .count => q.count
  | .insertMany records validate => q.insertMany records validate
  | .update data => q.update data
  | .delete => q.delete now

/-- The statement of a terminal, or the error that comes before it. -/
def statement (q : Query) (now : DateTime) : Terminal → Except Error BoundStatement
  | .get => .ok q.selection
  | .first => .ok { q with state.limit := some 1 }.selection
  | .count => .ok (q.readState.compileCount q.dialect)
  | .insertMany records validate => q.insertion records validate
  | .update data => q.modification data
  | .delete =>
    if q.softDelete then q.modification (Model.deletion now)
    else q.state.compileDelete q.dialect

variable (α : Type) [Hydrates α]

theorem asks_get (q : Query) : (q.get α).Asks q.selection := by
  apply Session.asks_ask
  intro output
  cases output.expectRows with
  | ok rows => exact ⟨_, rfl⟩
  | error e => exact ⟨_, rfl⟩

theorem follows_update (q : Query) (data : Record) :
    (q.update data).Follows (q.modification data) := by
  apply Session.follows_ofExcept
  intro s
  exact Session.asks_ask s fun output => ⟨_, rfl⟩

/-- Every terminal follows its statement. -/
theorem perform_follows (q : Query) (now : DateTime) (t : Terminal) :
    (q.perform α now t).Follows (q.statement now t) := by
  cases t with
  | get => exact asks_get α q
  | first => exact (asks_get α { q with state.limit := some 1 }).bind fun rows => ⟨_, rfl⟩
  | count => exact Session.asks_ask _ fun output => ⟨_, rfl⟩
  | insertMany records validate =>
    apply Session.follows_ofExcept
    intro s
    exact Session.asks_ask s fun output => ⟨_, rfl⟩
  | update data => exact follows_update q data
  | delete =>
    show (q.delete now).Follows _
    unfold delete statement
    cases q.softDelete with
    | true => exact follows_update q (Model.deletion now)
    | false =>
      apply Session.follows_ofExcept
      intro s
      exact Session.asks_ask s fun output => ⟨_, rfl⟩

theorem asks_of_statement {q : Query} {now : DateTime} {t : Terminal} {s : BoundStatement}
    (h : q.statement now t = .ok s) : (q.perform α now t).Asks s := by
  have hfollows := perform_follows α q now t
  rw [h] at hfollows
  exact hfollows

end Query

end FluentSql
