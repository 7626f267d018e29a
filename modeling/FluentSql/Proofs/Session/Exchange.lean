import FluentSql.Session.Basic

/-!
# Exchanges of a session

A session that runs against a backend leaves a trace: each statement it sent, the state
of the backend at that moment and the reply. Where one session goes on behind another,
so do their traces.
-/

namespace FluentSql

/-- A statement, the state it met, and the reply. -/
structure Exchange (σ : Type) where
  statement : BoundStatement
  before : σ
  reply : Except Error Output

variable {σ α β : Type}

def Exchange.answered (e : Exchange σ) : Bool :=
  match e.reply with
  | .ok _ => true
  | .error _ => false

/-- A text written with question marks, as the dialect sends it. -/
def Dialect.bound (d : Dialect) (sql : String) (params : List Value) : BoundStatement :=
  ⟨d.lowerPlaceholders sql, params⟩

/-- The exchange of a statement in a state of the backend. -/
def Backend.exchange (b : Backend σ) (statement : BoundStatement) (s : σ) : Exchange σ :=
  ⟨statement, s, (b.answer statement s).1⟩

namespace Backend

variable {b : Backend σ} {statement : BoundStatement} {s s' : σ}

theorem answered_exchange_iff : (b.exchange statement s).answered = true ↔
    ∃ output s', b.answer statement s = (.ok output, s') := by
  unfold exchange Exchange.answered
  rcases b.answer statement s with ⟨reply, s'⟩
  cases reply with
  | error e =>
    constructor
    · intro h
      cases h
    · rintro ⟨output, s'', h⟩
      cases h
  | ok output => exact ⟨fun _ => ⟨output, s', rfl⟩, fun _ => rfl⟩

theorem reply_exchange {reply : Except Error Output} (h : b.answer statement s = (reply, s')) :
    (b.exchange statement s).reply = reply := by
  rw [exchange, h]

theorem answered_exchange_of_error {e : Error} (h : b.answer statement s = (.error e, s')) :
    (b.exchange statement s).answered = false := by
  rw [exchange, h]
  rfl

end Backend

namespace Session

/-- What a session sends to a backend, in order. -/
def exchanges (b : Backend σ) : Session α → σ → List (Exchange σ)
  | .done _, _ => []
  | .send statement next, s =>
    b.exchange statement s ::
      exchanges b (next (b.answer statement s).1) (b.answer statement s).2
  | .log entry next, s => exchanges b next (b.note entry s)

/-- The trace, the result and the last state of a session. -/
structure Yields (b : Backend σ) (x : Session α) (s : σ) (es : List (Exchange σ))
    (r : Except Error α) (s' : σ) : Prop where
  exchanges_eq : x.exchanges b s = es
  run_eq : x.run b s = (r, s')

variable {b : Backend σ} {s s' s'' : σ} {es fs : List (Exchange σ)}

theorem yields_self (b : Backend σ) (x : Session α) (s : σ) :
    Yields b x s (x.exchanges b s) (x.run b s).1 (x.run b s).2 :=
  ⟨rfl, rfl⟩

theorem yields_ofExcept (b : Backend σ) (r : Except Error α) (s : σ) :
    Yields b (ofExcept r) s [] r s :=
  ⟨rfl, rfl⟩

theorem Yields.thenWith {x : Session α} {f : Except Error α → Session β} {r : Except Error α}
    {r' : Except Error β} (hx : Yields b x s es r s') (hf : Yields b (f r) s' fs r' s'') :
    Yields b (x.thenWith f) s (es ++ fs) r' s'' := by
  induction x generalizing s es with
  | done result =>
    obtain ⟨rfl, hrun⟩ := hx
    obtain ⟨rfl, rfl⟩ := Prod.mk.inj hrun
    exact hf
  | send statement next ih =>
    obtain ⟨rfl, hrun⟩ := hx
    obtain ⟨hexchanges, hlast⟩ := ih _ ⟨rfl, hrun⟩
    exact ⟨congrArg _ hexchanges, hlast⟩
  | log entry next ih =>
    obtain ⟨rfl, hrun⟩ := hx
    obtain ⟨hexchanges, hlast⟩ := ih ⟨rfl, hrun⟩
    exact ⟨hexchanges, hlast⟩

theorem Yields.bind {x : Session α} {f : α → Session β} {a : α} {r : Except Error β}
    (hx : Yields b x s es (.ok a) s') (hf : Yields b (f a) s' fs r s'') :
    Yields b (x >>= f) s (es ++ fs) r s'' :=
  hx.thenWith hf

theorem Yields.bind_error {x : Session α} {f : α → Session β} {e : Error}
    (hx : Yields b x s es (.error e) s') : Yields b (x >>= f) s es (.error e) s' := by
  have hall : Yields b (x >>= f) s (es ++ []) (.error e) s' :=
    hx.thenWith (yields_ofExcept b (.error e) s')
  rw [List.append_nil] at hall
  exact hall

/-- What goes on behind two parts goes on behind the second. -/
theorem bind_assoc {γ : Type} (x : Session α) (f : α → Session β) (g : β → Session γ) :
    x >>= f >>= g = x >>= fun a => f a >>= g := by
  induction x with
  | done result => cases result <;> rfl
  | send statement next ih => exact congrArg (send statement) (funext ih)
  | log entry next ih => exact congrArg (log entry) ih

/-- What a part sends is sent first, whatever comes of it. -/
theorem Yields.exchanges_bind {x : Session α} {f : α → Session β} {r : Except Error α}
    (hx : Yields b x s es r s') : ∃ rest, (x >>= f).exchanges b s = es ++ rest := by
  cases r with
  | error e => exact ⟨[], hx.bind_error.exchanges_eq.trans (List.append_nil es).symm⟩
  | ok a =>
    exact ⟨_, (hx.bind (yields_self b (f a) s')).exchanges_eq⟩

theorem yields_pure (b : Backend σ) (a : α) (s : σ) : Yields b (pure a) s [] (.ok a) s :=
  ⟨rfl, rfl⟩

theorem yields_note (b : Backend σ) (level : LogLevel) (message : String) (s : σ) :
    Yields b (note level message) s [] (.ok ()) (b.note ⟨level, message⟩ s) :=
  ⟨rfl, rfl⟩

theorem yields_query {d : Dialect} {sql : String} {params : List Value}
    {reply : Except Error Output} (h : b.answer (d.bound sql params) s = (reply, s')) :
    Yields b (query d sql params) s [b.exchange (d.bound sql params) s] reply s' :=
  ⟨rfl, h⟩

/-- Every statement that the session sends is answered. -/
def AllAnswered (b : Backend σ) (x : Session α) (s : σ) : Prop :=
  ∀ e ∈ x.exchanges b s, e.answered = true

/-- A session whose first part ends well is answered as far as both parts are. -/
theorem allAnswered_bind {x : Session α} {f : α → Session β} {a : α}
    (hx : Yields b x s es (.ok a) s') (h : AllAnswered b (x >>= f) s) :
    AllAnswered b (f a) s' := by
  have hall := hx.bind (yields_self b (f a) s')
  intro e he
  apply h
  rw [hall.exchanges_eq]
  exact List.mem_append_right es he

theorem allAnswered_of_bind {x : Session α} {f : α → Session β} (h : AllAnswered b (x >>= f) s) :
    AllAnswered b x s := by
  obtain ⟨rest, hall⟩ := (yields_self b x s).exchanges_bind (f := f)
  intro e he
  apply h
  rw [hall]
  exact List.mem_append_left rest he

/-- A query that is answered yields its output. -/
theorem AllAnswered.query {d : Dialect} {sql : String} {params : List Value}
    (h : AllAnswered b (query d sql params) s) :
    ∃ output s', b.answer (d.bound sql params) s = (.ok output, s') :=
  Backend.answered_exchange_iff.mp (h _ (List.mem_singleton_self _))

end Session

end FluentSql
