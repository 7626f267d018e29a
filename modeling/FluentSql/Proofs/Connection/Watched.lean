import FluentSql.Connection.Manager
import FluentSql.Proofs.Connection.History

/-!
# Watched connections

Drivers whose connections are numbered as they come, and which record what is done to each of
them. Watching changes nothing else: without the numbers and the record, a run of calls on a
manager is the run that the bare drivers have.
-/

namespace FluentSql

variable {δ σ : Type}

/-- A world with the number of connections so far and the record of what happened to them. -/
structure Watched (σ : Type) where
  world : σ
  count : Nat
  record : List ConnectionEvent

def Drivers.watched (drivers : Drivers δ σ) : Drivers (Nat × δ) (Watched σ) where
  compiled := drivers.compiled
  openUp dialect settings w :=
    match drivers.openUp dialect settings w.world with
    | (.ok connection, world) =>
      (.ok (w.count, connection), ⟨world, w.count + 1, w.record ++ [.got w.count]⟩)
    | (.error e, world) => (.error e, ⟨world, w.count, w.record ++ [.openFailed]⟩)
  query connection statement w :=
    let (reply, world) := drivers.query connection.2 statement w.world
    (reply, ⟨world, w.count, w.record ++ [.used connection.1]⟩)
  schemaExists connection w :=
    let (reply, world) := drivers.schemaExists connection.2 w.world
    (reply, ⟨world, w.count, w.record ++ [.used connection.1]⟩)
  createSchema connection w :=
    let (reply, world) := drivers.createSchema connection.2 w.world
    (reply, ⟨world, w.count, w.record ++ [.used connection.1]⟩)
  close connection w :=
    let (reply, world) := drivers.close connection.2 w.world
    (reply, ⟨world, w.count, w.record ++ [.closed connection.1]⟩)
  note entry w := { w with world := drivers.note entry w.world }

theorem Drivers.compiled_watched (drivers : Drivers δ σ) (d : Dialect) :
    drivers.watched.compiled d = drivers.compiled d :=
  rfl

/-- A call on a manager that concerns its connection. -/
inductive ManagerCall where
  | backend
  | runQuery (sql : String) (params : List Value)
  | execute (statement : BoundStatement)
  | close
  | shutdown

namespace Manager

/-- Runs a call; of what it gives back, the output of a statement is kept. -/
def perform (drivers : Drivers δ σ) : ManagerCall → Managed δ σ (Option Output)
  | .backend => do
    let _ ← connection drivers
    return none
  | .runQuery sql params => do
    let output ← runQuery drivers sql params
    return some output
  | .execute statement => do
    let output ← execute drivers statement
    return some output
  | .close => do
    close drivers
    return none
  | .shutdown => do
    shutdown drivers
    return none

/-- The results of some calls in turn, and the state behind them. -/
def performAll (drivers : Drivers δ σ) (state : Manager δ × σ) :
    List ManagerCall → List (Except Error (Option Output)) × (Manager δ × σ)
  | [] => ([], state)
  | call :: calls =>
    let (result, next) := perform drivers call state
    let (results, last) := performAll drivers next calls
    (result :: results, last)

theorem bind_apply {α β : Type} (x : Managed δ σ α) (f : α → Managed δ σ β)
    (state : Manager δ × σ) :
    (x >>= f) state = match x state with
      | (.ok a, next) => f a next
      | (.error e, next) => (.error e, next) := by
  show (match x state with | (r, next) => ExceptT.bindCont f r next) = _
  rcases x state with ⟨r, next⟩
  cases r <;> rfl

/-- The manager without the numbers of connections. -/
def bare (m : Manager (Nat × δ)) : Manager δ :=
  { m with slot := m.slot.map (·.2) }

def forget (state : Manager (Nat × δ) × Watched σ) : Manager δ × σ :=
  (bare state.1, state.2.world)

/-- The state with an empty record. A connection that the manager has is the first. -/
def watch (state : Manager δ × σ) : Manager (Nat × δ) × Watched σ :=
  ({ state.1 with slot := state.1.slot.map fun c => (0, c) },
    match state.1.slot with
    | none => ⟨state.2, 0, []⟩
    | some _ => ⟨state.2, 1, [.got 0]⟩)

theorem forget_watch (state : Manager δ × σ) : forget (watch state) = state := by
  obtain ⟨⟨dialect, settings, slot, shuttingDown⟩, world⟩ := state
  cases slot <;> rfl

/-- The watched action does what the bare one does, its results read through `f`. -/
def Watches {α β : Type} (f : α → β) (x : Managed (Nat × δ) (Watched σ) α)
    (y : Managed δ σ β) : Prop :=
  ∀ state, y (forget state) = ((x state).1.map f, forget (x state).2)

section Watches

variable {α β α' β' : Type} {f : α → β} {g : α' → β'}

theorem Watches.pure (f : α → β) (a : α) :
    Watches (δ := δ) (σ := σ) f (Pure.pure a) (Pure.pure (f a)) :=
  fun _ => rfl

theorem Watches.bind {x : Managed (Nat × δ) (Watched σ) α} {y : Managed δ σ β}
    {k : α → Managed (Nat × δ) (Watched σ) α'} {l : β → Managed δ σ β'} (hx : Watches f x y)
    (hk : ∀ a, Watches g (k a) (l (f a))) : Watches g (x >>= k) (y >>= l) := by
  intro state
  rw [bind_apply, bind_apply, hx state]
  rcases x state with ⟨r, next⟩
  cases r with
  | error e => rfl
  | ok a => exact hk a next

variable (drivers : Drivers δ σ)

theorem watches_current : Watches bare (current (δ := Nat × δ) (σ := Watched σ)) current :=
  fun _ => rfl

theorem watches_write (level : LogLevel) (message : String) :
    Watches id (write drivers.watched level message) (write drivers level message) :=
  fun _ => rfl

theorem watches_setSlot (slot : Option (Nat × δ)) :
    Watches (σ := σ) id (setSlot slot) (setSlot (slot.map (·.2))) :=
  fun _ => rfl

theorem watches_act {act' : Watched σ → Except Error α × Watched σ}
    {bareAct : σ → Except Error β × σ}
    (h : ∀ w, bareAct w.world = ((act' w).1.map f, (act' w).2.world)) :
    Watches (δ := δ) f (act act') (act bareAct) := by
  rintro ⟨m, w⟩
  simp only [act, forget, h w]

theorem watches_openUp (dialect : Dialect) (settings : DatabaseSettings) :
    Watches (δ := δ) (·.2) (act (drivers.watched.openUp dialect settings))
      (act (drivers.openUp dialect settings)) := by
  refine watches_act fun w => ?_
  simp only [Drivers.watched]
  cases drivers.openUp dialect settings w.world with
  | mk r world => cases r <;> rfl

theorem watches_query (c : Nat × δ) (statement : BoundStatement) :
    Watches (δ := δ) id (act (drivers.watched.query c statement))
      (act (drivers.query c.2 statement)) := by
  refine watches_act fun w => ?_
  rw [Except.map_id]
  rfl

theorem watches_driverClose (c : Nat × δ) :
    Watches (δ := δ) id (act (drivers.watched.close c)) (act (drivers.close c.2)) := by
  refine watches_act fun w => ?_
  rw [Except.map_id]
  rfl

theorem watches_connect : Watches (·.2) (connect drivers.watched) (connect drivers) := by
  refine watches_current.bind fun m => ?_
  have hdialect : (bare m).dialect = m.dialect := rfl
  rw [hdialect, drivers.compiled_watched]
  split
  · refine (watches_openUp drivers m.dialect m.settings).bind fun c => ?_
    refine (watches_write drivers .info "database connection opened").bind fun _ => ?_
    exact (watches_setSlot (some c)).bind fun _ => Watches.pure _ c
  · exact fun _ => rfl

theorem watches_connection : Watches (·.2) (connection drivers.watched) (connection drivers) := by
  refine watches_current.bind fun m => ?_
  cases hslot : m.slot with
  | none =>
    simp only [bare, hslot, Option.map_none]
    exact watches_connect drivers
  | some c =>
    simp only [bare, hslot, Option.map_some]
    exact Watches.pure _ c

theorem watches_execute (statement : BoundStatement) :
    Watches id (execute drivers.watched statement) (execute drivers statement) := by
  have hsend : Watches id
      (connection drivers.watched >>= fun c => act (drivers.watched.query c statement))
      (connection drivers >>= fun c => act (drivers.query c statement)) :=
    (watches_connection drivers).bind fun c => watches_query drivers c statement
  refine watches_current.bind fun m => ?_
  have htrace : (bare m).settings.queryTrace = m.settings.queryTrace := rfl
  rw [htrace]
  split
  · exact (watches_write drivers .info _).bind fun _ => hsend
  · exact hsend

theorem watches_close : Watches id (close drivers.watched) (close drivers) := by
  refine watches_current.bind fun m => ?_
  cases hslot : m.slot with
  | none =>
    simp only [bare, hslot, Option.map_none]
    exact Watches.pure _ ()
  | some c =>
    simp only [bare, hslot, Option.map_some]
    refine (watches_setSlot none).bind fun _ => ?_
    refine (watches_driverClose drivers c).bind fun _ => ?_
    exact watches_write drivers .info "database connection closed"

theorem watches_shutdown : Watches id (shutdown drivers.watched) (shutdown drivers) := by
  rintro ⟨⟨dialect, settings, slot, shuttingDown⟩, w⟩
  cases shuttingDown with
  | true => rfl
  | false =>
    have hclose := watches_close drivers (⟨dialect, settings, slot, true⟩, w)
    simp only [forget, bare] at hclose
    simp only [shutdown, forget, bare, Bool.false_eq_true, if_false, hclose]
    cases close drivers.watched (⟨dialect, settings, slot, true⟩, w) with
    | mk r next => cases r <;> rfl

theorem watches_perform (call : ManagerCall) :
    Watches id (perform drivers.watched call) (perform drivers call) := by
  cases call with
  | backend => exact (watches_connection drivers).bind fun _ => Watches.pure id none
  | runQuery sql params =>
    refine Watches.bind (f := id) ?_ fun output => Watches.pure id (some output)
    exact watches_current.bind fun m => watches_execute drivers _
  | execute statement =>
    exact (watches_execute drivers statement).bind fun output => Watches.pure id (some output)
  | close => exact (watches_close drivers).bind fun _ => Watches.pure id none
  | shutdown => exact (watches_shutdown drivers).bind fun _ => Watches.pure id none

theorem performAll_forget (calls : List ManagerCall) (state : Manager (Nat × δ) × Watched σ) :
    performAll drivers (forget state) calls =
      ((performAll drivers.watched state calls).1,
        forget (performAll drivers.watched state calls).2) := by
  induction calls generalizing state with
  | nil => rfl
  | cons call calls ih =>
    have hcall := watches_perform drivers call state
    rw [Except.map_id] at hcall
    simp only [performAll, hcall, ih, id]
    rfl

/-- A run of calls is the same with and without numbers and record. -/
theorem performAll_watch (calls : List ManagerCall) (state : Manager δ × σ) :
    performAll drivers state calls =
      ((performAll drivers.watched (watch state) calls).1,
        forget (performAll drivers.watched (watch state) calls).2) := by
  have hforget := performAll_forget drivers calls (watch state)
  rw [forget_watch] at hforget
  exact hforget

end Watches

end Manager

end FluentSql
