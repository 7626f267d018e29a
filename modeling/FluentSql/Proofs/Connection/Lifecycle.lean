import FluentSql.Proofs.Calls
import FluentSql.Proofs.Connection.Watched

/-!
# The life of connections

Whatever the calls on a manager are and whichever of them fail, its record is a history that
leads to the connection in its slot. Each call is opened once, into what it can do to the slot
and the record; what holds of all histories then holds of every run.
-/

namespace FluentSql

variable {δ σ : Type}

open ConnectionEvent

/-- Whether the call reaches for the connection. -/
def ManagerCall.needsConnection : ManagerCall → Bool
  | backend | runQuery _ _ | execute _ => true
  | close | shutdown => false

namespace Manager

/-- How a watched manager comes to its connection. -/
inductive Connects (drivers : Drivers δ σ) (m : Manager (Nat × δ)) (w : Watched σ) :
    Except Error (Nat × δ) → Manager (Nat × δ) × Watched σ → Prop where
  | held {c : Nat × δ} (hslot : m.slot = some c) : Connects drivers m w (.ok c) (m, w)
  | opened {c : δ} {world : σ} (hslot : m.slot = none)
    (hdriver : drivers.compiled m.dialect = true)
    (hopen : drivers.openUp m.dialect m.settings w.world = (.ok c, world)) (world' : σ) :
    Connects drivers m w (.ok (w.count, c))
      ({ m with slot := some (w.count, c) }, ⟨world', w.count + 1, w.record ++ [.got w.count]⟩)
  | openFailed {e : Error} {world : σ} (hslot : m.slot = none)
    (hdriver : drivers.compiled m.dialect = true)
    (hopen : drivers.openUp m.dialect m.settings w.world = (.error e, world)) :
    Connects drivers m w (.error e) (m, ⟨world, w.count, w.record ++ [.openFailed]⟩)
  | missing (hslot : m.slot = none) (hdriver : drivers.compiled m.dialect = false) :
    Connects drivers m w (.error (missingDriver m.dialect)) (m, w)

theorem connects (drivers : Drivers δ σ) (m : Manager (Nat × δ)) (w : Watched σ) :
    Connects drivers m w (connection drivers.watched (m, w)).1
      (connection drivers.watched (m, w)).2 := by
  cases hslot : m.slot with
  | some c =>
    have hheld : connection drivers.watched (m, w) = (.ok c, (m, w)) := by
      simp only [connection, bind_apply, current, hslot]
      rfl
    rw [hheld]
    exact .held hslot
  | none =>
    have hconnect : connection drivers.watched (m, w) = connect drivers.watched (m, w) := by
      simp only [connection, bind_apply, current, hslot]
    rw [hconnect, connect, bind_apply]
    simp only [current]
    rw [drivers.compiled_watched]
    cases hdriver : drivers.compiled m.dialect with
    | false => exact .missing hslot hdriver
    | true =>
      simp only [if_true, bind_apply, act, Drivers.watched]
      cases hopen : drivers.openUp m.dialect m.settings w.world with
      | mk r world =>
        cases r with
        | error e => exact .openFailed hslot hdriver hopen
        | ok c => exact .opened hslot hdriver hopen _

/-- What a call does to a watched manager. -/
inductive Course (drivers : Drivers δ σ) (m : Manager (Nat × δ)) (w : Watched σ) :
    ManagerCall → Except Error (Option Output) → Manager (Nat × δ) × Watched σ → Prop where
  | unreached {call : ManagerCall} {e : Error} {world : σ} {next : Manager (Nat × δ) × Watched σ}
    (hneeds : call.needsConnection = true)
    (hconnects : Connects drivers m ⟨world, w.count, w.record⟩ (.error e) next) :
    Course drivers m w call (.error e) next
  | reached {c : Nat × δ} {next : Manager (Nat × δ) × Watched σ}
    (hconnects : Connects drivers m w (.ok c) next) : Course drivers m w .backend (.ok none) next
  | used {call : ManagerCall} {c : Nat × δ} {world world' : σ} {m' : Manager (Nat × δ)}
    {w' : Watched σ} (hneeds : call.needsConnection = true)
    (hconnects : Connects drivers m ⟨world, w.count, w.record⟩ (.ok c) (m', w'))
    (result : Except Error (Option Output)) :
    Course drivers m w call result (m', ⟨world', w'.count, w'.record ++ [.used c.1]⟩)
  | closedNothing (hslot : m.slot = none) : Course drivers m w .close (.ok none) (m, w)
  | closed {c : Nat × δ} (hslot : m.slot = some c) (result : Except Error (Option Output))
    (world : σ) :
    Course drivers m w .close result
      ({ m with slot := none }, ⟨world, w.count, w.record ++ [.closed c.1]⟩)
  | wasShut (hshut : m.shuttingDown = true) : Course drivers m w .shutdown (.ok none) (m, w)
  | shutNothing (hshut : m.shuttingDown = false) (hslot : m.slot = none) (world : σ) :
    Course drivers m w .shutdown (.ok none)
      ({ m with shuttingDown := true }, ⟨world, w.count, w.record⟩)
  | shut {c : Nat × δ} (hshut : m.shuttingDown = false) (hslot : m.slot = some c) (world : σ) :
    Course drivers m w .shutdown (.ok none)
      ({ m with slot := none, shuttingDown := true },
        ⟨world, w.count, w.record ++ [.closed c.1]⟩)

theorem course_execute (drivers : Drivers δ σ) (m : Manager (Nat × δ)) (w : Watched σ)
    {call : ManagerCall} (hneeds : call.needsConnection = true) (statement : BoundStatement) :
    Course drivers m w call ((execute drivers.watched statement (m, w)).1.map some)
      (execute drivers.watched statement (m, w)).2 := by
  -- a trace of the statement changes the world before the connection is reached for
  have hsend : ∃ world, execute drivers.watched statement (m, w) =
      (connection drivers.watched >>= fun c => act (drivers.watched.query c statement))
        (m, ⟨world, w.count, w.record⟩) := by
    cases htrace : m.settings.queryTrace with
    | false =>
      refine ⟨w.world, ?_⟩
      simp only [execute, bind_apply (x := current), current, htrace]
      rfl
    | true =>
      let entry : LogEntry :=
        ⟨.info, "Query Trace: " ++ m.dialect.interpolate statement.sql statement.params⟩
      refine ⟨drivers.note entry w.world, ?_⟩
      simp only [execute, bind_apply (x := current), current, htrace]
      rfl
  obtain ⟨world, hsend⟩ := hsend
  have hconnects := connects drivers m ⟨world, w.count, w.record⟩
  rw [hsend, bind_apply]
  cases hreached : connection drivers.watched (m, ⟨world, w.count, w.record⟩) with
  | mk r next =>
    rw [hreached] at hconnects
    cases r with
    | error e => exact .unreached hneeds hconnects
    | ok c => exact .used hneeds hconnects _

theorem course_close (drivers : Drivers δ σ) (m : Manager (Nat × δ)) (w : Watched σ) :
    (m.slot = none ∧ close drivers.watched (m, w) = (.ok (), (m, w))) ∨
      ∃ c r world, m.slot = some c ∧ close drivers.watched (m, w) =
        (r, ({ m with slot := none }, ⟨world, w.count, w.record ++ [.closed c.1]⟩)) := by
  cases hslot : m.slot with
  | none =>
    refine .inl ⟨rfl, ?_⟩
    simp only [close, bind_apply, current, hslot]
    rfl
  | some c =>
    cases hclose : drivers.close c.2 w.world with
    | mk r world =>
      cases r with
      | error e =>
        refine .inr ⟨c, .error e, world, rfl, ?_⟩
        simp only [close, bind_apply, current, hslot, setSlot, act, Drivers.watched, hclose]
      | ok u =>
        let entry : LogEntry := ⟨.info, "database connection closed"⟩
        refine .inr ⟨c, .ok (), drivers.note entry world, rfl, ?_⟩
        simp only [close, bind_apply, current, hslot, setSlot, act, Drivers.watched, hclose]
        rfl

theorem course (drivers : Drivers δ σ) (m : Manager (Nat × δ)) (w : Watched σ)
    (call : ManagerCall) :
    Course drivers m w call (perform drivers.watched call (m, w)).1
      (perform drivers.watched call (m, w)).2 := by
  have hsome : ∀ {x : Managed (Nat × δ) (Watched σ) Output} {state},
      (x >>= fun output => pure (some output)) state = ((x state).1.map some, (x state).2) := by
    intro x state
    rw [bind_apply]
    cases x state with
    | mk r next => cases r <;> rfl
  cases call with
  | backend =>
    have hconnects := connects drivers m w
    rw [perform, bind_apply]
    cases hreached : connection drivers.watched (m, w) with
    | mk r next =>
      rw [hreached] at hconnects
      cases r with
      | error e => exact .unreached rfl hconnects
      | ok c => exact .reached hconnects
  | runQuery sql params =>
    rw [perform, hsome]
    exact course_execute drivers m w rfl ⟨m.dialect.lowerPlaceholders sql, params⟩
  | execute statement =>
    rw [perform, hsome]
    exact course_execute drivers m w rfl statement
  | close =>
    rw [perform, bind_apply]
    obtain ⟨hslot, hclose⟩ | ⟨c, r, world, hslot, hclose⟩ := course_close drivers m w
    · rw [hclose]
      exact .closedNothing hslot
    · rw [hclose]
      cases r with
      | error e => exact .closed hslot _ world
      | ok u => exact .closed hslot _ world
  | shutdown =>
    rw [perform, bind_apply]
    cases hshut : m.shuttingDown with
    | true =>
      simp only [shutdown, hshut, if_true]
      exact .wasShut hshut
    | false =>
      have hclose := course_close drivers { m with shuttingDown := true } w
      obtain ⟨hslot, hclose⟩ | ⟨c, r, world, hslot, hclose⟩ := hclose
      · simp only [shutdown, hshut, hclose, Bool.false_eq_true, if_false]
        exact .shutNothing hshut hslot _
      · simp only [shutdown, hshut, hclose, Bool.false_eq_true, if_false]
        cases r with
        | error e => exact .shut hshut hslot _
        | ok u => exact .shut hshut hslot _

/-- The record is a history of the connection in the slot. -/
def Tracked (state : Manager (Nat × δ) × Watched σ) : Prop :=
  ConnectionHistory state.2.record (state.1.slot.map (·.1)) state.2.count

section Step

variable {drivers : Drivers δ σ} {m : Manager (Nat × δ)} {w : Watched σ} {call : ManagerCall}
  {result : Except Error (Option Output)} {next : Manager (Nat × δ) × Watched σ}

theorem Connects.slot_of_ok {c : Nat × δ} (h : Connects drivers m w (.ok c) next) :
    next.1.slot = some c := by
  cases h with
  | held hslot => exact hslot
  | opened hslot hdriver hopen world' => rfl

/-- Reaching for the connection changes nothing but the slot. -/
theorem Connects.kept {r : Except Error (Nat × δ)} (h : Connects drivers m w r next) :
    next.1 = { m with slot := next.1.slot } := by
  cases h <;> rfl

theorem Connects.tracked {r : Except Error (Nat × δ)} (h : Connects drivers m w r next)
    (hm : Tracked (m, w)) : Tracked next := by
  unfold Tracked at hm ⊢
  cases h with
  | held hslot => exact hm
  | opened hslot hdriver hopen world' =>
    rw [hslot] at hm
    exact hm.step (.got w.count)
  | openFailed hslot hdriver hopen =>
    rw [hslot] at hm ⊢
    exact hm.step (.openFailed w.count)
  | missing hslot hdriver => exact hm

/-- Each call keeps to the rule. -/
theorem Course.tracked (h : Course drivers m w call result next) (hm : Tracked (m, w)) :
    Tracked next := by
  cases h with
  | unreached hneeds hconnects => exact hconnects.tracked hm
  | reached hconnects => exact hconnects.tracked hm
  | @used call c world world' m' w' hneeds hconnects result =>
    have hreached : Tracked (m', w') := hconnects.tracked hm
    have hslot : m'.slot = some c := hconnects.slot_of_ok
    unfold Tracked at hreached ⊢
    rw [hslot] at hreached ⊢
    exact hreached.step (.used c.1 w'.count)
  | closedNothing hslot => exact hm
  | @closed c hslot result world =>
    unfold Tracked at hm ⊢
    rw [hslot] at hm
    exact hm.step (.closed c.1 w.count)
  | wasShut hshut => exact hm
  | shutNothing hshut hslot world => exact hm
  | @shut c hshut hslot world =>
    unfold Tracked at hm ⊢
    rw [hslot] at hm
    exact hm.step (.closed c.1 w.count)

theorem Course.shuttingDown (h : Course drivers m w call result next) :
    next.1.shuttingDown = true ↔ m.shuttingDown = true ∨ call = .shutdown := by
  have hkept : ∀ {w : Watched σ} {r next}, Connects drivers m w r next →
      next.1.shuttingDown = m.shuttingDown := fun hconnects => by rw [hconnects.kept]
  cases h with
  | unreached hneeds hconnects =>
    rw [hkept hconnects]
    cases call <;> simp_all [ManagerCall.needsConnection]
  | reached hconnects => simp [hkept hconnects]
  | used hneeds hconnects result =>
    have hflag := hkept hconnects
    cases call <;> simp_all [ManagerCall.needsConnection]
  | _ => simp_all

theorem Course.dialect (h : Course drivers m w call result next) :
    next.1.dialect = m.dialect := by
  cases h with
  | unreached hneeds hconnects => rw [hconnects.kept]
  | reached hconnects => rw [hconnects.kept]
  | @used _ _ _ _ m' w' hneeds hconnects result =>
    have hkept : m' = { m with slot := m'.slot } := hconnects.kept
    rw [hkept]
  | _ => rfl

def isClosed : ConnectionEvent → Bool
  | .closed _ => true
  | _ => false

/-- How many closes there were. -/
def closes (state : Manager (Nat × δ) × Watched σ) : Nat :=
  state.2.record.countP isClosed

/-- A shutdown closes at most once, and not behind another. -/
theorem Course.closes_shutdown (h : Course drivers m w .shutdown result next) :
    closes next ≤ closes (m, w) + if m.shuttingDown then 0 else 1 := by
  cases h with
  | unreached hneeds hconnects => cases hneeds
  | used hneeds hconnects result => cases hneeds
  | wasShut hshut => simp
  | shutNothing hshut hslot world => simp [closes]
  | shut hshut hslot world => simp [closes, hshut, isClosed]

/-- What a call that needs a connection does where there is none: it opens one, or it fails as
opening does and leaves the manager without. -/
inductive Reopens (drivers : Drivers δ σ) (m : Manager (Nat × δ)) (w : Watched σ) :
    Except Error (Option Output) → Manager (Nat × δ) × Watched σ → Prop where
  | opened {result : Except Error (Option Output)} {next : Manager (Nat × δ) × Watched σ}
    {c : δ} {world world' : σ} (rest : List ConnectionEvent)
    (hopen : drivers.openUp m.dialect m.settings world = (.ok c, world'))
    (hslot : next.1.slot = some (w.count, c))
    (hrecord : next.2.record = w.record ++ .got w.count :: rest) : Reopens drivers m w result next
  | openFailed {e : Error} {next : Manager (Nat × δ) × Watched σ} {world : σ}
    (hopen : drivers.openUp m.dialect m.settings world = (.error e, next.2.world))
    (hslot : next.1.slot = none)
    (hrecord : next.2.record = w.record ++ [.openFailed]) : Reopens drivers m w (.error e) next
  | missing {next : Manager (Nat × δ) × Watched σ} (hdriver : drivers.compiled m.dialect = false)
    (hslot : next.1.slot = none) (hrecord : next.2.record = w.record) :
    Reopens drivers m w (.error (missingDriver m.dialect)) next

theorem Course.reopens (h : Course drivers m w call result next)
    (hneeds : call.needsConnection = true) (hslot : m.slot = none) :
    Reopens drivers m w result next := by
  cases h with
  | unreached _ hconnects =>
    cases hconnects with
    | openFailed _ _ hopen => exact .openFailed hopen hslot rfl
    | missing _ hdriver => exact .missing hdriver hslot rfl
  | reached hconnects =>
    cases hconnects with
    | held hheld => simp [hslot] at hheld
    | opened _ _ hopen world' => exact .opened [] hopen rfl rfl
  | used _ hconnects result =>
    cases hconnects with
    | held hheld => simp [hslot] at hheld
    | opened _ _ hopen world' =>
      exact .opened [.used w.count] hopen rfl (List.append_assoc _ _ _)
  | _ => cases hneeds

/-- A call that needs a connection keeps the one there is. -/
theorem Course.slot_kept (h : Course drivers m w call result next)
    (hneeds : call.needsConnection = true) (hslot : m.slot ≠ none) : next.1.slot = m.slot := by
  have hkept : ∀ {w : Watched σ} {r next}, Connects drivers m w r next →
      next.1.slot = m.slot := by
    intro w r next hconnects
    cases hconnects with
    | held => rfl
    | opened hnone => exact absurd hnone hslot
    | openFailed => rfl
    | missing => rfl
  cases h with
  | unreached _ hconnects => exact hkept hconnects
  | reached hconnects => exact hkept hconnects
  | used _ hconnects result =>
    have hreached := hkept hconnects
    exact hreached
  | _ => cases hneeds

theorem Course.slot_close (h : Course drivers m w .close result next) : next.1.slot = none := by
  cases h with
  | unreached hneeds hconnects => cases hneeds
  | used hneeds hconnects result => cases hneeds
  | closedNothing hslot => exact hslot
  | closed hslot result world => rfl

theorem Course.slot_shutdown (h : Course drivers m w .shutdown result next)
    (hshut : m.shuttingDown = false) : next.1.slot = none := by
  cases h with
  | unreached hneeds hconnects => cases hneeds
  | used hneeds hconnects result => cases hneeds
  | wasShut hshut' => simp [hshut] at hshut'
  | shutNothing _ hslot world => exact hslot
  | shut _ hslot world => rfl

end Step

theorem tracked_watch (state : Manager δ × σ) : Tracked (watch state) := by
  obtain ⟨⟨dialect, settings, slot, shuttingDown⟩, world⟩ := state
  cases slot with
  | none => exact .start
  | some c => exact ConnectionHistory.start.step (.got 0)

/-- The closes during the shutdowns among some calls. -/
def shutdownCloses (drivers : Drivers δ σ) (state : Manager (Nat × δ) × Watched σ) :
    List ManagerCall → Nat
  | [] => 0
  | call :: calls =>
    let next := (perform drivers.watched call state).2
    (match call with
      | .shutdown => closes next - closes state
      | _ => 0) + shutdownCloses drivers next calls

theorem tracked_performAll (drivers : Drivers δ σ) (calls : List ManagerCall)
    {state : Manager (Nat × δ) × Watched σ} (h : Tracked state) :
    Tracked (performAll drivers.watched state calls).2 := by
  induction calls generalizing state with
  | nil => exact h
  | cons call calls ih =>
    have hcall := course drivers state.1 state.2 call
    exact ih (hcall.tracked h)

theorem shutdownCloses_le (drivers : Drivers δ σ) (calls : List ManagerCall)
    (state : Manager (Nat × δ) × Watched σ) :
    shutdownCloses drivers state calls ≤ if state.1.shuttingDown then 0 else 1 := by
  induction calls generalizing state with
  | nil => simp [shutdownCloses]
  | cons call calls ih =>
    obtain ⟨m, w⟩ := state
    have hcall := course drivers m w call
    have hrest := ih (perform drivers.watched call (m, w)).2
    have hflag := hcall.shuttingDown
    cases call with
    | shutdown =>
      have hcloses := hcall.closes_shutdown
      rw [if_pos (hflag.mpr (.inr rfl))] at hrest
      simp only [shutdownCloses]
      omega
    | _ =>
      have hsame := Bool.eq_iff_iff.mpr (hflag.trans (or_iff_left (by simp)))
      rw [hsame] at hrest
      simpa [shutdownCloses] using hrest

/-! ## Managers from settings -/

/-- Managers are made for the dialects that there are drivers for. -/
theorem ofSettings_eq_ok_iff {settings : DatabaseSettings} {compiled : Dialect → Bool}
    {m : Manager δ} : ofSettings settings compiled = .ok m ↔
      ∃ d, Dialect.read settings.dialect = .ok d ∧ compiled d = true ∧
        m = ⟨d, settings, none, false⟩ := by
  rw [ofSettings, bind_ok_iff]
  refine exists_congr fun d => and_congr_right fun _ => ?_
  cases compiled d with
  | false => simp
  | true =>
    rw [if_pos rfl]
    constructor
    · intro h
      exact ⟨rfl, (Except.ok.inj h).symm⟩
    · rintro ⟨-, rfl⟩
      rfl

theorem dialect_performAll (drivers : Drivers δ σ) (calls : List ManagerCall)
    (state : Manager (Nat × δ) × Watched σ) :
    (performAll drivers.watched state calls).2.1.dialect = state.1.dialect := by
  induction calls generalizing state with
  | nil => rfl
  | cons call calls ih =>
    have hcall := course drivers state.1 state.2 call
    exact (ih _).trans hcall.dialect

/-- Behind any calls a manager that was made from settings still has a driver to open. -/
theorem compiled_performAll {drivers : Drivers δ σ} {settings : DatabaseSettings} {m : Manager δ}
    (h : ofSettings settings drivers.compiled = .ok m) (world : σ) (calls : List ManagerCall) :
    drivers.compiled (performAll drivers (m, world) calls).2.1.dialect = true := by
  obtain ⟨d, -, hdriver, rfl⟩ := ofSettings_eq_ok_iff.mp h
  have hdialect := dialect_performAll drivers calls (watch (⟨d, settings, none, false⟩, world))
  rw [performAll_watch]
  exact (congrArg drivers.compiled hdialect).trans hdriver

/-- What holds of a manager behind any calls. -/
structure Lifecycle (drivers : Drivers δ σ) (m : Manager (Nat × δ)) (w : Watched σ) : Prop where
  /-- There was never more than one connection at a time. -/
  single : ∀ past, past <+: w.record → ∀ n n', Live past n → Live past n' → n = n'
  /-- The one in the slot was got and has not been closed. -/
  held : ∀ n, (∃ c, m.slot = some (n, c)) ↔ Live w.record n
  connected : m.isConnected = true ↔ ∃ n, Live w.record n
  closedOnce : ∀ n, w.record.count (.closed n) ≤ 1
  /-- Nothing is done to a connection behind its close. -/
  leftAlone : w.record.Pairwise fun earlier later =>
    ∀ n, earlier = .closed n → ¬ later.Concerns n
  unconnected : ∀ past, past ++ [.openFailed] <+: w.record →
    ∀ n, ¬ Live (past ++ [.openFailed]) n
  reopens : ∀ call : ManagerCall, call.needsConnection = true → m.isConnected = false →
    Reopens drivers m w (perform drivers.watched call (m, w)).1
      (perform drivers.watched call (m, w)).2
  kept : ∀ call : ManagerCall, call.needsConnection = true → m.isConnected = true →
    (perform drivers.watched call (m, w)).2.1.slot = m.slot
  closed : (perform drivers.watched .close (m, w)).2.1.isConnected = false
  shut : m.shuttingDown = false →
    (perform drivers.watched .shutdown (m, w)).2.1.isConnected = false

theorem Tracked.lifecycle (drivers : Drivers δ σ) {m : Manager (Nat × δ)} {w : Watched σ}
    (h : Tracked (m, w)) : Lifecycle drivers m w where
  single := by
    intro past hpast n n' hn hn'
    obtain ⟨holder, k, hhistory⟩ := ConnectionHistory.exists_of_prefix h hpast
    have hholder := (hhistory.live_iff n).mp hn
    have hholder' := (hhistory.live_iff n').mp hn'
    rw [hholder] at hholder'
    exact Option.some.inj hholder'
  held := by
    intro n
    rw [ConnectionHistory.live_iff h n]
    simp
  connected := by
    simp only [ConnectionHistory.live_iff h]
    cases hslot : m.slot <;> simp [isConnected, hslot]
  closedOnce := ConnectionHistory.count_closed_le_one h
  leftAlone := ConnectionHistory.pairwise h
  unconnected := by
    intro past hpast
    obtain ⟨holder, k, hhistory⟩ := ConnectionHistory.exists_of_prefix h hpast
    exact hhistory.not_live_openFailed
  reopens := by
    intro call hneeds hconnected
    exact (course drivers m w call).reopens hneeds (by simpa [isConnected] using hconnected)
  kept := by
    intro call hneeds hconnected
    refine (course drivers m w call).slot_kept hneeds ?_
    rintro hslot
    simp [isConnected, hslot] at hconnected
  closed := by simp [isConnected, (course drivers m w .close).slot_close]
  shut hshut := by simp [isConnected, (course drivers m w .shutdown).slot_shutdown hshut]

/-- Behind any calls on a manager all this holds, with or without a connection at the start and
whatever its drivers do, and all the shutdowns together have closed at most once. Without the
record the manager has the same results and ends in the same state. -/
theorem lifecycle_performAll (drivers : Drivers δ σ) (state : Manager δ × σ)
    (calls : List ManagerCall) :
    let run := performAll drivers.watched (watch state) calls
    Lifecycle drivers run.2.1 run.2.2 ∧ shutdownCloses drivers (watch state) calls ≤ 1 ∧
      performAll drivers state calls = (run.1, forget run.2) := by
  have htracked := tracked_performAll drivers calls (tracked_watch state)
  refine ⟨htracked.lifecycle drivers, ?_, performAll_watch drivers calls state⟩
  exact Nat.le_trans (shutdownCloses_le drivers calls (watch state)) (by split <;> simp)

/-- Drivers of every dialect that fail to open as often as the world says, and to close at all
times. -/
def flakyDrivers : Drivers Unit Nat where
  compiled _ := true
  openUp _ _ fails := if fails = 0 then (.ok (), 0) else (.error (.driver "refused"), fails - 1)
  query _ _ fails := (.ok (.affected true), fails)
  schemaExists _ fails := (.ok true, fails)
  createSchema _ fails := (.ok true, fails)
  close _ fails := (.error (.driver "close failed"), fails)
  note _ fails := fails

/-- One failed open, and a second shutdown that leaves the connection alone. -/
theorem lifecycle_performAll_flakyDrivers :
    let run := performAll flakyDrivers.watched (watch (around .postgreSql .inMemory (), 1))
      [.close, .backend, .runQuery "SELECT 1" [], .shutdown, .backend, .shutdown]
    run.2.2.record = [.got 0, .closed 0, .openFailed, .got 1, .used 1, .closed 1, .got 2] ∧
      run.2.1.isConnected = true ∧ Lifecycle flakyDrivers run.2.1 run.2.2 :=
  ⟨rfl, rfl, (lifecycle_performAll flakyDrivers _ _).1⟩

end Manager

end FluentSql
