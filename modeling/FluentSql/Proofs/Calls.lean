import FluentSql.Calls

/-!
# Runs of calls

What a run of calls reaches is reached by its successful calls, whether it is strict or
goes on after a failing one. An invariant of the single call is therefore an invariant
of either run.
-/

namespace FluentSql

/-- A computation in two stages succeeds by both. -/
theorem ok_of_bind {α β : Type} {x : Except Error α} {f : α → Except Error β} {b : β}
    (h : x >>= f = .ok b) : ∃ a, x = .ok a ∧ f a = .ok b := by
  cases x with
  | error e => contradiction
  | ok a => exact ⟨a, rfl, h⟩

theorem bind_ok_iff {α β : Type} {x : Except Error α} {f : α → Except Error β} {b : β} :
    x >>= f = .ok b ↔ ∃ a, x = .ok a ∧ f a = .ok b := by
  refine ⟨ok_of_bind, ?_⟩
  rintro ⟨a, rfl, h⟩
  exact h

/-- A map of results goes through two stages when it goes through each of them. -/
theorem bind_map {α α' β β' : Type} {F : α → α'} {G : β → β'} {f : α → Except Error β}
    {f' : α' → Except Error β'} (h : ∀ a, f' (F a) = (f a).map G) (x : Except Error α) :
    x.map F >>= f' = (x >>= f).map G := by
  cases x with
  | error e => rfl
  | ok a => exact h a

/-- The first stage is the same. -/
theorem bind_map_right {α β β' : Type} {G : β → β'} {f : α → Except Error β}
    {f' : α → Except Error β'} (h : ∀ a, f' a = (f a).map G) (x : Except Error α) :
    x >>= f' = (x >>= f).map G := by
  cases x with
  | error e => rfl
  | ok a => exact h a

/-- Two computations that fail with one error, or end with what `R` relates. -/
inductive Alike {α β : Type} (R : α → β → Prop) : Except Error α → Except Error β → Prop
  | ok {a : α} {b : β} (h : R a b) : Alike R (.ok a) (.ok b)
  | error (e : Error) : Alike R (.error e) (.error e)

theorem Alike.refl {α : Type} {R : α → α → Prop} (h : ∀ a, R a a) (x : Except Error α) :
    Alike R x x := by
  cases x with
  | ok a => exact .ok (h a)
  | error e => exact .error e

theorem Alike.error_iff {α β : Type} {R : α → β → Prop} {x : Except Error α} {y : Except Error β}
    (h : Alike R x y) (e : Error) : x = .error e ↔ y = .error e := by
  cases h with
  | ok h => exact ⟨nofun, nofun⟩
  | error e' =>
    exact ⟨fun h => congrArg _ (Except.error.inj h), fun h => congrArg _ (Except.error.inj h)⟩

theorem Alike.bind {α β γ δ : Type} {R : α → β → Prop} {S : γ → δ → Prop} {x : Except Error α}
    {y : Except Error β} {f : α → Except Error γ} {g : β → Except Error δ} (h : Alike R x y)
    (hnext : ∀ a b, R a b → Alike S (f a) (g b)) : Alike S (x >>= f) (y >>= g) := by
  cases h with
  | ok h => exact hnext _ _ h
  | error e => exact .error e

namespace Calls

variable {α β : Type} {apply : α → β → Except Error α} {ok : β → Prop}

/-- Reached by successful calls that are all `ok`. -/
inductive Reaches (apply : α → β → Except Error α) (ok : β → Prop) : α → α → Prop where
  | refl (a : α) : Reaches apply ok a a
  | step {a b c : α} {call : β} (hok : ok call) (happly : apply a call = .ok b)
      (hrest : Reaches apply ok b c) : Reaches apply ok a c

theorem Reaches.invariant {P : α → Prop}
    (hstep : ∀ a call b, ok call → P a → apply a call = .ok b → P b)
    {a b : α} (h : Reaches apply ok a b) (ha : P a) : P b := by
  induction h with
  | refl => exact ha
  | step hok happly _ ih => exact ih (hstep _ _ _ hok ha happly)

theorem reaches_applyAll {calls : List β} (hok : ∀ call ∈ calls, ok call) {a b : α}
    (h : applyAll apply a calls = .ok b) : Reaches apply ok a b := by
  induction calls generalizing a with
  | nil =>
    obtain rfl := Except.ok.inj h
    exact .refl a
  | cons call calls ih =>
    obtain ⟨next, hcall, hrest⟩ := ok_of_bind h
    exact .step (hok call List.mem_cons_self) hcall
      (ih (fun c hc => hok c (List.mem_cons_of_mem call hc)) hrest)

theorem lastState_cons (a : α) (tried : Except Error Unit × α)
    (attempts : List (Except Error Unit × α)) :
    lastState a (tried :: attempts) = lastState tried.2 attempts := by
  cases attempts with
  | nil => rfl
  | cons next rest =>
    unfold lastState
    rw [List.getLast?_cons_cons]
    cases hlast : (next :: rest).getLast? with
    | none => simp at hlast
    | some last => rfl

theorem reaches_lastState {calls : List β} (hok : ∀ call ∈ calls, ok call) (a : α) :
    Reaches apply ok a (lastState a (applyEach apply a calls)) := by
  induction calls generalizing a with
  | nil => exact .refl a
  | cons call calls ih =>
    have hrest := ih (fun c hc => hok c (List.mem_cons_of_mem call hc))
    rw [applyEach, lastState_cons]
    cases hcall : apply a call with
    | error e =>
      have htried : (attempt apply a call).2 = a := by simp only [attempt, hcall]
      rw [htried]
      exact hrest a
    | ok next =>
      have htried : (attempt apply a call).2 = next := by simp only [attempt, hcall]
      rw [htried]
      exact .step (hok call List.mem_cons_self) hcall (hrest next)

/-- Where a call goes through by a test of its own and then adds to the state, a strict run
goes through exactly if all its calls do. -/
theorem applyAll_ok_iff {goes : β → Prop} {add : α → β → α}
    (hstep : ∀ a call b, apply a call = .ok b ↔ goes call ∧ b = add a call) {a b : α}
    {calls : List β} :
    applyAll apply a calls = .ok b ↔ (∀ call ∈ calls, goes call) ∧ b = calls.foldl add a := by
  induction calls generalizing a with
  | nil =>
    constructor
    · intro h
      exact ⟨List.forall_mem_nil _, (Except.ok.inj h).symm⟩
    · rintro ⟨_, rfl⟩
      rfl
  | cons call calls ih =>
    rw [List.forall_mem_cons, List.foldl_cons, and_assoc, ← ih]
    constructor
    · intro h
      obtain ⟨next, hcall, hrest⟩ := ok_of_bind h
      obtain ⟨hgoes, rfl⟩ := (hstep a call next).mp hcall
      exact ⟨hgoes, hrest⟩
    · rintro ⟨hgoes, hrest⟩
      rw [applyAll, (hstep a call _).mpr ⟨hgoes, rfl⟩]
      exact hrest

/-- Runs of calls that go alike from related states go alike. -/
theorem applyAll_alike {α' : Type} {apply' : α' → β → Except Error α'} {change : β → β}
    {R : α → α' → Prop}
    (hstep : ∀ a a' call, R a a' → Alike R (apply a call) (apply' a' (change call)))
    {a : α} {a' : α'} (h : R a a') (calls : List β) :
    Alike R (applyAll apply a calls) (applyAll apply' a' (calls.map change)) := by
  induction calls generalizing a a' with
  | nil => exact .ok h
  | cons call calls ih => exact (hstep a a' call h).bind fun _ _ hnext => ih hnext

section Log

variable {γ δ : Type}

/-- What the successful calls of a run add, each judged on the state it is made on. -/
def logged (apply : α → β → Except Error α) (adds : α → β → List γ) (a : α) : List β → List γ
  | [] => []
  | call :: calls =>
    match apply a call with
    | .ok next => adds a call ++ logged apply adds next calls
    | .error _ => logged apply adds a calls

/-- What each call keeps of a state and the log so far, a run keeps. -/
theorem logged_invariant {adds : α → β → List γ} {R : α → List γ → Prop}
    (hstep : ∀ a log call b, R a log → apply a call = .ok b → R b (log ++ adds a call))
    {a : α} {log : List γ} (h : R a log) (calls : List β) :
    R (lastState a (applyEach apply a calls)) (log ++ logged apply adds a calls) := by
  induction calls generalizing a log with
  | nil =>
    rw [logged, List.append_nil]
    exact h
  | cons call calls ih =>
    rw [applyEach, lastState_cons, logged]
    cases hcall : apply a call with
    | error e =>
      have htried : (attempt apply a call).2 = a := by simp only [attempt, hcall]
      rw [htried]
      exact ih h
    | ok next =>
      have htried : (attempt apply a call).2 = next := by simp only [attempt, hcall]
      rw [htried, ← List.append_assoc]
      exact ih (hstep a log call next h hcall)

/-- A view that each call extends by what it adds is extended by the log of a run. -/
theorem view_lastState {adds : α → β → List γ} (view : α → List δ) (pick : γ → Option δ)
    (hadds : ∀ a call b, apply a call = .ok b → view b = view a ++ (adds a call).filterMap pick)
    (a : α) (calls : List β) :
    view (lastState a (applyEach apply a calls)) =
      view a ++ (logged apply adds a calls).filterMap pick := by
  have hstart : view a = view a ++ ([] : List γ).filterMap pick := (List.append_nil _).symm
  refine logged_invariant (R := fun b log => view b = view a ++ log.filterMap pick) ?_ hstart calls
  intro b log call c hview happly
  rw [hadds b call c happly, hview, List.filterMap_append, List.append_assoc]

/-- What calls add by themselves is logged for those that succeed. -/
theorem logged_eq_flatMap (g : β → List γ) (a : α) (calls : List β) :
    logged apply (fun _ => g) a calls =
      (logged apply (fun _ call => [call]) a calls).flatMap g := by
  induction calls generalizing a with
  | nil => rfl
  | cons call calls ih =>
    rw [logged, logged]
    cases apply a call with
    | error e => exact ih a
    | ok next =>
      dsimp only
      rw [ih next, List.flatMap_append, List.flatMap_singleton]

/-- A strict run that goes through is logged as a whole. -/
theorem logged_of_applyAll (keep : α → β → β) {a b : α} {calls : List β}
    (hkeep : ∀ a b call, call ∈ calls → apply a call = .ok b → keep a call = call)
    (h : applyAll apply a calls = .ok b) :
    logged apply (fun a call => [keep a call]) a calls = calls := by
  induction calls generalizing a with
  | nil => rfl
  | cons call calls ih =>
    obtain ⟨next, hcall, hrest⟩ := ok_of_bind h
    have htail := ih (fun a b c hc => hkeep a b c (List.mem_cons_of_mem call hc)) hrest
    rw [logged, hcall]
    dsimp only
    rw [htail, hkeep a next call List.mem_cons_self hcall, List.singleton_append]

theorem lastState_of_applyAll {a b : α} {calls : List β} (h : applyAll apply a calls = .ok b) :
    lastState a (applyEach apply a calls) = b := by
  induction calls generalizing a with
  | nil => exact Except.ok.inj h
  | cons call calls ih =>
    obtain ⟨next, hcall, hrest⟩ := ok_of_bind h
    have htried : (attempt apply a call).2 = next := by simp only [attempt, hcall]
    rw [applyEach, lastState_cons, htried]
    exact ih hrest

end Log

section Simulation

variable {α' β' : Type} {apply' : α' → β' → Except Error α'} {R : α → α' → Prop}
  {outside? : β → Option β'}

/-- Two runs side by side: some calls of the first stand for a call of the second, with the
same outcome, and the others leave the relation alone. Then the runs end related, and the
outcomes of the second are those that the first had at the calls it shares. -/
theorem applyEach_simulates
    (halone : ∀ a a' call, R a a' → outside? call = none → R (attempt apply a call).2 a')
    (hboth : ∀ a a' call call', R a a' → outside? call = some call' →
      (attempt apply a call).1 = (attempt apply' a' call').1 ∧
        R (attempt apply a call).2 (attempt apply' a' call').2)
    {a : α} {a' : α'} (h : R a a') (calls : List β) :
    R (lastState a (applyEach apply a calls))
        (lastState a' (applyEach apply' a' (calls.filterMap outside?))) ∧
      (applyEach apply' a' (calls.filterMap outside?)).map (·.1) =
        ((calls.zip (applyEach apply a calls)).filter fun tried =>
          (outside? tried.1).isSome).map (·.2.1) := by
  induction calls generalizing a a' with
  | nil => exact ⟨h, rfl⟩
  | cons call calls ih =>
    rw [applyEach, lastState_cons, List.zip_cons_cons]
    cases hcall : outside? call with
    | none =>
      obtain ⟨hlast, houtcomes⟩ := ih (halone a a' call h hcall)
      rw [List.filterMap_cons_none hcall, List.filter_cons_of_neg (by simp [hcall])]
      exact ⟨hlast, houtcomes⟩
    | some call' =>
      obtain ⟨houtcome, hnext⟩ := hboth a a' call call' h hcall
      obtain ⟨hlast, houtcomes⟩ := ih hnext
      rw [List.filterMap_cons_some hcall, applyEach, lastState_cons,
        List.filter_cons_of_pos (by simp [hcall]), List.map_cons, List.map_cons, houtcomes,
        houtcome]
      exact ⟨hlast, rfl⟩

end Simulation

end Calls

end FluentSql
