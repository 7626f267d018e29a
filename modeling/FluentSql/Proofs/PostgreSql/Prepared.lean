import FluentSql.PostgreSql.Client

/-!
# Prepared texts

A host that lists the texts it was given to prepare. For an INSERT a client prepares one text, the
one with the keyword RETURNING, as soon as it has a connection.
-/

namespace FluentSql.PostgreSql

variable {σ : Type}

/-- The host with a list of the texts that it was given to prepare. -/
def Host.recorded (host : Host σ) : Host (List String × σ) where
  connect user database password s :=
    let (welcome, server) := host.connect user database password s.2
    (welcome, (s.1, server))
  simple sql s :=
    let (done, server) := host.simple sql s.2
    (done, (s.1, server))
  prepare sql s :=
    let (answer, server) := host.prepare sql s.2
    (answer, (s.1 ++ [sql], server))
  execute sql data s :=
    let (answer, server) := host.execute sql data s.2
    (answer, (s.1, server))

namespace Client

/-- The texts that a client has prepared to send a statement. -/
def preparedBy (c : Client) (host : Host σ) (sql : String) (values : List Value) (s : σ) :
    List String :=
  (query host.recorded sql values (c, ([], s))).2.2.1

/-- Whether a client has a connection or gets one. -/
def reaches (host : Host σ) (c : Client) (s : σ) : Bool :=
  match c.connection with
  | .closed => false
  | .connected => true
  | .idle =>
    let login := c.settings
    [login.user, login.database, login.password].all isSendable &&
      (host.connect login.user login.database login.password s).1

theorem bind_apply {α β : Type} (x : Talk σ α) (f : α → Talk σ β) (state : Client × σ) :
    (x >>= f) state = match x state with
      | (.ok a, next) => f a next
      | (.error fault, next) => (.error fault, next) := by
  show (match x state with | (r, next) => ExceptT.bindCont f r next) = _
  rcases x state with ⟨r, next⟩
  cases r <;> rfl

/-- Nothing is prepared. -/
def PreparesNothing {α : Type} (x : Talk (List String × σ) α) : Prop :=
  ∀ state, (x state).2.2.1 = state.2.1

theorem prepared_bind {α β : Type} (x : Talk (List String × σ) α)
    {f : α → Talk (List String × σ) β} (hf : ∀ a, PreparesNothing (f a))
    (state : Client × List String × σ) : ((x >>= f) state).2.2.1 = (x state).2.2.1 := by
  rw [bind_apply]
  cases x state with
  | mk result next =>
    cases result with
    | error fault => rfl
    | ok a => exact hf a next

theorem PreparesNothing.bind {α β : Type} {x : Talk (List String × σ) α}
    {f : α → Talk (List String × σ) β} (hx : PreparesNothing x)
    (hf : ∀ a, PreparesNothing (f a)) : PreparesNothing (x >>= f) :=
  fun state => (prepared_bind x hf state).trans (hx state)

theorem preparesNothing_checked {α : Type} (result : Except Fault α) :
    PreparesNothing (σ := σ) (checked result) := by
  cases result <;> exact fun _ => rfl

theorem preparesNothing_granted {α : Type} (fault : Fault) (answer : Option α) :
    PreparesNothing (σ := σ) (granted fault answer) := by
  cases answer <;> exact fun _ => rfl

theorem preparesNothing_execute (host : Host σ) (sql : String) (slots : List SlotType)
    (params : List Parameter) : PreparesNothing (execute host.recorded sql slots params) := by
  refine (preparesNothing_checked _).bind fun bound => ?_
  refine PreparesNothing.bind (fun _ => rfl) fun answer => ?_
  exact preparesNothing_granted _ answer

theorem prepare_recorded (host : Host σ) (sql : String) (c : Client) (texts : List String)
    (s : σ) : (prepare host.recorded sql (c, (texts, s))).2.2.1 =
      texts ++ if isSendable sql then [sql] else [] := by
  unfold prepare
  split
  · exact preparesNothing_granted _ _ _
  · exact (List.append_nil texts).symm

theorem logIn_recorded (host : Host σ) (database : String) (c : Client) (texts : List String)
    (s : σ) : ∃ result server,
      logIn host.recorded database (c, (texts, s)) = (result, c, texts, server) ∧
      result.isOk = ([c.settings.user, database, c.settings.password].all isSendable &&
        (host.connect c.settings.user database c.settings.password s).1) := by
  rw [logIn, bind_apply]
  dsimp only [current]
  cases hsend : [c.settings.user, database, c.settings.password].all isSendable with
  | false =>
    rw [if_neg Bool.false_ne_true]
    exact ⟨_, _, rfl, rfl⟩
  | true =>
    have hact : act (host.recorded.connect c.settings.user database c.settings.password)
        (c, (texts, s)) = (.ok (host.connect c.settings.user database c.settings.password s).1,
          (c, (texts, (host.connect c.settings.user database c.settings.password s).2))) := rfl
    rw [if_pos rfl, bind_apply, Bool.true_and, hact]
    cases host.connect c.settings.user database c.settings.password s with
    | mk welcome server =>
      cases welcome with
      | false => exact ⟨.error .refused, server, rfl, rfl⟩
      | true => exact ⟨.ok (), server, rfl, rfl⟩

theorem connect_recorded (host : Host σ) (c : Client) (texts : List String) (s : σ) :
    ∃ result next server, connect host.recorded (c, (texts, s)) = (result, next, texts, server) ∧
      result.isOk = c.reaches host s := by
  rw [connect, bind_apply, reaches]
  dsimp only [current]
  cases c.connection with
  | closed => exact ⟨_, _, _, rfl, rfl⟩
  | connected => exact ⟨_, _, _, rfl, rfl⟩
  | idle =>
    obtain ⟨result, server, hlogin, hresult⟩ :=
      logIn_recorded host c.settings.database c texts s
    dsimp only
    rw [bind_apply, hlogin, ← hresult]
    cases result <;> exact ⟨_, _, _, rfl, rfl⟩

theorem query_insert (host : Host σ) {sql : String}
    (hinsert : StatementKind.classify sql = .insert) (values : List Value) :
    query host sql values = do
      connect host
      let prepared ← prepare host (Returning.ensure sql)
      let reply ← execute host (Returning.ensure sql) prepared.slots
        (parameters prepared.slots values)
      let rows ← checked (reply.rows.mapM (readRow prepared.columns))
      return Output.ofCounts .insert rows.length (some (insertedId rows)) := by
  unfold query
  simp only [hinsert, reduceCtorEq, false_and, if_false, if_true]

/-- For an INSERT the text with the keyword is prepared, once and as the only one. -/
theorem preparedBy_insert (host : Host σ) {sql : String}
    (hinsert : StatementKind.classify sql = .insert) (values : List Value) (c : Client) (s : σ) :
    c.preparedBy host sql values s =
      if c.reaches host s && isSendable (Returning.ensure sql) then [Returning.ensure sql]
      else [] := by
  obtain ⟨result, next, server, hconnect, hreaches⟩ := connect_recorded host c [] s
  rw [preparedBy, query_insert host.recorded hinsert, bind_apply, hconnect]
  cases result with
  | error fault =>
    have hno : c.reaches host s = false := hreaches.symm
    rw [hno]
    rfl
  | ok _ =>
    have hyes : c.reaches host s = true := hreaches.symm
    dsimp only
    rw [hyes, Bool.true_and, prepared_bind, prepare_recorded, List.nil_append]
    intro prepared
    refine (preparesNothing_execute host _ _ _).bind fun reply => ?_
    exact (preparesNothing_checked _).bind fun rows _ => rfl

end Client

end FluentSql.PostgreSql
