import FluentSql.Proofs.Model.Assignment
import FluentSql.Proofs.Session.Exchange

/-!
# Checks of terminals

A terminal makes its checks one after another. The first that fails ends it with an error
before anything is sent; behind the last one statement is sent, and an error that answers it
is passed on as it is. A deletion on a soft-delete model is checked as the update that it is.
-/

namespace FluentSql

/-- A query of a table and nothing else. -/
def QueryState.bare (table : String) : QueryState :=
  ⟨table, [], .empty, [], [], .empty, [], none, none, []⟩

theorem Conditions.isEmpty_iff {c : Conditions} : c.isEmpty = true ↔ c = .empty := by
  obtain ⟨primary, alternatives⟩ := c
  rw [isEmpty, Bool.and_eq_true, List.isEmpty_iff, List.isEmpty_iff, empty, mk.injEq]

/-- A clause is whatever makes a query differ from that of its table. -/
theorem QueryState.hasClauses_iff {q : QueryState} : q.hasClauses = true ↔ q ≠ bare q.table := by
  have hbare : q.hasClauses = false ↔ q = bare q.table := by
    obtain ⟨table, fields, conditions, joins, groupBy, having, orderBy, limit, offset, hints⟩ := q
    simp only [hasClauses, Bool.or_eq_false_iff, Bool.not_eq_false', List.isEmpty_iff,
      Conditions.isEmpty_iff, Option.isSome_eq_false_iff, Option.isNone_iff_eq_none, bare,
      mk.injEq, true_and, and_assoc]
  rw [← Bool.not_eq_false, hbare]

/-- What a query checks before it sends a statement. -/
inductive Check where
  /-- An INSERT takes no clauses. -/
  | clauses
  /-- There are records to insert. -/
  | records (records : List Record)
  /-- A model admits the entries of the records. -/
  | guard (records : List Record)
  /-- Some record has a column. -/
  | columns (records : List Record)
  /-- There is something to update. -/
  | assignments (data : Record)
  /-- Joins are for the dialect that writes through them. -/
  | joins (verb : String)

namespace Check

/-- The check fails on the query, with the error. -/
inductive Fails (q : Query) : Check → Error → Prop
  | clauses (h : q.state ≠ .bare q.state.table) : Fails q .clauses (.state .insertWithClauses)
  | records : Fails q (.records []) (.argument .noRecords)
  | guard {m : Model} {records : List Record} {e : Error} (hmodel : q.model = some m)
      (h : m.Rejects records e) : Fails q (.guard records) e
  | columns {records : List Record} (h : ∀ r ∈ records, r.entries = []) :
      Fails q (.columns records) (.argument .rowsWithoutColumns)
  | assignments : Fails q (.assignments ⟨[]⟩) (.argument .emptyUpdate)
  | joins {verb : String} (h : q.state.joins ≠ []) (hdialect : q.dialect ≠ .mySql) :
      Fails q (.joins verb) (.state (.joinsNotSupported verb q.dialect.name))

/-- The first of the checks that fails does so with the error. -/
inductive FirstFails (q : Query) : List Check → Error → Prop
  | here {c : Check} {rest : List Check} {e : Error} (h : c.Fails q e) : FirstFails q (c :: rest) e
  | later {c : Check} {rest : List Check} {e : Error} (hpass : ∀ e, ¬c.Fails q e)
      (h : FirstFails q rest e) : FirstFails q (c :: rest) e

/-- There is an outcome unless one of the checks fails, and then its error. -/
def Decide {α : Type} (q : Query) (checks : List Check) (outcome : Except Error α) : Prop :=
  ∀ e, outcome = .error e ↔ FirstFails q checks e

variable {α : Type} {q : Query}

theorem decide_nil (a : α) : Decide q [] (.ok a) := by
  intro e
  constructor <;> (intro h; cases h)

theorem decide_cons {c : Check} {checks : List Check} {check : Except Error Unit}
    {next : Unit → Except Error α} (hcheck : ∀ e, check = .error e ↔ c.Fails q e)
    (hnext : check = .ok () → Decide q checks (next ())) :
    Decide q (c :: checks) (check >>= next) := by
  intro e
  cases check with
  | error e' =>
    have hfails : c.Fails q e' := (hcheck e').mp rfl
    constructor
    · intro h
      obtain rfl : e' = e := Except.error.inj h
      exact .here hfails
    · intro h
      cases h with
      | here h => exact congrArg Except.error (Except.error.inj ((hcheck e).mpr h))
      | later hpass _ => exact absurd hfails (hpass e')
  | ok u =>
    have hpass : ∀ e, ¬c.Fails q e := fun e h => nomatch (hcheck e).mpr h
    refine ((hnext rfl) e).trans ⟨.later hpass, ?_⟩
    intro h
    cases h with
    | here h => exact absurd h (hpass e)
    | later _ h => exact h

/-- Whatever is made of an outcome, the checks before it are the same. -/
theorem Decide.map {β : Type} {checks : List Check} {outcome : Except Error α}
    (h : Decide q checks outcome) (f : α → β) : Decide q checks (outcome.map f) := by
  intro e
  rw [← h e]
  cases outcome with
  | error e' => exact ⟨fun heq => congrArg _ (Except.error.inj heq),
      fun heq => congrArg _ (Except.error.inj heq)⟩
  | ok a => constructor <;> (intro h; cases h)

/-! ## The checks one by one -/

/-- A check that is a condition with one error. -/
theorem fails_iff_of_condition {c : Check} {p : Prop} [Decidable p] {fault : Error}
    (hfails : ∀ e, c.Fails q e ↔ p ∧ e = fault) (e : Error) :
    (if p then Except.error fault else .ok ()) = Except.error e ↔ c.Fails q e := by
  rw [hfails]
  split
  · next hp => exact ⟨fun h => ⟨hp, (Except.error.inj h).symm⟩, fun h => congrArg _ h.2.symm⟩
  · next hp =>
    constructor
    · intro h
      cases h
    · exact fun h => absurd h.1 hp

theorem fails_clauses_iff (e : Error) :
    clauses.Fails q e ↔ q.state.hasClauses = true ∧ e = .state .insertWithClauses := by
  rw [QueryState.hasClauses_iff]
  constructor
  · intro h
    cases h with
    | clauses h => exact ⟨h, rfl⟩
  · rintro ⟨h, rfl⟩
    exact .clauses h

theorem fails_records_iff {rs : List Record} (e : Error) :
    (records rs).Fails q e ↔ rs.isEmpty = true ∧ e = .argument .noRecords := by
  rw [List.isEmpty_iff]
  constructor
  · rintro ⟨⟩
    exact ⟨rfl, rfl⟩
  · rintro ⟨rfl, rfl⟩
    exact .records

theorem fails_columns_iff {rs : List Record} (e : Error) :
    (columns rs).Fails q e ↔
      (QueryState.columnUnion rs).isEmpty = true ∧ e = .argument .rowsWithoutColumns := by
  have hempty : QueryState.columnUnion rs = [] ↔ ∀ r ∈ rs, r.entries = [] := by
    rw [← not_iff_not, ← ne_eq, QueryState.columnUnion_ne_nil_iff]
    simp only [not_forall, exists_prop]
  rw [List.isEmpty_iff, hempty]
  constructor
  · intro h
    cases h with
    | columns h => exact ⟨h, rfl⟩
  · rintro ⟨h, rfl⟩
    exact .columns h

theorem fails_assignments_iff {data : Record} (e : Error) :
    (assignments data).Fails q e ↔ data.isEmpty = true ∧ e = .argument .emptyUpdate := by
  obtain ⟨entries⟩ := data
  rw [Record.isEmpty, List.isEmpty_iff]
  constructor
  · rintro ⟨⟩
    exact ⟨rfl, rfl⟩
  · rintro ⟨rfl, rfl⟩
    exact .assignments

theorem joins_fails_iff {verb : String} (e : Error) :
    q.state.checkJoins q.dialect verb = .error e ↔ (joins verb).Fails q e := by
  unfold QueryState.checkJoins
  split
  · next h =>
    constructor
    · intro herror
      cases herror
    · intro hfails
      cases hfails with
      | joins hjoins hdialect =>
        exact absurd (h.imp_left List.isEmpty_iff.mp) (not_or.mpr ⟨hjoins, hdialect⟩)
  · next h =>
    obtain ⟨hjoins, hdialect⟩ := not_or.mp h
    constructor
    · intro herror
      obtain rfl := Except.error.inj herror
      exact .joins (fun hnil => hjoins (List.isEmpty_iff.mpr hnil)) hdialect
    · intro hfails
      cases hfails
      rfl

/-- Without a model there is no guard. -/
theorem guard_fails_iff {rs : List Record} (e : Error) :
    (match q.model with
      | some m => m.validate rs
      | none => .ok ()) = .error e ↔ (guard rs).Fails q e := by
  cases hmodel : q.model with
  | none =>
    constructor
    · intro h
      cases h
    · intro hfails
      cases hfails with
      | guard hsome h =>
        rw [hmodel] at hsome
        cases hsome
  | some m =>
    refine Model.validate_eq_error_iff.trans ⟨.guard hmodel, ?_⟩
    intro hfails
    cases hfails with
    | guard hsome h =>
      rw [hmodel] at hsome
      obtain rfl := Option.some.inj hsome
      exact h

end Check

/-! ## The checks of a terminal -/

/-- The checks of a terminal, in their order. -/
def Terminal.checks (q : Query) (now : DateTime) : Terminal → List Check
  | .get => []
  | .first => []
  | .count => []
  | .insertMany records validate =>
    .clauses :: .records records ::
      ((if validate then [.guard records] else []) ++ [.columns records])
  | .update data => [.guard [data], .assignments data, .joins "UPDATE"]
  | .delete =>
    if q.softDelete then
      [.guard [Model.deletion now], .assignments (Model.deletion now), .joins "UPDATE"]
    else [.joins "DELETE"]

namespace Query

open Check

variable {q : Query}

theorem decide_compileInsert {records : List Record} (hne : records ≠ []) (table : String) :
    Check.Decide q [.columns records] (QueryState.compileInsert q.dialect table records) := by
  have hinsert : QueryState.insertFragments table records =
      (if (QueryState.columnUnion records).isEmpty then
          Except.error (.argument .rowsWithoutColumns) else .ok ()) >>= fun _ =>
        .ok (.text ("INSERT INTO " ++ table ++ " (" ++
          Text.commaList (QueryState.columnUnion records) ++ ") VALUES ") ::
            QueryState.rowFragments (QueryState.columnUnion records) records) := by
    rw [QueryState.insertFragments, if_neg (by simpa using hne)]
    dsimp only
    split <;> rfl
  rw [QueryState.compileInsert, hinsert]
  refine Decide.map ?_ _
  exact decide_cons (fails_iff_of_condition fails_columns_iff) fun _ => decide_nil _

theorem decide_insertion (records : List Record) (validate : Bool) (now : DateTime) :
    Check.Decide q (Terminal.checks q now (.insertMany records validate))
      (q.insertion records validate) := by
  have hinsertion : q.insertion records validate =
      (if q.state.hasClauses then Except.error (.state .insertWithClauses) else .ok ()) >>= fun _ =>
        (if records.isEmpty then Except.error (.argument .noRecords) else .ok ()) >>= fun _ =>
          (match q.model with
            | some m => if validate then m.validate records else .ok ()
            | none => .ok ()) >>= fun _ =>
            QueryState.compileInsert q.dialect q.state.table records := by
    rw [insertion]
    cases q.state.hasClauses <;> cases records.isEmpty <;> cases q.model <;>
      cases validate <;> rfl
  rw [hinsertion]
  refine decide_cons (fails_iff_of_condition fails_clauses_iff) fun _ => ?_
  refine decide_cons (fails_iff_of_condition fails_records_iff) fun hsome => ?_
  have hne : records ≠ [] := by
    rintro rfl
    cases hsome
  cases validate with
  | true => exact decide_cons guard_fails_iff fun _ => decide_compileInsert hne q.state.table
  | false =>
    have hskip : (match q.model with
        | some m => if false then m.validate records else Except.ok ()
        | none => .ok ()) = .ok () := by
      cases q.model <;> rfl
    rw [hskip]
    exact decide_compileInsert hne q.state.table

theorem joins_readState (q : Query) : q.readState.joins = q.state.joins := by
  unfold readState
  split
  · exact q.state.joins_guardReads
  · rfl

theorem decide_modification (data : Record) :
    Check.Decide q [.guard [data], .assignments data, .joins "UPDATE"] (q.modification data) := by
  have hmodification : q.modification data =
      (match q.model with
        | some m => m.validate [data]
        | none => .ok ()) >>= fun _ => q.readState.compileUpdate q.dialect data := by
    rw [modification]
    cases q.model <;> rfl
  rw [hmodification]
  refine decide_cons guard_fails_iff fun _ => ?_
  have hupdate : q.readState.updateFragments q.dialect data =
      (if data.isEmpty then Except.error (.argument .emptyUpdate) else .ok ()) >>= fun _ =>
        q.state.checkJoins q.dialect "UPDATE" >>= fun _ =>
          .ok (.text ("UPDATE " ++ q.readState.table ++ q.readState.hintText q.dialect) ::
            q.readState.joinFragments q.dialect ++ .text " SET " ::
              QueryState.assignmentFragments data.entries ++
                q.readState.conditions.fragments "WHERE") := by
    have hjoins : q.readState.checkJoins q.dialect "UPDATE" =
        q.state.checkJoins q.dialect "UPDATE" := by
      rw [QueryState.checkJoins, QueryState.checkJoins, q.joins_readState]
    rw [QueryState.updateFragments, hjoins]
    split <;> rfl
  rw [QueryState.compileUpdate, hupdate]
  refine Decide.map ?_ _
  refine decide_cons (fails_iff_of_condition fails_assignments_iff) fun _ => ?_
  exact decide_cons joins_fails_iff fun _ => decide_nil _

theorem decide_compileDelete :
    Check.Decide q [.joins "DELETE"] (q.state.compileDelete q.dialect) := by
  refine Decide.map ?_ _
  exact decide_cons joins_fails_iff fun _ => decide_nil _

/-- A terminal has a statement unless one of its checks fails. -/
theorem decide_statement (q : Query) (now : DateTime) (t : Terminal) :
    Check.Decide q (t.checks q now) (q.statement now t) := by
  cases t with
  | get | first | count => exact decide_nil _
  | insertMany records validate => exact decide_insertion records validate now
  | update data => exact decide_modification data
  | delete =>
    rw [statement, Terminal.checks]
    cases q.softDelete with
    | true => exact decide_modification (Model.deletion now)
    | false => exact decide_compileDelete

end Query

/-! ## The session of a terminal -/

namespace Session

variable {α β σ : Type}

/-- An error that answers the statement of the session is passed on as it is. -/
def Relays (x : Session α) : Prop :=
  ∀ s next, x = .send s next → ∀ e, next (.error e) = .done (.error e)

theorem relays_ask (s : BoundStatement) (f : Output → Session α) : (ask s >>= f).Relays := by
  intro s' next h e
  obtain ⟨_, rfl⟩ := send.inj h
  rfl

theorem relays_ofExcept {f : BoundStatement → Session α} (h : ∀ s, (f s).Relays)
    (x : Except Error BoundStatement) : (ofExcept x >>= f).Relays := by
  cases x with
  | error e => exact nofun
  | ok s => exact h s

theorem Relays.bind {x : Session α} (h : x.Relays) {s : BoundStatement} (hasks : x.Asks s)
    (f : α → Session β) : (x >>= f).Relays := by
  obtain ⟨next, rfl, _⟩ := hasks
  intro s' next' hsend e
  obtain ⟨_, rfl⟩ := send.inj hsend
  show (next (.error e)).thenWith _ = _
  rw [h s next rfl e]
  rfl

/-- The session heeds the checks of the query: it ends with the error of the first that fails,
and nothing is sent, or it sends one statement, whose error it passes on. -/
structure Heeds (x : Session α) (q : Query) (checks : List Check) (b : Backend σ) (s : σ) :
    Prop where
  stopped : ∀ e, Check.FirstFails q checks e → x.exchanges b s = [] ∧ x.run b s = (.error e, s)
  asked : (∀ e, ¬Check.FirstFails q checks e) →
    ∃ statement, x.exchanges b s = [b.exchange statement s] ∧
      ∀ e s', b.answer statement s = (.error e, s') → x.run b s = (.error e, s')

theorem Follows.heeds {x : Session α} {outcome : Except Error BoundStatement} {q : Query}
    {checks : List Check} (hfollows : x.Follows outcome) (hrelays : x.Relays)
    (hdecide : Check.Decide q checks outcome) (b : Backend σ) (s : σ) : x.Heeds q checks b s where
  stopped e hfirst := by
    rw [(hdecide e).mpr hfirst] at hfollows
    obtain rfl : x = .done (.error e) := hfollows
    exact ⟨rfl, rfl⟩
  asked hnone := by
    cases outcome with
    | error e => exact absurd ((hdecide e).mp rfl) (hnone e)
    | ok statement =>
      obtain ⟨next, rfl, hnext⟩ := hfollows
      refine ⟨statement, ?_, ?_⟩
      · obtain ⟨r, hdone⟩ := hnext (b.answer statement s).1
        rw [exchanges, hdone]
        rfl
      · intro e s' hanswer
        show run b (next (b.answer statement s).1) (b.answer statement s).2 = _
        rw [hanswer, hrelays statement next rfl e]
        rfl

end Session

namespace Query

variable (α : Type) [Hydrates α] {σ : Type}

theorem relays_perform (q : Query) (now : DateTime) (t : Terminal) :
    (q.perform α now t).Relays := by
  have hwrite : ∀ {β : Type} (f : Output → Session β) (x : Except Error BoundStatement),
      (Session.ofExcept x >>= fun s => Session.ask s >>= f).Relays :=
    fun f => Session.relays_ofExcept fun s => Session.relays_ask s f
  cases t with
  | get => exact Session.relays_ask _ _
  | first => exact (Session.relays_ask _ _).bind (asks_get α { q with state.limit := some 1 }) _
  | count => exact Session.relays_ask _ _
  | insertMany records validate => exact hwrite _ _
  | update data => exact hwrite _ _
  | delete =>
    show (q.delete now).Relays
    rw [delete]
    cases q.softDelete with
    | true => exact hwrite _ _
    | false => exact hwrite _ _

/-- Every terminal heeds its checks, on every query, with every payload and whatever answers.
The insertion of one record does so as one of many. -/
theorem perform_heeds_checks (q : Query) (now : DateTime) (b : Backend σ) (s : σ) :
    (∀ t, (q.perform α now t).Heeds q (t.checks q now) b s) ∧
      ∀ record validate, (q.insert record validate).Heeds q
        ((Terminal.insertMany [record] validate).checks q now) b s := by
  have hheeds : ∀ t, (q.perform α now t).Heeds q (t.checks q now) b s := fun t =>
    (q.perform_follows α now t).heeds (relays_perform α q now t) (q.decide_statement now t) b s
  exact ⟨hheeds, fun record validate => hheeds (.insertMany [record] validate)⟩

end Query

end FluentSql
