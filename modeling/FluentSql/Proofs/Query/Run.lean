import FluentSql.Proofs.Query.Statement

/-!
# Runs and the values passed to them

A run opens a query, applies calls in turn and ends with a terminal. Runs of one shape
differ in the values passed to them and in nothing else. They stop with one error, or
send one statement whose text is the same for all of them, and each parameter is the
value passed at a fixed place, the time of deletion, or a fixed value.
-/

namespace FluentSql

inductive Origin where
  | table (name : String)
  | model (m : Model)

structure Run where
  dialect : Dialect
  origin : Origin
  calls : List QueryCall
  terminal : Terminal

/-- Where a parameter comes from. -/
inductive Supply where
  | passed (n : Nat)
  | clock
  | fixed (v : Value)

def Supply.value (ρ : Nat → Value) (now : DateTime) : Supply → Value
  | .passed n => ρ n
  | .clock => .dateTime now
  | .fixed v => v

namespace Query

variable (g : Value → Value)

def change (q : Query) : Query :=
  { q with state := q.state.change g }

theorem apply_change (q : Query) (call : QueryCall) :
    (q.change g).apply (Carries.change g call) = (q.apply call).map (Query.change g) := by
  unfold apply
  have hstate : (q.change g).state.apply (Carries.change g call) =
      (q.state.apply call).map (QueryState.change g) := QueryState.apply_change g q.state call
  rw [hstate]
  refine bind_map (fun state => ?_) (q.state.apply call)
  rfl

theorem readState_change (q : Query) : (q.change g).readState = q.readState.change g := by
  unfold readState
  have hsoft : (q.change g).softDelete = q.softDelete := rfl
  rw [hsoft]
  split
  · exact QueryState.guardReads_change g q.state
  · rfl

/-- The checks of a payload look at its columns and at which of them have a value. -/
theorem validate_change (m : Model) (records : List Record) :
    m.validate (Carries.change g records) = m.validate records := by
  have hfault : ∀ entry : String × Option Value,
      m.entryFault? (Carries.change g entry) = m.entryFault? entry := by
    intro entry
    obtain ⟨c, v⟩ := entry
    cases v <;> rfl
  have hfind : ((Carries.change g records).flatMap (·.entries)).findSome? m.entryFault? =
      (records.flatMap (·.entries)).findSome? m.entryFault? := by
    have hentries : (Carries.change g records).flatMap (·.entries) =
        (records.flatMap (·.entries)).map (Carries.change g) := by
      show (records.map (Carries.change g)).flatMap _ = _
      rw [List.flatMap_map, List.map_flatMap]
      rfl
    rw [hentries, List.findSome?_map]
    exact congrArg (fun f => List.findSome? f _) (funext hfault)
  unfold Model.validate
  rw [hfind]

theorem insertion_change (hnull : g .null = .null) (q : Query) (records : List Record)
    (validate : Bool) :
    (q.change g).insertion (Carries.change g records) validate =
      (q.insertion records validate).map (BoundStatement.change g) := by
  have hcompile : QueryState.compileInsert q.dialect q.state.table (Carries.change g records) =
      (QueryState.compileInsert q.dialect q.state.table records).map (BoundStatement.change g) :=
    QueryState.compile_change g hnull q.dialect q.state (.insert records)
  have hclauses : (q.change g).state.hasClauses = q.state.hasClauses :=
    QueryState.hasClauses_change g q.state
  have hempty : (Carries.change g records).isEmpty = records.isEmpty := List.isEmpty_map
  have hmodel : (q.change g).model = q.model := rfl
  have htable : (q.change g).state.table = q.state.table := rfl
  have hdialect : (q.change g).dialect = q.dialect := rfl
  unfold insertion
  rw [hclauses, hempty, hmodel, htable, hdialect, hcompile]
  cases q.state.hasClauses with
  | true => rfl
  | false =>
    cases records.isEmpty with
    | true => rfl
    | false =>
      cases q.model with
      | none => rfl
      | some m =>
        cases validate with
        | false => rfl
        | true =>
          dsimp only
          rw [validate_change]
          refine bind_map_right (fun _ => ?_) (m.validate records)
          rfl

theorem modification_change (hnull : g .null = .null) (q : Query) (data : Record) :
    (q.change g).modification (Carries.change g data) =
      (q.modification data).map (BoundStatement.change g) := by
  have hcompile : (q.change g).readState.compileUpdate q.dialect (Carries.change g data) =
      (q.readState.compileUpdate q.dialect data).map (BoundStatement.change g) := by
    rw [readState_change]
    exact QueryState.compile_change g hnull q.dialect q.readState (.update data)
  have hmodel : (q.change g).model = q.model := rfl
  have hdialect : (q.change g).dialect = q.dialect := rfl
  unfold modification
  rw [hmodel, hdialect, hcompile]
  cases q.model with
  | none => rfl
  | some m =>
    dsimp only
    have hvalidate : m.validate [Carries.change g data] = m.validate [data] :=
      validate_change g m [data]
    rw [hvalidate]
    refine bind_map_right (fun _ => ?_) (m.validate [data])
    rfl

/-- A change of values that turns one time into another goes through every terminal. -/
theorem statement_change (hnull : g .null = .null) {now now' : DateTime}
    (hclock : g (.dateTime now) = .dateTime now') (q : Query) (t : Terminal) :
    (q.change g).statement now' (Carries.change g t) =
      (q.statement now t).map (BoundStatement.change g) := by
  have hselection : ∀ q : Query, (q.change g).selection = q.selection.change g := by
    intro q
    unfold selection
    rw [readState_change]
    exact Except.ok.inj (QueryState.compile_change g hnull q.dialect q.readState .select)
  cases t with
  | get => exact congrArg Except.ok (hselection q)
  | first => exact congrArg Except.ok (hselection { q with state.limit := some 1 })
  | count =>
    show Except.ok ((q.change g).readState.compileCount q.dialect) = _
    rw [readState_change]
    exact QueryState.compile_change g hnull q.dialect q.readState .count
  | insertMany records validate => exact insertion_change g hnull q records validate
  | update data => exact modification_change g hnull q data
  | delete =>
    have hsoft : (q.change g).softDelete = q.softDelete := rfl
    have hdeletion : Model.deletion now' = Carries.change g (Model.deletion now) := by
      show _ = Record.mk [(Model.markerColumn, some (g (.dateTime now)))]
      rw [hclock]
      rfl
    show (if (q.change g).softDelete then (q.change g).modification (Model.deletion now')
      else (q.change g).state.compileDelete q.dialect) = _
    rw [hsoft, hdeletion, modification_change g hnull, statement]
    split
    · rfl
    · exact QueryState.compile_change g hnull q.dialect q.state .delete

end Query

namespace Run

def start (r : Run) : Except Error Query :=
  match r.origin with
  | .table name => Query.ofTable r.dialect name
  | .model m => Query.ofModel r.dialect m

/-- The query after all calls, or the first error. -/
def query (r : Run) : Except Error Query := do
  let q ← r.start
  Calls.applyAll Query.apply q r.calls

def session (α : Type) [Hydrates α] (now : DateTime) (r : Run) :
    Session (r.terminal.Answer α) := do
  let q ← Session.ofExcept r.query
  q.perform α now r.terminal

def statement (now : DateTime) (r : Run) : Except Error BoundStatement := do
  let q ← r.query
  q.statement now r.terminal

theorem session_follows (α : Type) [Hydrates α] (now : DateTime) (r : Run) :
    (r.session α now).Follows (r.statement now) := by
  unfold session statement
  cases r.query with
  | error e => rfl
  | ok q => exact Query.perform_follows α q now r.terminal

/-- The values of a run are those of its calls and then those of its terminal. -/
instance : Carries Run where
  values r := Carries.values r.calls ++ Carries.values r.terminal
  fill ρ n r :=
    { r with
      calls := Carries.fill ρ n r.calls
      terminal := Carries.fill ρ (n + (Carries.values r.calls).length) r.terminal }
  change g r :=
    { r with calls := Carries.change g r.calls, terminal := Carries.change g r.terminal }
  change_fill g ρ n r := by
    dsimp only
    rw [Carries.change_fill, Carries.change_fill]
  fill_values ρ n r h := by
    have hcalls : Carries.fill ρ n r.calls = r.calls := by
      apply Carries.fill_values
      intro i v hv
      apply h
      rw [List.getElem?_append_left (List.getElem?_eq_some_iff.mp hv).1]
      exact hv
    have hterminal : Carries.fill ρ (n + (Carries.values r.calls).length) r.terminal =
        r.terminal := by
      apply Carries.fill_values
      intro i v hv
      rw [Nat.add_assoc]
      apply h
      rw [List.getElem?_append_right (Nat.le_add_right _ _), Nat.add_sub_cancel_left]
      exact hv
    rw [hcalls, hterminal]

theorem query_change (g : Value → Value) (r : Run) :
    (Carries.change g r).query = r.query.map (Query.change g) := by
  -- A query that was just opened has no values to change.
  have hopen : ∀ (table : String) (m : Option Model) (d : Dialect),
      (QueryState.start table >>= fun state => Except.ok (Query.mk d m state)) =
        (QueryState.start table >>= fun state => Except.ok (Query.mk d m state)).map
          (Query.change g) := by
    intro table m d
    cases hstate : QueryState.start table with
    | error e => rfl
    | ok q =>
      obtain ⟨_, rfl⟩ := QueryState.start_ok hstate
      rfl
  have hstart : (Carries.change g r).start = r.start.map (Query.change g) := by
    show r.start = _
    unfold start
    cases r.origin with
    | table name => exact hopen name none r.dialect
    | model m => exact hopen m.table (some m) r.dialect
  unfold query
  rw [hstart]
  exact bind_map (fun q => Calls.applyAll_map (Query.apply_change g) q r.calls) r.start

theorem statement_change (g : Value → Value) (hnull : g .null = .null) {now now' : DateTime}
    (hclock : g (.dateTime now) = .dateTime now') (r : Run) :
    (Carries.change g r).statement now' = (r.statement now).map (BoundStatement.change g) := by
  unfold statement
  rw [query_change]
  exact bind_map (fun q => Query.statement_change g hnull hclock q r.terminal) r.query

/-- A value that stands for the number of a place. -/
def numbered (n : Nat) : Value :=
  .bytes (List.replicate n 0)

/-- What stands at a parameter of a run whose passed values are numbers of places. -/
def supply : Value → Supply
  | .bytes b => .passed b.length
  | .dateTime _ => .clock
  | v => .fixed v

/-- The statement of a run filled in any way is that of the numbered run, with each
parameter taken from where it comes. -/
theorem statement_fill (r : Run) (ρ : Nat → Value) (now now' : DateTime) :
    (Carries.fill ρ 0 r).statement now' =
      ((Carries.fill numbered 0 r).statement now).map
        (BoundStatement.change fun v => (supply v).value ρ now') := by
  have hfill : Carries.fill ρ 0 r =
      Carries.change (fun v => (supply v).value ρ now') (Carries.fill numbered 0 r) := by
    rw [Carries.change_fill]
    refine congrArg (fun σ => Carries.fill σ 0 r) (funext fun n => ?_)
    show ρ n = ρ (List.replicate n (0 : UInt8)).length
    rw [List.length_replicate]
  rw [hfill]
  exact statement_change _ rfl rfl _

/-- Passed values do not reach the text. Whatever fills the places of a run, it stops
with the same error or sends one statement of the same text, and each parameter is
supplied from the same place. Every run is filled with its own values. -/
theorem session_fill (α : Type) [Hydrates α] (r : Run) :
    (∃ ρ, Carries.fill ρ 0 r = r) ∧
      ((∃ e, ∀ ρ now, (Carries.fill ρ 0 r).session α now = .done (.error e)) ∨
        ∃ (sql : String) (supplies : List Supply), ∀ ρ now,
          ((Carries.fill ρ 0 r).session α now).Asks ⟨sql, supplies.map (Supply.value ρ now)⟩) := by
  refine ⟨⟨fun n => ((Carries.values r)[n]?).getD .null, ?_⟩, ?_⟩
  · apply Carries.fill_values
    intro i v hv
    rw [Nat.zero_add, hv]
    rfl
  · cases hstatement : (Carries.fill numbered 0 r).statement ⟨default, default⟩ with
    | error e =>
      refine .inl ⟨e, ?_⟩
      intro ρ now
      have hfollows := session_follows α now (Carries.fill ρ 0 r)
      rw [statement_fill r ρ ⟨default, default⟩ now, hstatement] at hfollows
      exact hfollows
    | ok s =>
      refine .inr ⟨s.sql, s.params.map supply, ?_⟩
      intro ρ now
      have hfollows := session_follows α now (Carries.fill ρ 0 r)
      rw [statement_fill r ρ ⟨default, default⟩ now, hstatement] at hfollows
      rw [List.map_map]
      exact hfollows

end Run

end FluentSql
