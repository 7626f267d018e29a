import FluentSql.Proofs.Model.Assignment
import FluentSql.Proofs.Model.SoftDelete
import FluentSql.Proofs.Session.Kind

/-!
# Deletion by the marker

To delete from a soft-delete model is to update the marker, with a payload that the mass
assignment guard checks like any other. The marker is fillable on such a model, whatever its
lists are, so the guard lets the payload pass unless the marker is guarded.
-/

namespace FluentSql

open FluentSql.Text

namespace Model

variable {m : Model}

theorem admits_marker_iff (hsoft : m.softDelete = true) (v : Value) :
    m.Admits (markerColumn, some v) ↔ markerColumn ∉ m.guarded :=
  ⟨Admits.unguarded, fun h => ⟨h, .inr ⟨hsoft, rfl⟩, Option.some_ne_none v⟩⟩

theorem validate_deletion_ok_iff (hsoft : m.softDelete = true) (now : DateTime) :
    m.validate [deletion now] = .ok () ↔ markerColumn ∉ m.guarded := by
  rw [validate_eq_ok_iff, List.forall_mem_singleton, ← admits_marker_iff hsoft (.dateTime now)]
  exact List.forall_mem_singleton

theorem validate_deletion_of_guarded (hguarded : markerColumn ∈ m.guarded) (now : DateTime) :
    m.validate [deletion now] = .error (.guarded markerColumn) := by
  rw [validate_eq_error_iff]
  exact .first [] [] [] [] rfl (fun _ h => nomatch h) (fun _ h => nomatch h)
    (.guarded hguarded)

end Model

namespace QueryState

/-- The guard changes the conditions of an UPDATE and nothing else. -/
theorem updateText_guardReads (d : Dialect) (q : QueryState) (columns : List String) :
    q.guardReads.updateText d columns = "UPDATE " ++ q.table ++ q.hintText d ++ q.joinText d ++
      " SET " ++ commaList (columns.map fun column => column ++ " = ?") ++
        q.guardReads.conditions.sql "WHERE" := by
  unfold guardReads
  split <;> rfl

end QueryState

namespace Query

variable {m : Model} {d : Dialect} {q : Query}

theorem Built.table {V : Vocabulary} (h : q.Built V m d) : q.state.table = trim m.table := by
  obtain ⟨q₀, _, hstart, hreach⟩ := h
  obtain ⟨state, hstate, hquery⟩ := ok_of_bind hstart
  obtain rfl := Except.ok.inj hquery
  obtain ⟨_, rfl⟩ := QueryState.start_ok hstate
  obtain ⟨_, _, hstates⟩ := reaches_state hreach
  exact hstates.invariant (P := fun state => state.table = trim m.table)
    (fun _ _ _ _ htable happly => (QueryState.table_apply happly).trans htable) rfl

/-- The UPDATE that sets the marker of the rows of a query, with its guard. -/
def marking (q : Query) (m : Model) (now : DateTime) : BoundStatement where
  sql := q.dialect.lowerPlaceholders ("UPDATE " ++ trim m.table ++ q.state.hintText q.dialect ++
    q.state.joinText q.dialect ++ " SET " ++ (Model.markerColumn ++ " = ?") ++
    q.state.guardReads.conditions.sql "WHERE")
  params := .dateTime now :: q.state.guardReads.conditions.values

theorem update_of_ok {data : Record} {s : BoundStatement} (h : q.modification data = .ok s) :
    q.update data = .send s fun answer => .done (answer.map Output.toBool) := by
  have hnext : ∀ answer : Except Error Output, (Session.done answer).bind
      (fun output => Session.ret output.toBool) = .done (answer.map Output.toBool) := by
    intro answer
    cases answer <;> rfl
  unfold update
  rw [h]
  exact congrArg (Session.send s) (funext hnext)

theorem update_of_error {data : Record} {e : Error} (h : q.modification data = .error e) :
    q.update data = .done (.error e) := by
  rw [update, h]
  rfl

theorem classify_marking (q : Query) (m : Model) (now : DateTime) :
    StatementKind.classify (q.marking m now).sql = .update := by
  have hverb : ∀ rest : String, StatementKind.classify ("UPDATE " ++ rest) = .update := by
    intro rest
    have hclassify : StatementKind.classify ("UPDATE" ++ " " ++ rest) =
        StatementKind.classify "UPDATE" :=
      StatementKind.classify_append (by decide) (by decide) rest
    exact hclassify.trans (by decide)
  rw [marking, StatementKind.classify_lowerPlaceholders]
  simp only [String.append_assoc]
  exact hverb _

theorem modification_deletion (hsoft : m.softDelete = true) (hq : q.Built .any m d)
    (hjoins : q.state.joins = [] ∨ d = .mySql) (hopen : Model.markerColumn ∉ m.guarded)
    (now : DateTime) : q.modification (Model.deletion now) = .ok (q.marking m now) := by
  obtain ⟨rfl, hmodel, _⟩ := hq.spec
  rw [modification_of_model hmodel, (Model.validate_deletion_ok_iff hsoft now).mpr hopen,
    readState_of_soft (softDelete_of_model hmodel hsoft)]
  have hadmitted : q.state.guardReads.joins = [] ∨ q.dialect = .mySql := by
    rw [QueryState.joins_guardReads]
    exact hjoins
  refine QueryState.compileUpdate_ok_iff.mpr ⟨List.cons_ne_nil _ _, hadmitted, ?_⟩
  rw [QueryState.updateText_guardReads, hq.table]
  rfl

/-- On a soft-delete model, to delete is to send one UPDATE of the marker exactly if the marker
is not guarded, and nothing else is ever sent. A guarded marker fails the mass assignment guard.
The UPDATE is of the model's table, with the conditions of the query and the guard among those
that have to hold. -/
theorem delete_marks_iff (hsoft : m.softDelete = true) (hq : q.Built .any m d)
    (hjoins : q.state.joins = [] ∨ d = .mySql) (now : DateTime) :
    ((q.delete now = .send (q.marking m now) fun answer => .done (answer.map Output.toBool)) ↔
      Model.markerColumn ∉ m.guarded) ∧
    (q.delete now = .done (.error (.guarded Model.markerColumn)) ↔
      Model.markerColumn ∈ m.guarded) ∧
    StatementKind.classify (q.marking m now).sql = .update ∧
    q.state.conditions.Adds Model.liveRows q.state.guardReads.conditions ∧
    ∀ row : RowView, row.holds q.state.guardReads.conditions.formula = some true ↔
      ((∀ clause ∈ q.state.conditions.primary, row.truth clause.predicate = some true) ∧
        row.isDeleted = false) ∨
      ∃ clause ∈ q.state.conditions.alternatives, row.truth clause.predicate = some true := by
  obtain ⟨_, hmodel, _⟩ := hq.spec
  have hdelete : q.delete now = q.update (Model.deletion now) := by
    rw [delete, if_pos (softDelete_of_model hmodel hsoft)]
  have hmarks : Model.markerColumn ∉ m.guarded → q.delete now =
      .send (q.marking m now) fun answer => .done (answer.map Output.toBool) := fun hopen =>
    hdelete.trans (update_of_ok (modification_deletion hsoft hq hjoins hopen now))
  have hfails : Model.markerColumn ∈ m.guarded →
      q.delete now = .done (.error (.guarded Model.markerColumn)) := by
    intro hguarded
    refine hdelete.trans (update_of_error ?_)
    rw [modification_of_model hmodel, Model.validate_deletion_of_guarded hguarded now]
    rfl
  refine ⟨⟨?_, hmarks⟩, ⟨?_, hfails⟩, classify_marking q m now, q.state.adds_liveRows, ?_⟩
  · intro hsent hguarded
    rw [hfails hguarded] at hsent
    cases hsent
  · intro hfailed
    by_contra hopen
    rw [hmarks hopen] at hfailed
    cases hfailed
  · intro row
    rw [q.state.adds_liveRows.holds_iff row, RowView.truth_liveRows]

/-- Notes that are deleted by a marker, with some guarded columns. -/
def noteModel (guarded : List String) : Model :=
  { table := "notes", guarded := guarded, softDelete := true }

/-- The notes with `id = 5`. -/
def fifthNote (guarded : List String) : Query :=
  ⟨.sqlite, some (noteModel guarded), ⟨"notes", [], ⟨[⟨.compare "id" .eq (.int 5), none⟩], []⟩,
    [], [], .empty, [], none, none, []⟩⟩

theorem built_fifthNote (guarded : List String) :
    (fifthNote guarded).Built .any (noteModel guarded) .sqlite := by
  have hstate : QueryState.start "notes" =
      .ok ⟨"notes", [], .empty, [], [], .empty, [], none, none, []⟩ := rfl
  have hstart : ofModel .sqlite (noteModel guarded) = .ok ⟨.sqlite, some (noteModel guarded),
      ⟨"notes", [], .empty, [], [], .empty, [], none, none, []⟩⟩ := by
    show (QueryState.start "notes" >>= fun state =>
      pure (⟨.sqlite, some (noteModel guarded), state⟩ : Query)) = _
    rw [hstate]
    rfl
  have hfilter : QueryCall.Within .any (.filter .where_ .and (.equals "id" (.int 5))) := trivial
  exact ⟨_, trivial, hstart, .step hfilter rfl (.refl _)⟩

/-- Notes whose id is guarded are deleted by their marker. -/
theorem delete_marks_iff_fifthNote :
    (fifthNote ["id"]).delete ⟨default, default⟩ =
      .send ⟨"UPDATE notes SET deleted_at = ? WHERE id = ? AND deleted_at IS NULL",
        [.dateTime ⟨default, default⟩, .int 5]⟩ fun answer => .done (answer.map Output.toBool) := by
  obtain ⟨hmarks, _⟩ := delete_marks_iff (m := noteModel ["id"]) rfl (built_fifthNote ["id"])
    (.inl rfl) ⟨default, default⟩
  exact hmarks.mpr (by decide)

/-- Notes whose marker is guarded cannot be deleted. -/
theorem delete_refused :
    (fifthNote ["deleted_at"]).Built .any (noteModel ["deleted_at"]) .sqlite ∧
      (fifthNote ["deleted_at"]).state.joins = [] ∧
      (fifthNote ["deleted_at"]).delete ⟨default, default⟩ =
        .done (.error (.guarded "deleted_at")) :=
  ⟨built_fifthNote ["deleted_at"], rfl, rfl⟩

end Query

end FluentSql
