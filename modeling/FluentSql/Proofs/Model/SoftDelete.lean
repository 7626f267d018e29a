import FluentSql.Proofs.Query.Section
import FluentSql.Proofs.Query.Terminal
import FluentSql.Sqlite.Operator

/-!
# Rows behind the read guard

The guard is one more clause of the conjunction, and the alternatives stand beside it.
A row that is marked as deleted is therefore reached by a guarded statement exactly
when one of the alternatives of the query holds for it.
-/

namespace FluentSql

open FluentSql.Text

/-- What a row says of predicates, unknown included; tests for NULL go by its cells. -/
structure RowView where
  isNull : String → Bool
  truth : Predicate → Option Bool
  truth_isNull : ∀ c negated, truth (.isNull c negated) = some (isNull c != negated)

namespace RowView

/-- The truth of a disjunction of conjunctions in the logic of three values. -/
def holds (row : RowView) (f : Formula) : Option Bool :=
  (f.map fun conjunction =>
    (conjunction.map row.truth).foldr Sqlite.andTruth (some true)).foldr Sqlite.orTruth (some false)

def isDeleted (row : RowView) : Bool :=
  !row.isNull Model.markerColumn

theorem andTruth_iff (a b : Option Bool) :
    Sqlite.andTruth a b = some true ↔ a = some true ∧ b = some true := by
  obtain _ | (_ | _) := a <;> obtain _ | (_ | _) := b <;> decide

theorem orTruth_iff (a b : Option Bool) :
    Sqlite.orTruth a b = some true ↔ a = some true ∨ b = some true := by
  obtain _ | (_ | _) := a <;> obtain _ | (_ | _) := b <;> decide

theorem conjunction_iff (row : RowView) (ps : List Predicate) :
    (ps.map row.truth).foldr Sqlite.andTruth (some true) = some true ↔
      ∀ p ∈ ps, row.truth p = some true := by
  induction ps with
  | nil => simp
  | cons p ps ih => rw [List.map_cons, List.foldr_cons, andTruth_iff, ih, List.forall_mem_cons]

theorem holds_iff (row : RowView) (f : Formula) :
    row.holds f = some true ↔ ∃ conjunction ∈ f, ∀ p ∈ conjunction, row.truth p = some true := by
  unfold holds
  induction f with
  | nil => simp
  | cons conjunction f ih =>
    rw [List.map_cons, List.foldr_cons, orTruth_iff, ih, conjunction_iff]
    simp only [List.mem_cons, exists_eq_or_imp]

/-- A formula of conditions holds by its conjunction or by an alternative. -/
theorem holds_formula_iff (row : RowView) (c : Conditions) :
    row.holds c.formula = some true ↔
      (∀ clause ∈ c.primary, row.truth clause.predicate = some true) ∨
        ∃ clause ∈ c.alternatives, row.truth clause.predicate = some true := by
  rw [holds_iff, Conditions.formula]
  simp only [List.mem_cons, exists_eq_or_imp, List.mem_map, forall_exists_index, and_imp,
    forall_apply_eq_imp_iff₂, exists_exists_and_eq_and, List.not_mem_nil, or_false, forall_eq]

/-- What is said of a deleted row alone says when a formula holds for none. -/
theorem never_deleted_iff {f : Formula} {alternatives : List Clause}
    (h : ∀ row : RowView, row.isDeleted = true → (row.holds f = some true ↔
      ∃ clause ∈ alternatives, row.truth clause.predicate = some true)) :
    (∀ row : RowView, row.holds f = some true → row.isDeleted = false) ↔
      ∀ row : RowView, row.isDeleted = true →
        ∀ clause ∈ alternatives, row.truth clause.predicate ≠ some true := by
  constructor
  · intro hlive row hrow clause hmem htruth
    have hholds := (h row hrow).mpr ⟨clause, hmem, htruth⟩
    rw [hlive row hholds] at hrow
    cases hrow
  · intro halternatives row hholds
    cases hrow : row.isDeleted with
    | false => rfl
    | true =>
      obtain ⟨clause, hmem, htruth⟩ := (h row hrow).mp hholds
      exact absurd htruth (halternatives row hrow clause hmem)

end RowView

theorem RowView.truth_liveRows (row : RowView) :
    row.truth Model.liveRows = some true ↔ row.isDeleted = false := by
  rw [Model.liveRows, row.truth_isNull, RowView.isDeleted]
  cases row.isNull Model.markerColumn <;> decide

/-- The conditions that ask for one thing more, unless they did before. -/
structure Conditions.Adds (own : Conditions) (p : Predicate) (more : Conditions) : Prop where
  alternatives : more.alternatives = own.alternatives
  primary : more.primary = own.primary ∨
    ∃ connective, more.primary = own.primary ++ [⟨p, connective⟩]
  asks : ∃ clause ∈ more.primary, clause.predicate = p

/-- The conjunction has to hold with what was added, or one of the alternatives. -/
theorem Conditions.Adds.holds_iff {own more : Conditions} {p : Predicate} (h : own.Adds p more)
    (row : RowView) :
    row.holds more.formula = some true ↔
      ((∀ clause ∈ own.primary, row.truth clause.predicate = some true) ∧
        row.truth p = some true) ∨
      ∃ clause ∈ own.alternatives, row.truth clause.predicate = some true := by
  have hprimary : (∀ clause ∈ more.primary, row.truth clause.predicate = some true) ↔
      (∀ clause ∈ own.primary, row.truth clause.predicate = some true) ∧
        row.truth p = some true := by
    obtain ⟨asking, hmem, hasking⟩ := h.asks
    rcases h.primary with hsame | ⟨connective, happend⟩
    · rw [hsame] at hmem ⊢
      exact ⟨fun hall => ⟨hall, hasking ▸ hall asking hmem⟩, And.left⟩
    · rw [happend, List.forall_mem_append, List.forall_mem_singleton]
  rw [RowView.holds_formula_iff, hprimary, h.alternatives]

theorem Predicate.same_liveRows {p : Predicate} (h : p.same Model.liveRows = true) :
    p = Model.liveRows := by
  cases p with
  | compare c op v => cases h
  | between c negated low high => cases h
  | inList c negated vs => cases h
  | isNull c negated =>
    simp only [Predicate.same, Model.liveRows, Bool.and_eq_true, beq_iff_eq] at h
    obtain ⟨rfl, rfl⟩ := h
    rfl

namespace QueryState

theorem alternatives_guardReads (q : QueryState) :
    q.guardReads.conditions.alternatives = q.conditions.alternatives := by
  unfold guardReads
  split <;> rfl

/-- Guarded reads ask for live rows in their conjunction. -/
theorem exists_liveRows (q : QueryState) :
    ∃ clause ∈ q.guardReads.conditions.primary, clause.predicate = Model.liveRows := by
  unfold guardReads
  split
  · next h =>
    obtain ⟨clause, hmem, hsame⟩ := List.any_eq_true.mp h
    exact ⟨clause, hmem, Predicate.same_liveRows hsame⟩
  · exact ⟨_, List.mem_append_right _ (List.mem_singleton_self _), rfl⟩

theorem adds_liveRows (q : QueryState) :
    q.conditions.Adds Model.liveRows q.guardReads.conditions where
  alternatives := q.alternatives_guardReads
  primary := by
    unfold guardReads
    split
    · exact .inl rfl
    · exact .inr ⟨_, rfl⟩
  asks := q.exists_liveRows

/-- Of a deleted row only the alternatives decide. -/
theorem holds_guardReads_iff (q : QueryState) {row : RowView} (hrow : row.isDeleted = true) :
    row.holds q.guardReads.conditions.formula = some true ↔
      ∃ clause ∈ q.conditions.alternatives, row.truth clause.predicate = some true := by
  rw [q.adds_liveRows.holds_iff, row.truth_liveRows, hrow]
  simp

end QueryState

namespace Query

/-- Reached from the query of a model by calls within the vocabulary. -/
def Built (V : Vocabulary) (m : Model) (d : Dialect) (q : Query) : Prop :=
  ∃ q₀, V.table m.table ∧ ofModel d m = .ok q₀ ∧
    Calls.Reaches apply (QueryCall.Within V) q₀ q

/-- Calls on a query are calls on its state. -/
theorem reaches_state {ok : QueryCall → Prop} {a b : Query} (h : Calls.Reaches apply ok a b) :
    b.dialect = a.dialect ∧ b.model = a.model ∧
      Calls.Reaches QueryState.apply ok a.state b.state := by
  induction h with
  | refl a => exact ⟨rfl, rfl, .refl _⟩
  | step hok happly _ ih =>
    obtain ⟨state, hstate, hquery⟩ := ok_of_bind happly
    obtain rfl := Except.ok.inj hquery
    obtain ⟨hdialect, hmodel, hstates⟩ := ih
    exact ⟨hdialect, hmodel, .step hok hstate hstates⟩

theorem Built.spec {V : Vocabulary} {m : Model} {d : Dialect} {q : Query} (h : q.Built V m d) :
    q.dialect = d ∧ q.model = some m ∧ q.state.Built V := by
  obtain ⟨q₀, htable, hstart, hreach⟩ := h
  obtain ⟨state, hstate, hquery⟩ := ok_of_bind hstart
  obtain rfl := Except.ok.inj hquery
  obtain ⟨hdialect, hmodel, hstates⟩ := reaches_state hreach
  exact ⟨hdialect, hmodel, m.table, state, htable, hstate, hstates⟩

/-- The state and the statement that a terminal of a soft-delete model compiles. -/
def guarded (q : Query) (now : DateTime) : Terminal → QueryState × Statement
  | .get => (q.state.guardReads, .select)
  | .first => ({ q.state with limit := some 1 }.guardReads, .select)
  | .count => (q.state.guardReads, .count)
  | .insertMany records _ => (q.state, .insert records)
  | .update data => (q.state.guardReads, .update data)
  | .delete => (q.state.guardReads, .update (Model.deletion now))

theorem filters_guarded (q : Query) (now : DateTime) {t : Terminal}
    (ht : ∀ records validate, t ≠ .insertMany records validate) :
    (q.guarded now t).2.Filters := by
  cases t with
  | insertMany records validate => exact absurd rfl (ht records validate)
  | _ => trivial

theorem closed_guarded (q : Query) (now : DateTime) {t : Terminal}
    (ht : ∀ records validate, t ≠ .insertMany records validate)
    (hpayload : ∀ data, t = .update data → ∀ c ∈ data.columns, Text.Closed c) :
    (q.guarded now t).2.Closed := by
  cases t with
  | update data => exact hpayload data rfl
  | delete =>
    intro c hc
    obtain rfl := List.mem_singleton.mp hc
    show Text.Closed Model.markerColumn
    decide
  | insertMany records validate => exact absurd rfl (ht records validate)
  | _ => trivial

theorem softDelete_of_model {q : Query} {m : Model} (hmodel : q.model = some m)
    (hsoft : m.softDelete = true) : q.softDelete = true := by
  rw [softDelete, hmodel]
  exact hsoft

theorem readState_of_soft {q : Query} (hsoft : q.softDelete = true) :
    q.readState = q.state.guardReads := by
  rw [readState, if_pos hsoft]

/-- Every terminal that touches rows of a soft-delete model compiles a guarded state. -/
theorem compile_guarded {q : Query} (hsoft : q.softDelete = true) {now : DateTime} {t : Terminal}
    (ht : (q.guarded now t).2.Filters) {s : BoundStatement} (hs : q.statement now t = .ok s) :
    (q.guarded now t).1.compile q.dialect (q.guarded now t).2 = .ok s := by
  have hread := readState_of_soft hsoft
  have hmodification : ∀ data, q.modification data = .ok s →
      q.state.guardReads.compile q.dialect (.update data) = .ok s := by
    intro data h
    unfold modification at h
    rw [hread] at h
    cases hmodel : q.model with
    | none =>
      rw [hmodel] at h
      exact h
    | some m =>
      rw [hmodel] at h
      obtain ⟨_, _, h⟩ := ok_of_bind h
      exact h
  cases t with
  | get =>
    change Except.ok q.selection = .ok s at hs
    rw [← hs, selection, hread]
    rfl
  | first =>
    have hlimited : { q with state.limit := some 1 }.readState =
        { q.state with limit := some 1 }.guardReads :=
      readState_of_soft (q := { q with state.limit := some 1 }) hsoft
    change Except.ok { q with state.limit := some 1 }.selection = .ok s at hs
    rw [← hs, selection, hlimited]
    rfl
  | count =>
    change Except.ok (q.readState.compileCount q.dialect) = .ok s at hs
    rw [← hs, hread]
    rfl
  | insertMany records validate => exact ht.elim
  | update data => exact hmodification data hs
  | delete =>
    rw [statement, hsoft] at hs
    exact hmodification (Model.deletion now) hs

/-- The state behind the guard holds the clauses of the query. -/
theorem exists_unguarded {m : Model} {d : Dialect} {q : Query} (hq : q.Built .plain m d)
    {now : DateTime} {t : Terminal} (ht : (q.guarded now t).2.Filters) :
    ∃ r : QueryState, r.Within .plain ∧ r.Linked ∧ r.conditions = q.state.conditions ∧
      (q.guarded now t).1 = r.guardReads := by
  obtain ⟨_, _, hbuilt⟩ := hq.spec
  have hwithin := hbuilt.within
  have hlinked := hbuilt.linked
  cases t with
  | get => exact ⟨q.state, hwithin, hlinked, rfl, rfl⟩
  | first =>
    exact ⟨{ q.state with limit := some 1 }, { hwithin with }, { hlinked with }, rfl, rfl⟩
  | count => exact ⟨q.state, hwithin, hlinked, rfl, rfl⟩
  | insertMany records validate => exact ht.elim
  | update data => exact ⟨q.state, hwithin, hlinked, rfl, rfl⟩
  | delete => exact ⟨q.state, hwithin, hlinked, rfl, rfl⟩

theorem statement_of_asks {α : Type} [Hydrates α] {q : Query} {now : DateTime} {t : Terminal}
    {s : BoundStatement} (h : (q.perform α now t).Asks s) : q.statement now t = .ok s :=
  (perform_follows α q now t).sends_iff.mp h.sends

/-- On a soft-delete model the WHERE part of every read, update and delete reads, in SQL
precedence, as a formula that a deleted row satisfies exactly through an alternative of
the query. Deleted rows are out of reach exactly if no alternative holds for one. -/
theorem deleted_row_reached_iff (α : Type) [Hydrates α] {m : Model} (hsoft : m.softDelete = true)
    {d : Dialect} {q : Query} (hq : q.Built .plain m d) {now : DateTime} {t : Terminal}
    (ht : ∀ records validate, t ≠ .insertMany records validate)
    (hpayload : ∀ data, t = .update data → ∀ c ∈ data.columns, Text.Closed c)
    {s : BoundStatement} (hs : (q.perform α now t).Asks s) :
    ∃ leading trailing text formula,
      (q.guarded now t).1.parts d (q.guarded now t).2 =
        leading ++ (q.guarded now t).1.conditions.parts "WHERE" ++ trailing ∧
      s.sql.toList = d.written 1 (Part.textOf leading) ++ text ++
        d.written ((Part.valuesOf leading).length + 1 +
          (Part.valuesOf ((q.guarded now t).1.conditions.parts "WHERE")).length)
          (Part.textOf trailing) ∧
      Reading.readSection d s.params "WHERE" (Part.valuesOf leading).length text = some formula ∧
      (∀ row : RowView, row.isDeleted = true → (row.holds formula = some true ↔
        ∃ clause ∈ q.state.conditions.alternatives, row.truth clause.predicate = some true)) ∧
      ((∀ row : RowView, row.holds formula = some true → row.isDeleted = false) ↔
        ∀ row : RowView, row.isDeleted = true →
          ∀ clause ∈ q.state.conditions.alternatives, row.truth clause.predicate ≠ some true) := by
  obtain ⟨hdialect, hmodel, _⟩ := hq.spec
  have hsoftQuery := softDelete_of_model hmodel hsoft
  have hfilters := filters_guarded q now ht
  have hclosed := closed_guarded q now ht hpayload
  have hcompile := compile_guarded hsoftQuery hfilters (statement_of_asks hs)
  rw [hdialect] at hcompile
  obtain ⟨r, hwithin, hlinked, hconditions, hguarded⟩ := exists_unguarded hq hfilters
  rw [hguarded] at hcompile ⊢
  have hmarker : Vocabulary.plain.column Model.markerColumn := by
    show Plain (trim Model.markerColumn)
    decide
  have hsome : r.guardReads.conditions.clauses ≠ [] := by
    obtain ⟨clause, hmem, _⟩ := r.exists_liveRows
    exact List.ne_nil_of_mem (List.mem_append_left _ hmem)
  obtain ⟨leading, trailing, text, hparts, htext, hread⟩ :=
    QueryState.readSection_compile (hwithin.guardReads hmarker) hlinked.guardReads hfilters hclosed
      hsome hcompile
  have hreached : ∀ row : RowView, row.isDeleted = true →
      (row.holds r.guardReads.conditions.formula = some true ↔
        ∃ clause ∈ q.state.conditions.alternatives, row.truth clause.predicate = some true) := by
    intro row hrow
    rw [← hconditions]
    exact r.holds_guardReads_iff hrow
  exact ⟨leading, trailing, text, _, hparts, htext, hread, hreached,
    RowView.never_deleted_iff hreached⟩

/-- Notes with `a = 1`, or else with `b = 2`. -/
def eitherNote : Query :=
  ⟨.sqlite, some { table := "notes", softDelete := true },
    ⟨"notes", [], ⟨[⟨.compare "a" .eq (.int 1), none⟩], [⟨.compare "b" .eq (.int 2), some .or⟩]⟩,
      [], [], .empty, [], none, none, []⟩⟩

theorem built_eitherNote :
    eitherNote.Built .plain { table := "notes", softDelete := true } .sqlite := by
  refine ⟨⟨.sqlite, some { table := "notes", softDelete := true },
    ⟨"notes", [], .empty, [], [], .empty, [], none, none, []⟩⟩, ?_, rfl, ?_⟩
  · show Free "notes"
    decide
  · have hfirst : QueryCall.Within .plain (.filter .where_ .and (.equals "a" (.int 1))) := by
      show Plain (trim "a")
      decide
    have hsecond : QueryCall.Within .plain (.filter .where_ .or (.equals "b" (.int 2))) := by
      show Plain (trim "b")
      decide
    exact .step hfirst rfl (.step hsecond rfl (.refl _))

/-- Of the notes that are marked as deleted, the query finds those with `b = 2`. -/
theorem deleted_row_reached_iff_eitherNote :
    ∃ next text formula,
      Reading.readSection .sqlite eitherNote.selection.params "WHERE" next text = some formula ∧
        ∀ row : RowView, row.isDeleted = true → (row.holds formula = some true ↔
          row.truth (.compare "b" .eq (.int 2)) = some true) := by
  have hasks : (eitherNote.perform Row ⟨default, default⟩ .get).Asks eitherNote.selection :=
    asks_get Row eitherNote
  obtain ⟨_, _, text, formula, _, _, hread, hreached, _⟩ :=
    deleted_row_reached_iff Row rfl built_eitherNote (fun _ _ h => by cases h)
      (fun _ h => by cases h) hasks
  refine ⟨_, text, formula, hread, ?_⟩
  intro row hrow
  rw [hreached row hrow]
  constructor
  · rintro ⟨clause, hmem, htruth⟩
    obtain rfl := List.mem_singleton.mp hmem
    exact htruth
  · intro htruth
    exact ⟨_, List.mem_singleton_self _, htruth⟩

/-- A row that is marked as deleted, with `b = 2`. -/
def deletedNote : RowView where
  isNull _ := false
  truth
    | .compare c _ _ => some (c == "b")
    | .between c _ _ _ => some (c == "b")
    | .inList c _ _ => some (c == "b")
    | .isNull _ negated => some negated
  truth_isNull _ negated := by cases negated <;> rfl

/-- An update of these notes writes a row that is marked as deleted. -/
theorem deleted_row_updated :
    (eitherNote.perform Row ⟨default, default⟩ (.update ⟨[("deleted_at", some .null)]⟩)).Asks
        ⟨"UPDATE notes SET deleted_at = ? WHERE a = ? AND deleted_at IS NULL OR b = ?",
          [.null, .int 1, .int 2]⟩ ∧
      ∃ formula, Reading.readSection .sqlite [.null, .int 1, .int 2] "WHERE" 1
          " WHERE a = ? AND deleted_at IS NULL OR b = ?".toList = some formula ∧
        ∃ row : RowView, row.holds formula = some true ∧ row.isDeleted = true := by
  refine ⟨?_, _, rfl, deletedNote, rfl, rfl⟩
  exact perform_follows Row eitherNote ⟨default, default⟩ (.update ⟨[("deleted_at", some .null)]⟩)

end Query

end FluentSql
