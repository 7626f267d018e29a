import Mathlib.Data.List.Nodup
import FluentSql.Proofs.Migration.Migrate

/-!
# Rolling migrations back

A rollback reads the ledger once and reverts those of its migrations that it found there,
the last one first. Behind a run on a ledger without their names it takes out what the run
added, and takes down what the run put up.
-/

namespace FluentSql

variable {σ : Type} {b : Backend σ}

/-- The statements that revert a migration: its name is removed, then it is taken down. -/
def Migration.reversal (m : Migration) (d : Dialect) : List BoundStatement :=
  match m.down d with
  | .ok sql => [d.bound Ledger.removal [.string m.name], d.bound sql []]
  | .error _ => []

/-- To take out a name and then others is to keep what is none of them. -/
theorem filter_erase {names : List String} (h : names.Nodup) (name : String)
    (others : List String) :
    (names.erase name).filter (fun x => x ∉ others) =
      names.filter (fun x => x ∉ name :: others) := by
  rw [h.erase_eq_filter, List.filter_filter]
  refine List.filter_congr fun x _ => ?_
  by_cases hx : x = name <;> simp [hx]

namespace LedgerTable

variable {d : Dialect} (table : LedgerTable d b) {s : σ}

/-- A reversal that is answered removes the name and tells whether it was there. -/
theorem revert_yields {sql name : String} (hspares : table.Spares sql)
    (h : (Ledger.revert d sql name).AllAnswered b s) :
    ∃ es s', (Ledger.revert d sql name).Yields b s es (.ok (decide (name ∈ table.names s))) s' ∧
      es.map Exchange.statement = [d.bound Ledger.removal [.string name], d.bound sql []] ∧
      table.names s' = (table.names s).erase name := by
  obtain ⟨removed, s₁, hremoval⟩ := (Session.allAnswered_of_bind h).query
  obtain ⟨hnames₁, htrue⟩ := table.removed hremoval
  have hrest := Session.allAnswered_bind (Session.yields_query hremoval) h
  obtain ⟨output, s₂, hdown⟩ := (Session.allAnswered_of_bind hrest).query
  have hresult : decide (name ∈ table.names s) = removed.toBool :=
    Bool.eq_iff_iff.mpr (decide_eq_true_iff.trans htrue.symm)
  rw [hresult]
  refine ⟨_, _, Ledger.revert_of_answered hremoval hdown, rfl, ?_⟩
  rw [table.logged, hspares hdown, hnames₁]

/-- Names that are read with success are those of the table. -/
theorem names_yields (h : (Ledger.names d).AllAnswered b s) :
    ∃ es s', (Ledger.names d).Yields b s es (.ok (table.names s)) s' ∧
      es.map Exchange.statement =
        [d.bound (Ledger.creation d) [], d.bound Ledger.listing []] ∧
      table.names s' = table.names s := by
  have hcreated : (b.exchange (d.bound (Ledger.creation d) []) s).answered = true :=
    h _ List.mem_cons_self
  obtain ⟨s₁, hensured, hnames₁⟩ := table.ensure_yields hcreated
  have hrest := Session.allAnswered_bind hensured h
  obtain ⟨output, s₂, hlisting⟩ := (Session.allAnswered_of_bind hrest).query
  obtain ⟨hnames₂, hcolumn⟩ := table.listed hlisting
  have hread := Ledger.names_of_listed hensured hlisting
  rw [hcolumn, hnames₁] at hread
  exact ⟨_, s₂, hread, rfl, hnames₂.trans hnames₁⟩

/-- The recorded ones of some migrations are reverted in turn, and nothing else is sent. -/
theorem revertEach_yields {recorded : List String} {ms : List Migration}
    (hdistinct : (ms.map Migration.name).Nodup)
    (hdowns : ∀ m ∈ ms, ∃ sql, m.down d = .ok sql ∧ table.Spares sql)
    (hrecorded : ∀ m ∈ ms, m.name ∈ recorded ↔ m.name ∈ table.names s) {count : Nat}
    (h : (MigrationTarget.revertEach d recorded count ms).AllAnswered b s) :
    ∃ es s' reverted, reverted = ms.filter (fun m => m.name ∈ recorded) ∧
      (MigrationTarget.revertEach d recorded count ms).Yields b s es
        (.ok (count + reverted.length)) s' ∧
      es.map Exchange.statement = reverted.flatMap (fun m => m.reversal d) ∧
      table.names s' = (table.names s).filter (fun name => name ∉ reverted.map Migration.name) ∧
      (table.names s).length = (table.names s').length + reverted.length := by
  induction ms generalizing count s with
  | nil =>
    refine ⟨[], s, [], rfl, Session.yields_pure b count s, rfl, ?_, rfl⟩
    simp
  | cons m ms ih =>
    obtain ⟨hfirst, hdistinct⟩ := List.nodup_cons.mp hdistinct
    have hdowns' := fun m' hm' => hdowns m' (List.mem_cons_of_mem m hm')
    have hrecorded' := fun m' hm' => hrecorded m' (List.mem_cons_of_mem m hm')
    rw [MigrationTarget.revertEach] at h ⊢
    by_cases hmem : m.name ∈ recorded
    · rw [if_pos (by simpa using hmem)] at h ⊢
      obtain ⟨sql, hdown, hspares⟩ := hdowns m List.mem_cons_self
      rw [hdown] at h ⊢
      obtain ⟨es, s₁, hrevert, hstatements, hnames₁⟩ :=
        table.revert_yields hspares (Session.allAnswered_of_bind h)
      have hheld : m.name ∈ table.names s := (hrecorded m List.mem_cons_self).mp hmem
      rw [decide_eq_true hheld] at hrevert
      have hrest := Session.allAnswered_bind hrevert h
      -- The other names are still there, so the snapshot holds for the rest.
      have hrecorded₁ : ∀ m' ∈ ms, m'.name ∈ recorded ↔ m'.name ∈ table.names s₁ := by
        intro m' hm'
        have hne : m'.name ≠ m.name := fun heq => hfirst (heq ▸ List.mem_map_of_mem hm')
        rw [hrecorded' m' hm', hnames₁, List.mem_erase_of_ne hne]
      obtain ⟨es', s', reverted, hreverted, hyields, hstatements', hnames', hlength⟩ :=
        ih hdistinct hdowns' hrecorded₁ hrest
      refine ⟨es ++ es', s', m :: reverted, ?_, ?_, ?_, ?_, ?_⟩
      · rw [List.filter_cons_of_pos (by simpa using hmem), hreverted]
      · have hcount : count + (m :: reverted).length = count + 1 + reverted.length := by
          rw [List.length_cons, Nat.add_assoc, Nat.add_comm 1]
        rw [hcount]
        exact hrevert.bind hyields
      · rw [List.map_append, hstatements, hstatements', List.flatMap_cons, Migration.reversal,
          hdown]
      · rw [hnames', hnames₁, filter_erase (table.unique s)]
        rfl
      · have herase := List.length_erase_of_mem hheld
        have hpos := List.length_pos_of_mem hheld
        rw [hnames₁] at hlength
        rw [List.length_cons]
        omega
    · rw [if_neg (by simpa using hmem)] at h ⊢
      obtain ⟨es, s', reverted, hreverted, hrest⟩ := ih hdistinct hdowns' hrecorded' h
      rw [List.filter_cons_of_neg (by simpa using hmem)]
      exact ⟨es, s', reverted, hreverted, hrest⟩

end LedgerTable

variable {t : MigrationTarget}

/-- What a rollback is that reverts some of its migrations. -/
structure MigrationTarget.RollsBack (t : MigrationTarget) (table : LedgerTable t.dialect b)
    (ms reverted : List Migration) (s : σ) : Prop where
  /-- The ledger is read, then the last migration is reverted first. -/
  statements : ((t.rollback ms).exchanges b s).map Exchange.statement =
    t.dialect.bound (Ledger.creation t.dialect) [] :: t.dialect.bound Ledger.listing [] ::
      reverted.reverse.flatMap fun m => m.reversal t.dialect
  /-- Only their names are removed; the others stay in their order. -/
  names : table.names ((t.rollback ms).run b s).2 =
    (table.names s).filter fun name => name ∉ reverted.map Migration.name
  result : ((t.rollback ms).run b s).1 = .ok reverted.length
  /-- The result counts the names that are gone. -/
  removed : (table.names s).length =
    (table.names ((t.rollback ms).run b s).2).length + reverted.length

namespace LedgerTable

/-- A rollback that is answered reverts the recorded ones of its migrations. -/
theorem rollsBack_recorded (table : LedgerTable t.dialect b) {ms : List Migration}
    (hdistinct : (ms.map Migration.name).Nodup)
    (hdowns : ∀ m ∈ ms, ∃ sql, m.down t.dialect = .ok sql ∧ table.Spares sql) {s : σ}
    (h : (t.rollback ms).AllAnswered b s) :
    t.RollsBack table ms (ms.filter fun m => m.name ∈ table.names s) s := by
  obtain ⟨es, s₁, hread, hstatements, hnames₁⟩ :=
    table.names_yields (Session.allAnswered_of_bind h)
  have hrest := Session.allAnswered_bind hread h
  have hdistinct' : (ms.reverse.map Migration.name).Nodup := by
    rw [List.map_reverse]
    exact List.nodup_reverse.mpr hdistinct
  have hdowns' := fun m hm => hdowns m (List.mem_reverse.mp hm)
  have hrecorded : ∀ m ∈ ms.reverse, m.name ∈ table.names s ↔ m.name ∈ table.names s₁ := by
    rw [hnames₁]
    exact fun _ _ => Iff.rfl
  obtain ⟨es', s₂, reverted, hreverted, hyields, hstatements', hnames₂, hlength⟩ :=
    table.revertEach_yields hdistinct' hdowns' hrecorded (Session.allAnswered_of_bind hrest)
  rw [List.filter_reverse] at hreverted
  have hall : (t.rollback ms).Yields b s (es ++ (es' ++ ([] ++ []))) (.ok reverted.length)
      (b.note ⟨.info, "Rolled back successfully."⟩ s₂) := by
    rw [Nat.zero_add] at hyields
    exact hread.bind (hyields.bind ((Session.yields_note b _ _ s₂).bind
      (Session.yields_pure b _ _)))
  rw [hnames₁] at hnames₂ hlength
  subst hreverted
  rw [List.map_reverse] at hnames₂
  rw [List.length_reverse] at hall hlength
  refine ⟨?_, ?_, ?_, ?_⟩
  · rw [hall.exchanges_eq, List.map_append, List.map_append, hstatements, hstatements']
    simp only [List.map_nil, List.append_nil]
    rfl
  · rw [hall.run_eq]
    refine ((table.logged _ s₂).trans hnames₂).trans (List.filter_congr fun name _ => ?_)
    simp only [List.mem_reverse]
  · rw [hall.run_eq]
  · rw [hall.run_eq, hlength, ← table.logged ⟨.info, "Rolled back successfully."⟩ s₂]

end LedgerTable

namespace Attempt

theorem flatMap_names (attempts : List (Attempt σ)) :
    attempts.flatMap names = ((attempts.filter added).map migration).map Migration.name := by
  induction attempts with
  | nil => rfl
  | cons a rest ih =>
    rw [List.flatMap_cons, ih, names, List.filter_cons]
    cases a.added <;> rfl

/-- Among distinct names an attempt's own name is added only by itself. -/
theorem mem_flatMap_names {attempts : List (Attempt σ)}
    (hdistinct : ((attempts.map migration).map Migration.name).Nodup) {a : Attempt σ}
    (ha : a ∈ attempts) : a.migration.name ∈ attempts.flatMap names ↔ a.added = true := by
  constructor
  · intro hmem
    obtain ⟨a', ha', hname⟩ := List.mem_flatMap.mp hmem
    unfold names at hname
    split at hname
    · next hadded =>
      rw [List.map_map] at hdistinct
      have heq := List.inj_on_of_nodup_map hdistinct ha ha' (List.mem_singleton.mp hname)
      rw [heq]
      exact hadded
    · cases hname
  · intro hadded
    refine List.mem_flatMap.mpr ⟨a, ha, ?_⟩
    rw [names, if_pos hadded]
    exact List.mem_singleton_self _

/-- Where only the statement of a migration may fail, it decides whether a new name is
added. -/
theorem Follows.executed_eq_added {d : Dialect} {table : LedgerTable d b}
    {recorded : List String} {a : Attempt σ} (h : a.Follows table recorded)
    (hnew : a.migration.name ∉ recorded)
    (hanswered : ∀ e ∈ a.sent, e.answered = true ∨ e.statement.params = []) :
    a.executed = a.added := by
  have hnamed : ∀ {e : Exchange σ} {sql name : String}, e ∈ a.sent →
      e.Asks table recorded sql [.string name] → e.answered = true := by
    intro e sql name he hasks
    rcases hanswered e he with hdone | hparams
    · exact hdone
    · rw [hasks.statement] at hparams
      cases hparams
  cases h with
  | unbuildable hup => rfl
  | sought hup hlook hstop =>
    rcases hstop with hstop | hmem
    · rw [hnamed List.mem_cons_self hlook] at hstop
      cases hstop
    · exact absurd hmem hnew
  | refused hup hlook hfound hnew hrun hstop => exact hstop
  | executed hup hlook hfound hnew hrun hdone hrecord =>
    rw [added_eq _ hfound hdone, hnamed (by simp) hrecord]
    exact hdone

end Attempt

/-- On a ledger with none of the names, only what was executed is added. -/
theorem LedgerTable.Ran.executed_eq_added {d : Dialect} {table : LedgerTable d b}
    {recorded : List String} {attempts : List (Attempt σ)} (h : table.Ran recorded attempts)
    (hdistinct : ((attempts.map Attempt.migration).map Migration.name).Nodup)
    (hnew : ∀ a ∈ attempts, a.migration.name ∉ recorded)
    (hanswered : ∀ a ∈ attempts, ∀ e ∈ a.sent, e.answered = true ∨ e.statement.params = []) :
    ∀ a ∈ attempts, a.executed = a.added := by
  induction attempts generalizing recorded with
  | nil =>
    intro a ha
    cases ha
  | cons first rest ih =>
    obtain ⟨hfirst, hrest⟩ := h
    obtain ⟨hother, hdistinct⟩ := List.nodup_cons.mp hdistinct
    have hnew' : ∀ a ∈ rest, a.migration.name ∉ recorded ++ first.names := by
      intro a ha hmem
      rcases List.mem_append.mp hmem with hmem | hmem
      · exact hnew a (List.mem_cons_of_mem first ha) hmem
      · unfold Attempt.names at hmem
        split at hmem
        · apply hother
          rw [← List.mem_singleton.mp hmem, List.map_map]
          exact List.mem_map_of_mem ha
        · cases hmem
    intro a ha
    rcases List.mem_cons.mp ha with rfl | ha
    · exact hfirst.executed_eq_added (hnew a List.mem_cons_self) (hanswered a List.mem_cons_self)
    · exact ih hrest hdistinct hnew' (fun a ha => hanswered a (List.mem_cons_of_mem first ha)) a ha

/-- In a run of the migrations the ledger is created, and no statement but theirs fails. -/
structure MigrationTarget.OnlyUpsFail (t : MigrationTarget) (b : Backend σ) (ms : List Migration)
    (s : σ) : Prop where
  created : (b.exchange (t.dialect.bound (Ledger.creation t.dialect) []) s).answered = true
  answered : ∀ e ∈ (t.migrate ms).exchanges b s, e.answered = true ∨
    ∃ m ∈ ms, ∃ sql, m.up t.dialect = .ok sql ∧ e.statement = t.dialect.bound sql []

namespace MigrationTarget.Migrates

variable {table : LedgerTable t.dialect b} {ms : List Migration} {s : σ}
  {attempts : List (Attempt σ)}

/-- Behind a run on a ledger without their names, those that were executed are recorded. -/
theorem recorded_eq_executed (h : t.Migrates table ms s attempts)
    (hdistinct : (ms.map Migration.name).Nodup) (hnew : ∀ m ∈ ms, m.name ∉ table.names s)
    (hfails : t.OnlyUpsFail b ms s) :
    (attempts.filter Attempt.executed).map Attempt.migration =
        (ms.filter fun m => m.name ∈ table.names ((t.migrate ms).run b s).2) ∧
      ((attempts.filter Attempt.executed).map Attempt.migration).map Migration.name =
        attempts.flatMap Attempt.names := by
  have hms := h.migrations
  subst hms
  have hnew' : ∀ a ∈ attempts, a.migration.name ∉ table.names s :=
    fun a ha => hnew a.migration (List.mem_map_of_mem ha)
  have hanswered : ∀ a ∈ attempts, ∀ e ∈ a.sent, e.answered = true ∨ e.statement.params = [] := by
    intro a ha e he
    have hsent : e ∈ (t.migrate (attempts.map Attempt.migration)).exchanges b s := by
      rw [h.exchanges]
      exact List.mem_cons_of_mem _ (List.mem_flatMap.mpr ⟨a, ha, he⟩)
    rcases hfails.answered e hsent with hdone | ⟨m, _, sql, _, hup⟩
    · exact .inl hdone
    · exact .inr (congrArg BoundStatement.params hup)
  have hexecuted := h.ran.executed_eq_added hdistinct hnew' hanswered
  have hfilter : attempts.filter Attempt.executed = attempts.filter Attempt.added :=
    List.filter_congr hexecuted
  refine ⟨?_, ?_⟩
  · rw [h.names, List.filter_map, hfilter]
    congr 1
    refine List.filter_congr fun a ha => ?_
    have hmem := Attempt.mem_flatMap_names hdistinct ha
    rw [← Bool.coe_iff_coe, ← hmem]
    simp [hnew' a ha]
  · rw [hfilter, Attempt.flatMap_names]

end MigrationTarget.Migrates

/-- A rollback reverts exactly the recorded ones of its migrations, and behind a run on a
ledger without their names it restores the ledger and takes down what went up. -/
theorem MigrationTarget.rollback_undoes_migrate (table : LedgerTable t.dialect b)
    {ms : List Migration} (hdistinct : (ms.map Migration.name).Nodup)
    (hdowns : ∀ m ∈ ms, ∃ sql, m.down t.dialect = .ok sql ∧ table.Spares sql) :
    (∀ s, (t.rollback ms).AllAnswered b s →
      t.RollsBack table ms (ms.filter fun m => m.name ∈ table.names s) s) ∧
    ((∀ m ∈ ms, ∀ sql, m.up t.dialect = .ok sql →
        StatementKind.classify sql = .ddl ∧ table.Spares sql) →
      ∀ s, (∀ m ∈ ms, m.name ∉ table.names s) → t.OnlyUpsFail b ms s →
        (t.rollback ms).AllAnswered b ((t.migrate ms).run b s).2 →
        ∃ attempts, t.Migrates table ms s attempts ∧
          t.RollsBack table ms ((attempts.filter Attempt.executed).map Attempt.migration)
            ((t.migrate ms).run b s).2 ∧
          table.names ((t.rollback ms).run b ((t.migrate ms).run b s).2).2 = table.names s) := by
  refine ⟨fun s h => table.rollsBack_recorded hdistinct hdowns h, ?_⟩
  intro hups s hnew hfails hanswered
  obtain ⟨attempts, hmigrates⟩ := table.exists_migrates hups hfails.created
  obtain ⟨hrecorded, hadded⟩ := hmigrates.recorded_eq_executed hdistinct hnew hfails
  have hback := table.rollsBack_recorded hdistinct hdowns hanswered
  rw [← hrecorded] at hback
  refine ⟨attempts, hmigrates, hback, ?_⟩
  -- What the run added has names of the migrations, so it is none of what was there.
  have hold : ∀ name ∈ table.names s, name ∉ attempts.flatMap Attempt.names := by
    intro name hname hmem
    rw [← hadded, hrecorded] at hmem
    obtain ⟨m, hm, rfl⟩ := List.mem_map.mp hmem
    exact hnew m (List.mem_of_mem_filter hm) hname
  have hkept : (table.names s).filter (fun name => name ∉ attempts.flatMap Attempt.names) =
      table.names s :=
    List.filter_eq_self.mpr fun name hname => decide_eq_true (hold name hname)
  have hgone : (attempts.flatMap Attempt.names).filter
      (fun name => name ∉ attempts.flatMap Attempt.names) = [] :=
    List.filter_eq_nil_iff.mpr fun name hname => by simpa using hname
  rw [hback.names, hadded, hmigrates.names, List.filter_append, hkept, hgone, List.append_nil]

namespace Store

/-- Tables of which `users` is refused. -/
def tableMigrations : List Migration :=
  [tableMigration "users", tableMigration "posts", tableMigration "notes"]

/-- Of these migrations only the table `users` is refused. -/
theorem onlyUpsFail_tagStore :
    target.OnlyUpsFail (backend refusesSome) tableMigrations tagStore where
  created := rfl
  answered := by
    have hall : ∀ e ∈ (target.migrate tableMigrations).exchanges (backend refusesSome) tagStore,
        e.answered = true ∨ e.statement.sql = "CREATE TABLE users (id INTEGER)" ∧
          e.statement.params.isEmpty = true := by
      decide
    intro e he
    rcases hall e he with hdone | ⟨hsql, hparams⟩
    · exact .inl hdone
    · refine .inr ⟨tableMigration "users", List.mem_cons_self, _, rfl, ?_⟩
      obtain ⟨⟨sql, params⟩, before, reply⟩ := e
      obtain rfl : sql = "CREATE TABLE users (id INTEGER)" := hsql
      obtain rfl : params = [] := List.isEmpty_iff.mp hparams
      rfl

/-- Where `posts` is recorded it is reverted, and where only `tags` is, a run of the
migrations is undone. -/
theorem rollback_undoes_migrate_tagStore :
    target.RollsBack (ledgerTable refusesSome) tableMigrations [tableMigration "posts"]
        ⟨["posts", "tags"], by decide⟩ ∧
      ∃ attempts, target.Migrates (ledgerTable refusesSome) tableMigrations tagStore attempts ∧
        target.RollsBack (ledgerTable refusesSome) tableMigrations
          ((attempts.filter Attempt.executed).map Attempt.migration)
          ⟨["tags", "posts", "notes"], by decide⟩ := by
  have hdistinct : (tableMigrations.map Migration.name).Nodup := by decide
  have hdowns : ∀ m ∈ tableMigrations, ∃ sql, m.down .sqlite = .ok sql ∧
      (ledgerTable refusesSome).Spares sql := by
    intro m hm
    simp only [tableMigrations, List.mem_cons, List.not_mem_nil, or_false] at hm
    rcases hm with rfl | rfl | rfl <;> exact ⟨_, rfl, spares refusesSome _⟩
  have hms : ∀ m ∈ tableMigrations, m = tableMigration m.name ∨ m = blankMigration := by
    simp [tableMigrations, tableMigration]
  have hnew : ∀ m ∈ tableMigrations, m.name ∉ tagStore.names := by decide
  obtain ⟨hreverts, hundoes⟩ := MigrationTarget.rollback_undoes_migrate (t := target)
    (ledgerTable refusesSome) hdistinct hdowns
  refine ⟨hreverts ⟨["posts", "tags"], by decide⟩ ?_, ?_⟩
  · show ∀ e ∈ _, Exchange.answered e = true
    decide
  · have hanswered : (target.rollback tableMigrations).AllAnswered (backend refusesSome)
        ((target.migrate tableMigrations).run (backend refusesSome) tagStore).2 := by
      show ∀ e ∈ _, Exchange.answered e = true
      decide
    obtain ⟨attempts, hmigrates, hback, _⟩ :=
      hundoes (keeps_of_tables hms) tagStore hnew onlyUpsFail_tagStore hanswered
    exact ⟨attempts, hmigrates, hback⟩

end Store

end FluentSql
