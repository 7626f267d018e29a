import FluentSql.Proofs.Migration.Rollback

/-!
# Rollbacks that end with an error

A rollback ends at the first migration that cannot be built or whose statements fail. Those
before it were taken down and are out of the ledger, those behind it are still recorded. The
one where it ends keeps its name too, unless its own statement was what failed: the name is
removed first.
-/

namespace FluentSql

variable {σ : Type} {b : Backend σ}

theorem filter_notMem_nil (names : List String) :
    names.filter (fun name => name ∉ ([] : List String)) = names :=
  List.filter_eq_self.mpr fun name _ => by simp

theorem filter_notMem_append (names gone others : List String) :
    (names.filter fun name => name ∉ gone).filter (fun name => name ∉ others) =
      names.filter fun name => name ∉ gone ++ others := by
  rw [List.filter_filter]
  refine List.filter_congr fun name _ => ?_
  by_cases hgone : name ∈ gone <;> simp [hgone]

namespace Attempt

/-- To remove the name was answered. -/
def removed (a : Attempt σ) : Bool :=
  a.sent[0]?.any Exchange.answered

/-- The name that an attempt takes out of the ledger. -/
def gone (a : Attempt σ) : List String :=
  if a.removed then [a.migration.name] else []

theorem gone_cons (m : Migration) (remove : Exchange σ) (rest : List (Exchange σ)) :
    (mk m (remove :: rest)).gone = if remove.answered then [m.name] else [] := rfl

theorem executed_cons (m : Migration) (first second : Exchange σ) (rest : List (Exchange σ)) :
    (mk m (first :: second :: rest)).executed = second.answered := rfl

/-- What is sent to revert a migration while the ledger holds the names: nothing where it
cannot be built, and its statement only behind a removal that was answered. -/
inductive Reverts {d : Dialect} (table : LedgerTable d b) (recorded : List String) :
    Attempt σ → Prop
  | unbuildable {m : Migration} {e : Error} (hdown : m.down d = .error e) :
      Reverts table recorded ⟨m, []⟩
  | refused {m : Migration} {sql : String} {remove : Exchange σ} (hdown : m.down d = .ok sql)
      (hremove : remove.Asks table recorded Ledger.removal [.string m.name])
      (hstop : remove.answered = false) : Reverts table recorded ⟨m, [remove]⟩
  | removed {m : Migration} {sql : String} {remove run : Exchange σ} (hdown : m.down d = .ok sql)
      (hremove : remove.Asks table recorded Ledger.removal [.string m.name])
      (hgone : remove.answered = true) (hrun : run.Asks table (recorded.erase m.name) sql []) :
      Reverts table recorded ⟨m, [remove, run]⟩

end Attempt

/-- The reversals follow one another, and each but the last was executed. -/
def LedgerTable.Reverted {d : Dialect} (table : LedgerTable d b) :
    List String → List (Attempt σ) → Prop
  | _, [] => True
  | recorded, a :: rest => a.Reverts table recorded ∧ (a.executed = true ∨ rest = []) ∧
      table.Reverted (recorded.filter fun name => name ∉ a.gone) rest

/-- A migration that was taken down was so by its own statement. -/
theorem LedgerTable.Reverted.down_of_executed {d : Dialect} {table : LedgerTable d b}
    {recorded : List String} {attempts : List (Attempt σ)} (h : table.Reverted recorded attempts)
    {a : Attempt σ} (ha : a ∈ attempts) (hdone : a.executed = true) :
    ∃ sql, a.migration.down d = .ok sql ∧
      ∃ e ∈ a.sent, e.statement = d.bound sql [] ∧ e.answered = true := by
  induction attempts generalizing recorded with
  | nil => cases ha
  | cons first rest ih =>
    obtain ⟨hfirst, _, hrest⟩ := h
    rcases List.mem_cons.mp ha with rfl | ha
    · cases hfirst with
      | unbuildable hdown => cases hdone
      | refused hdown hremove hstop => cases hdone
      | removed hdown hremove hgone hrun =>
        exact ⟨_, hdown, _, List.mem_cons_of_mem _ List.mem_cons_self, hrun.statement, hdone⟩
    · exact ih hrest ha

/-- An attempt whose statement did not go through is the last. -/
theorem LedgerTable.Reverted.last_of_not_executed {d : Dialect} {table : LedgerTable d b}
    {recorded : List String} {attempts : List (Attempt σ)} (h : table.Reverted recorded attempts)
    {a : Attempt σ} (ha : a ∈ attempts) (hstop : a.executed = false) :
    attempts.getLast? = some a := by
  induction attempts generalizing recorded with
  | nil => cases ha
  | cons first rest ih =>
    obtain ⟨_, hfirst, hrest⟩ := h
    rcases List.mem_cons.mp ha with rfl | ha
    · rcases hfirst with hdone | rfl
      · rw [hstop] at hdone
        cases hdone
      · rfl
    · have hlast := ih hrest ha
      rw [List.getLast?_cons, hlast]
      rfl

namespace LedgerTable

variable {d : Dialect} (table : LedgerTable d b)

/-- A reversal that ends well executed the statement, and one that fails did not. The name is
gone exactly where its removal was answered. -/
theorem revert_tries {m : Migration} {sql : String} (hdown : m.down d = .ok sql)
    (hspares : table.Spares sql) (s : σ) :
    ∃ sent r s', (Ledger.revert d sql m.name).Yields b s sent r s' ∧
      (Attempt.mk m sent).Reverts table (table.names s) ∧
      ((∃ n, r = .ok n) ↔ (Attempt.mk m sent).executed = true) ∧
      table.names s' = (table.names s).filter fun name => name ∉ (Attempt.mk m sent).gone := by
  rcases hremoval : b.answer (d.bound Ledger.removal [.string m.name]) s with ⟨reply, s₁⟩
  cases reply with
  | error e =>
    have hrefused := Backend.answered_exchange_of_error hremoval
    refine ⟨_, _, s₁, (Session.yields_query hremoval).bind_error,
      .refused hdown ⟨rfl, rfl⟩ hrefused, ?_, ?_⟩
    · constructor
      · rintro ⟨n, hn⟩
        cases hn
      · intro h
        cases h
    · rw [Attempt.gone_cons, hrefused, table.failed hremoval]
      exact (filter_notMem_nil _).symm
  | ok output =>
    have hdone := Backend.answered_exchange_iff.mpr ⟨output, s₁, hremoval⟩
    obtain ⟨hnames₁, _⟩ := table.removed hremoval
    rcases hrun : b.answer (d.bound sql []) s₁ with ⟨reply, s₂⟩
    have hnames₂ : table.names s₂ = (table.names s).filter fun name => name ∉ [m.name] := by
      rw [hspares hrun, hnames₁, ← filter_erase (table.unique s), filter_notMem_nil]
    cases reply with
    | error e =>
      refine ⟨_, _, _, Ledger.revert_of_refused hremoval hrun,
        .removed hdown ⟨rfl, rfl⟩ hdone ⟨rfl, hnames₁⟩, ?_, ?_⟩
      · rw [Attempt.executed_cons, Backend.answered_exchange_of_error hrun]
        constructor
        · rintro ⟨n, hn⟩
          cases hn
        · intro h
          cases h
      · rw [Attempt.gone_cons, hdone, hnames₂]
        rfl
    | ok output₂ =>
      refine ⟨_, _, _, Ledger.revert_of_answered hremoval hrun,
        .removed hdown ⟨rfl, rfl⟩ hdone ⟨rfl, hnames₁⟩, ?_, ?_⟩
      · rw [Attempt.executed_cons, Backend.answered_exchange_iff.mpr ⟨output₂, s₂, hrun⟩]
        exact ⟨fun _ => rfl, fun _ => ⟨_, rfl⟩⟩
      · rw [table.logged, Attempt.gone_cons, hdone, hnames₂]
        rfl

/-- Reading the ledger gives its names or fails, and leaves it alone. -/
theorem names_tries (s : σ) :
    ∃ es r s', (Ledger.names d).Yields b s es r s' ∧
      es.map Exchange.statement <+: [d.bound (Ledger.creation d) [], d.bound Ledger.listing []] ∧
      (∀ recorded, r = .ok recorded → recorded = table.names s) ∧
      table.names s' = table.names s := by
  rcases hcreation : b.answer (d.bound (Ledger.creation d) []) s with ⟨reply, s₁⟩
  have hnames₁ := table.created hcreation
  cases reply with
  | error e =>
    refine ⟨_, _, s₁, (Ledger.ensure_of_refused hcreation).bind_error,
      ⟨[d.bound Ledger.listing []], rfl⟩, ?_, hnames₁⟩
    intro recorded h
    cases h
  | ok output =>
    have hensured := Ledger.ensure_of_answered hcreation
    rcases hlisting : b.answer (d.bound Ledger.listing []) s₁ with ⟨reply, s₂⟩
    cases reply with
    | error e =>
      have hstop : (Ledger.names d).Yields b s [b.exchange (d.bound (Ledger.creation d) []) s,
          b.exchange (d.bound Ledger.listing []) s₁] (.error e) s₂ :=
        hensured.bind (Session.yields_query hlisting).bind_error
      refine ⟨_, _, s₂, hstop, List.prefix_rfl, ?_, ?_⟩
      · intro recorded h
        cases h
      · rw [table.failed hlisting, hnames₁]
    | ok output₂ =>
      obtain ⟨hnames₂, hcolumn⟩ := table.listed hlisting
      have hread := Ledger.names_of_listed hensured hlisting
      rw [hcolumn, hnames₁] at hread
      refine ⟨_, _, s₂, hread, List.prefix_rfl, ?_, ?_⟩
      · intro recorded h
        exact (Except.ok.inj h).symm
      · rw [hnames₂, hnames₁]

/-- To revert a migration is to build its statement first; nothing is sent without one. -/
theorem reversal_tries {m : Migration} (hdowns : ∀ sql, m.down d = .ok sql → table.Spares sql)
    (s : σ) :
    ∃ sent r s', (Session.ofExcept (m.down d) >>= fun sql =>
        Ledger.revert d sql m.name).Yields b s sent r s' ∧
      (Attempt.mk m sent).Reverts table (table.names s) ∧
      ((∃ n, r = .ok n) ↔ (Attempt.mk m sent).executed = true) ∧
      table.names s' = (table.names s).filter fun name => name ∉ (Attempt.mk m sent).gone := by
  cases hdown : m.down d with
  | error e =>
    refine ⟨[], .error e, s, ⟨rfl, rfl⟩, .unbuildable hdown, ?_, (filter_notMem_nil _).symm⟩
    constructor
    · rintro ⟨n, hn⟩
      cases hn
    · intro h
      cases h
  | ok sql => exact table.revert_tries hdown (hdowns sql hdown) s

/-- The recorded ones of some migrations are reverted in turn up to the first that fails. -/
theorem revertEach_tries (recorded : List String) {ms : List Migration}
    (hdowns : ∀ m ∈ ms, ∀ sql, m.down d = .ok sql → table.Spares sql) (count : Nat) (s : σ) :
    ∃ attempts r s', attempts.map Attempt.migration <+: ms.filter (fun m => m.name ∈ recorded) ∧
      (MigrationTarget.revertEach d recorded count ms).Yields b s (attempts.flatMap Attempt.sent)
        r s' ∧
      table.Reverted (table.names s) attempts ∧
      (∀ e, r = .error e → ∃ a, attempts.getLast? = some a ∧ a.executed = false) ∧
      table.names s' =
        (table.names s).filter fun name => name ∉ attempts.flatMap Attempt.gone := by
  induction ms generalizing count s with
  | nil =>
    refine ⟨[], .ok count, s, List.prefix_rfl, Session.yields_pure b count s, trivial, ?_,
      (filter_notMem_nil _).symm⟩
    intro e he
    cases he
  | cons m ms ih =>
    have hrest := ih fun m' hm' => hdowns m' (List.mem_cons_of_mem m hm')
    by_cases hmem : m.name ∈ recorded
    · have hstep : MigrationTarget.revertEach d recorded count (m :: ms) =
          (Session.ofExcept (m.down d) >>= fun sql => Ledger.revert d sql m.name) >>= fun removed =>
            MigrationTarget.revertEach d recorded (if removed then count + 1 else count) ms := by
        rw [MigrationTarget.revertEach, if_pos (by simpa using hmem)]
        cases m.down d <;> rfl
      rw [hstep, List.filter_cons_of_pos (by simpa using hmem)]
      obtain ⟨sent, r, s₁, hrevert, hreverts, hexecuted, hnames₁⟩ :=
        table.reversal_tries (hdowns m List.mem_cons_self) s
      cases r with
      | error e =>
        refine ⟨[⟨m, sent⟩], .error e, s₁, List.prefix_append [m] _, ?_,
          ⟨hreverts, .inr rfl, trivial⟩, ?_, ?_⟩
        · rw [List.flatMap_singleton]
          exact hrevert.bind_error
        · intro _ _
          refine ⟨⟨m, sent⟩, rfl, ?_⟩
          rw [← Bool.not_eq_true, ← hexecuted]
          rintro ⟨n, hn⟩
          cases hn
        · rw [List.flatMap_singleton]
          exact hnames₁
      | ok removed =>
        obtain ⟨attempts, r, s', hprefix, hyields, hreverted, hstop, hnames⟩ :=
          hrest (if removed then count + 1 else count) s₁
        have hdone := hexecuted.mp ⟨removed, rfl⟩
        rw [hnames₁] at hreverted hnames
        refine ⟨⟨m, sent⟩ :: attempts, r, s', List.cons_prefix_cons.mpr ⟨rfl, hprefix⟩,
          hrevert.bind hyields, ⟨hreverts, .inl hdone, hreverted⟩, ?_, ?_⟩
        · intro e he
          obtain ⟨a, hlast, hfailed⟩ := hstop e he
          refine ⟨a, ?_, hfailed⟩
          rw [List.getLast?_cons, hlast]
          rfl
        · rw [hnames, filter_notMem_append, List.flatMap_cons]
    · rw [MigrationTarget.revertEach, if_neg (by simpa using hmem),
        List.filter_cons_of_neg (by simpa using hmem)]
      exact hrest count s

end LedgerTable

variable {t : MigrationTarget}

/-- What a rollback is that ends with an error. -/
structure MigrationTarget.Aborts (t : MigrationTarget) (table : LedgerTable t.dialect b)
    (ms : List Migration) (s : σ) (attempts : List (Attempt σ)) : Prop where
  /-- The recorded ones of the migrations are tried, the last one first, as far as it goes. -/
  migrations : attempts.map Attempt.migration <+:
    (ms.filter fun m => m.name ∈ table.names s).reverse
  /-- Nothing is sent but to read the ledger and what the attempts send. -/
  exchanges : ∃ reading, (t.rollback ms).exchanges b s = reading ++ attempts.flatMap Attempt.sent ∧
    reading.map Exchange.statement <+:
      [t.dialect.bound (Ledger.creation t.dialect) [], t.dialect.bound Ledger.listing []]
  reverted : table.Reverted (table.names s) attempts
  /-- Where the ledger could be read, the last attempt failed. -/
  failed : ∀ a, attempts.getLast? = some a → a.executed = false
  /-- The names that were removed are gone, and the others stay in their order. -/
  names : table.names ((t.rollback ms).run b s).2 =
    (table.names s).filter fun name => name ∉ attempts.flatMap Attempt.gone

theorem LedgerTable.exists_aborts (table : LedgerTable t.dialect b) {ms : List Migration}
    (hdowns : ∀ m ∈ ms, ∀ sql, m.down t.dialect = .ok sql → table.Spares sql) {s : σ} {e : Error}
    (herror : ((t.rollback ms).run b s).1 = .error e) :
    ∃ attempts, t.Aborts table ms s attempts := by
  obtain ⟨es, r, s₁, hread, hreading, hrecorded, hnames₁⟩ := table.names_tries s
  cases r with
  | error e =>
    have hall : (t.rollback ms).Yields b s es (.error e) s₁ := hread.bind_error
    refine ⟨[], List.nil_prefix, ⟨es, ?_, hreading⟩, trivial, ?_, ?_⟩
    · rw [hall.exchanges_eq]
      exact (List.append_nil es).symm
    · intro a ha
      cases ha
    · rw [hall.run_eq, hnames₁]
      exact (filter_notMem_nil _).symm
  | ok recorded =>
    obtain rfl := hrecorded recorded rfl
    obtain ⟨attempts, r, s₂, hprefix, hyields, hreverted, hstop, hnames₂⟩ :=
      table.revertEach_tries (table.names s)
        (fun m hm => hdowns m (List.mem_reverse.mp hm)) 0 s₁
    rw [List.filter_reverse] at hprefix
    rw [hnames₁] at hreverted hnames₂
    cases r with
    | ok count =>
      -- A loop that ends well has only its note left, so there was no error.
      have hall : (t.rollback ms).Yields b s (es ++ (attempts.flatMap Attempt.sent ++ ([] ++ [])))
          (.ok count) _ := hread.bind (hyields.bind ((Session.yields_note b _ _ s₂).bind
            (Session.yields_pure b count _)))
      rw [hall.run_eq] at herror
      cases herror
    | error e =>
      have hall : (t.rollback ms).Yields b s (es ++ attempts.flatMap Attempt.sent) (.error e) s₂ :=
        hread.bind hyields.bind_error
      obtain ⟨last, hlast, hfailed⟩ := hstop e rfl
      refine ⟨attempts, hprefix, ⟨es, hall.exchanges_eq, hreading⟩, hreverted, ?_, ?_⟩
      · intro a ha
        obtain rfl := Option.some.inj (hlast.symm.trans ha)
        exact hfailed
      · rw [hall.run_eq, hnames₂]

/-- Among distinct names, a recorded migration lost its name exactly if an attempt at it
removed the name. -/
theorem MigrationTarget.Aborts.notMem_names_iff {table : LedgerTable t.dialect b}
    {ms : List Migration} {s : σ} {attempts : List (Attempt σ)} (h : t.Aborts table ms s attempts)
    (hdistinct : (ms.map Migration.name).Nodup) {m : Migration} (hm : m ∈ ms)
    (hrecorded : m.name ∈ table.names s) :
    m.name ∉ table.names ((t.rollback ms).run b s).2 ↔
      ∃ a ∈ attempts, a.migration = m ∧ a.removed = true := by
  have hmember : ∀ a ∈ attempts, a.migration ∈ ms := by
    intro a ha
    have hfiltered := h.migrations.subset (List.mem_map_of_mem ha)
    exact (List.mem_filter.mp (List.mem_reverse.mp hfiltered)).1
  have hgone : m.name ∉ table.names ((t.rollback ms).run b s).2 ↔
      m.name ∈ attempts.flatMap Attempt.gone := by
    rw [h.names, List.mem_filter, decide_eq_true_iff, not_and, not_not]
    exact ⟨fun hlost => hlost hrecorded, fun hmem _ => hmem⟩
  rw [hgone, List.mem_flatMap]
  constructor
  · rintro ⟨a, ha, hname⟩
    unfold Attempt.gone at hname
    split at hname
    · next hremoved =>
      have heq := List.inj_on_of_nodup_map hdistinct (hmember a ha) hm
        (List.mem_singleton.mp hname).symm
      exact ⟨a, ha, heq, hremoved⟩
    · cases hname
  · rintro ⟨a, ha, rfl, hremoved⟩
    refine ⟨a, ha, ?_⟩
    rw [Attempt.gone, if_pos hremoved]
    exact List.mem_singleton_self _

/-- Where a rollback ends with an error, a recorded migration that was not taken down keeps
its name, unless it is the one where the rollback ended: its name was removed and then its
statement failed. -/
theorem MigrationTarget.aborted_rollback_keeps_iff (table : LedgerTable t.dialect b)
    {ms : List Migration} (hdistinct : (ms.map Migration.name).Nodup)
    (hdowns : ∀ m ∈ ms, ∀ sql, m.down t.dialect = .ok sql → table.Spares sql) {s : σ} {e : Error}
    (herror : ((t.rollback ms).run b s).1 = .error e) :
    ∃ attempts, t.Aborts table ms s attempts ∧
      ∀ m ∈ ms, m.name ∈ table.names s →
        (∀ a ∈ attempts, a.migration = m → a.executed = false) →
        (m.name ∉ table.names ((t.rollback ms).run b s).2 ↔
          ∃ a, attempts.getLast? = some a ∧ a.migration = m ∧ a.removed = true) := by
  obtain ⟨attempts, haborts⟩ := table.exists_aborts hdowns herror
  refine ⟨attempts, haborts, ?_⟩
  intro m hm hrecorded hstanding
  rw [haborts.notMem_names_iff hdistinct hm hrecorded]
  constructor
  · rintro ⟨a, ha, heq, hremoved⟩
    exact ⟨a, haborts.reverted.last_of_not_executed ha (hstanding a ha heq), heq, hremoved⟩
  · rintro ⟨a, hlast, heq, hremoved⟩
    exact ⟨a, List.mem_of_getLast? hlast, heq, hremoved⟩

namespace Store

/-- Refuses to drop `posts`. -/
def refusesDrop (statement : BoundStatement) : Bool :=
  statement.sql == "DROP TABLE posts"

/-- A ledger with the names of `tableMigrations`. -/
def fullStore : Store := ⟨["users", "posts", "notes"], by decide⟩

theorem spares_downs : ∀ m ∈ tableMigrations, ∀ sql, m.down .sqlite = .ok sql →
    (ledgerTable refusesDrop).Spares sql :=
  fun _ _ sql _ => spares refusesDrop sql

/-- Where `posts` cannot be dropped, it is what the rollback ends with, and its name is gone. -/
theorem aborted_rollback_keeps_iff_fullStore :
    ∃ attempts, target.Aborts (ledgerTable refusesDrop) tableMigrations fullStore attempts ∧
      ∃ a, attempts.getLast? = some a ∧ a.migration = tableMigration "posts" ∧
        a.removed = true := by
  have hdistinct : (tableMigrations.map Migration.name).Nodup := by decide
  obtain ⟨attempts, haborts, hkeeps⟩ := MigrationTarget.aborted_rollback_keeps_iff (t := target)
    (ledgerTable refusesDrop) hdistinct spares_downs (s := fullStore) (e := .driver "refused") rfl
  have hposts : tableMigration "posts" ∈ tableMigrations := by
    simp [tableMigrations]
  have hrefused : ∀ e ∈ (target.rollback tableMigrations).exchanges (backend refusesDrop) fullStore,
      e.statement.sql = "DROP TABLE posts" → e.answered = false := by decide
  have hstanding : ∀ a ∈ attempts, a.migration = tableMigration "posts" → a.executed = false := by
    intro a ha heq
    rw [← Bool.not_eq_true]
    intro hdone
    obtain ⟨sql, hdown, e, he, hstatement, hanswered⟩ := haborts.reverted.down_of_executed ha hdone
    rw [heq] at hdown
    obtain rfl := Except.ok.inj hdown
    obtain ⟨reading, hexchanges, _⟩ := haborts.exchanges
    have hsent : e ∈ (target.rollback tableMigrations).exchanges (backend refusesDrop)
        fullStore := by
      rw [hexchanges]
      exact List.mem_append_right reading (List.mem_flatMap.mpr ⟨a, ha, he⟩)
    have hsql : e.statement.sql = "DROP TABLE posts" := by
      rw [hstatement]
      rfl
    rw [hrefused e hsent hsql] at hanswered
    cases hanswered
  exact ⟨attempts, haborts, (hkeeps _ hposts (by decide) hstanding).mp (by decide)⟩

/-- The name `posts` is taken out of the ledger although the table could not be dropped. -/
theorem rollback_loses_name :
    (tableMigrations.map Migration.name).Nodup ∧
      (∀ m ∈ tableMigrations, ∀ sql, m.down .sqlite = .ok sql →
        (ledgerTable refusesDrop).Spares sql) ∧
      ((target.rollback tableMigrations).run (backend refusesDrop) fullStore).1 =
        .error (.driver "refused") ∧
      "posts" ∈ (ledgerTable refusesDrop).names fullStore ∧
      (∀ e ∈ (target.rollback tableMigrations).exchanges (backend refusesDrop) fullStore,
        e.statement.sql = "DROP TABLE posts" → e.answered = false) ∧
      "posts" ∉ (ledgerTable refusesDrop).names
        ((target.rollback tableMigrations).run (backend refusesDrop) fullStore).2 :=
  ⟨by decide, spares_downs, rfl, by decide, by decide, by decide⟩

end Store

end FluentSql
