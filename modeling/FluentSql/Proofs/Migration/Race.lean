import Mathlib.Data.List.Nodup
import FluentSql.Proofs.Migration.Table
import FluentSql.Proofs.Session.Interleaving

/-!
# Applications at the same time

To apply a migration takes three statements, and those of other clients may come between them,
so several clients can all find a name missing and run its statement. What they agree on rests
on the column of the names alone, which refuses a name that is there: of the INSERTs of one name
at most one is answered, and only the client that has this answer says that it applied the
migration.
-/

namespace FluentSql

variable {ι σ : Type} {d : Dialect} {server : Server σ}

/-- The names that a database records for its clients, in a column that does not take a name
twice. A look-up may find what it will. -/
structure SharedLedger (d : Dialect) (server : Server σ) where
  names : σ → List String
  /-- A statement that fails has no effect. -/
  failed : ∀ {statement s e s'}, server statement s (.error e) s' → names s' = names s
  lookedUp : ∀ {name s output s'},
    server (d.bound Ledger.lookup [.string name]) s (.ok output) s' → names s' = names s
  refused : ∀ {name s output s'}, name ∈ names s →
    ¬server (d.bound Ledger.insertion [.string name]) s (.ok output) s'
  inserted : ∀ {name s output s'}, name ∉ names s →
    server (d.bound Ledger.insertion [.string name]) s (.ok output) s' →
      names s' = names s ++ [name]

/-- A call that applies a migration. -/
structure Application where
  name : String
  sql : String

/-- Clients of which each has its call before it. -/
def Crowd.applying (d : Dialect) (calls : ι → Application) (s : σ) : Crowd ι σ Bool :=
  ⟨fun i => Ledger.apply d (calls i).sql (calls i).name, s⟩

/-- The call of the client came back and said that it applied its migration. -/
def Crowd.Applied (c : Crowd ι σ Bool) (i : ι) : Prop :=
  c.sessions i = .done (.ok true)

namespace SharedLedger

variable (ledger : SharedLedger d server)

/-- No answer to the statement changes the names. -/
def Keeps (statement : BoundStatement) : Prop :=
  ∀ {s reply s'}, server statement s reply s' → ledger.names s' = ledger.names s

/-- The statement of a migration leaves the names alone. -/
def Spares (sql : String) : Prop :=
  ledger.Keeps (d.bound sql [])

theorem keeps_lookup (name : String) : ledger.Keeps (d.bound Ledger.lookup [.string name]) := by
  intro s reply s' hanswer
  cases reply with
  | error e => exact ledger.failed hanswer
  | ok output => exact ledger.lookedUp hanswer

/-- A session that says that it applied the migration only behind an INSERT of the name that was
answered; until then it sends nothing that changes the names. -/
inductive Records (name : String) : Session Bool → Prop
  | done {result : Except Error Bool} (h : result ≠ .ok true) : Records name (.done result)
  | log {entry : LogEntry} {next : Session Bool} (h : Records name next) :
      Records name (.log entry next)
  | keep {statement : BoundStatement} {next : Except Error Output → Session Bool}
      (hkeeps : ledger.Keeps statement) (hnext : ∀ reply, Records name (next reply)) :
      Records name (.send statement next)
  | insert {next : Except Error Output → Session Bool}
      (hfailed : ∀ e, Records name (next (.error e)))
      (hanswered : ∀ output, (next (.ok output)).Quiet) :
      Records name (.send (d.bound Ledger.insertion [.string name]) next)

theorem records_record (name : String) : ledger.Records name (Ledger.record d name) := by
  refine .insert (fun e => .done nofun) fun output => ?_
  show (if output.insertId?.isNone then _ else _ : Session Bool).Quiet
  split
  · exact .log (.done _)
  · exact .log (.done _)

theorem records_apply {sql : String} (hspares : ledger.Spares sql) (name : String) :
    ledger.Records name (Ledger.apply d sql name) := by
  refine .keep (ledger.keeps_lookup name) fun reply => ?_
  cases reply with
  | error e => exact .done nofun
  | ok found =>
    show ledger.Records name (if !found.toRows.isEmpty then _ else _ : Session Bool)
    split
    · exact .done nofun
    · refine .keep hspares fun reply => ?_
      cases reply with
      | error e => exact .done nofun
      | ok output =>
        show ledger.Records name (if output.toBool then _ else _ : Session Bool)
        split
        · exact ledger.records_record name
        · exact .log (.done nofun)

/-- The winners are those whose INSERT was answered, in this order. They send nothing more, and
all others have still to record their names. -/
structure WonBy (calls : ι → Application) (start : List String) (winners : List ι)
    (c : Crowd ι σ Bool) : Prop where
  names : ledger.names c.state = start ++ winners.map fun i => (calls i).name
  unique : (ledger.names c.state).Nodup
  quiet : ∀ i ∈ winners, (c.sessions i).Quiet
  records : ∀ i ∉ winners, ledger.Records (calls i).name (c.sessions i)

namespace WonBy

variable {ledger} {calls : ι → Application} {start : List String} {winners : List ι}
  {c c' : Crowd ι σ Bool}

/-- Only a winner says that it applied its migration. -/
theorem mem_of_applied (h : ledger.WonBy calls start winners c) {i : ι} (happlied : c.Applied i) :
    i ∈ winners := by
  by_contra hother
  have hrecords := h.records i hother
  rw [happlied] at hrecords
  cases hrecords with
  | done hfalse => exact hfalse rfl

theorem names_nodup (h : ledger.WonBy calls start winners c) :
    (start ++ winners.map fun i => (calls i).name).Nodup :=
  h.names ▸ h.unique

variable [DecidableEq ι]

/-- A step that leaves the names as they are leaves the winners as they are. -/
theorem turn_of_kept (h : ledger.WonBy calls start winners c) {i : ι} {next : Session Bool} {s : σ}
    (hkept : ledger.names s = ledger.names c.state) (hquiet : i ∈ winners → next.Quiet)
    (hrecords : i ∉ winners → ledger.Records (calls i).name next) :
    ledger.WonBy calls start winners (c.turn i next s) where
  names := hkept.trans h.names
  unique := by
    show (ledger.names s).Nodup
    rw [hkept]
    exact h.unique
  quiet j hj := by
    by_cases hji : j = i
    · subst hji
      rw [c.sessions_turn_self]
      exact hquiet hj
    · rw [c.sessions_turn_of_ne hji]
      exact h.quiet j hj
  records j hj := by
    by_cases hji : j = i
    · subst hji
      rw [c.sessions_turn_self]
      exact hrecords hj
    · rw [c.sessions_turn_of_ne hji]
      exact h.records j hj

/-- The client whose INSERT is answered is the next winner. -/
theorem turn_of_inserted (h : ledger.WonBy calls start winners c) {i : ι} {next : Session Bool}
    {s : σ} (hnew : (calls i).name ∉ ledger.names c.state)
    (hnames : ledger.names s = ledger.names c.state ++ [(calls i).name]) (hquiet : next.Quiet) :
    ledger.WonBy calls start (winners ++ [i]) (c.turn i next s) where
  names := by
    show ledger.names s = _
    rw [hnames, h.names, List.map_append, List.append_assoc]
    rfl
  unique := by
    show (ledger.names s).Nodup
    rw [hnames, ← List.concat_eq_append]
    exact h.unique.concat hnew
  quiet j hj := by
    by_cases hji : j = i
    · subst hji
      rw [c.sessions_turn_self]
      exact hquiet
    · rw [c.sessions_turn_of_ne hji]
      exact h.quiet j ((List.mem_append.mp hj).resolve_right fun hmem =>
        hji (List.mem_singleton.mp hmem))
  records j hj := by
    have hji : j ≠ i := by
      rintro rfl
      exact hj (List.mem_append_right winners (List.mem_singleton_self j))
    rw [c.sessions_turn_of_ne hji]
    exact h.records j fun hmem => hj (List.mem_append_left [i] hmem)

theorem step (h : ledger.WonBy calls start winners c) (hstep : Crowd.Step server c c') :
    ∃ winners', ledger.WonBy calls start winners' c' := by
  cases hstep with
  | @logged i entry next hlog =>
    refine ⟨winners, h.turn_of_kept rfl ?_ ?_⟩
    · intro hi
      have hquiet := h.quiet i hi
      rw [hlog] at hquiet
      cases hquiet with
      | log hnext => exact hnext
    · intro hi
      have hrecords := h.records i hi
      rw [hlog] at hrecords
      cases hrecords with
      | log hnext => exact hnext
  | @answered i statement next reply s hsend hanswer =>
    have hi : i ∉ winners := by
      intro hi
      have hquiet := h.quiet i hi
      rw [hsend] at hquiet
      cases hquiet
    have hrecords := h.records i hi
    rw [hsend] at hrecords
    cases hrecords with
    | keep hkeeps hnext =>
      exact ⟨winners, h.turn_of_kept (hkeeps hanswer) (absurd · hi) fun _ => hnext reply⟩
    | insert hfailed hanswered =>
      cases reply with
      | error e =>
        exact ⟨winners, h.turn_of_kept (ledger.failed hanswer) (absurd · hi) fun _ => hfailed e⟩
      | ok output =>
        have hnew : (calls i).name ∉ ledger.names c.state := fun hmem =>
          ledger.refused hmem hanswer
        exact ⟨winners ++ [i],
          h.turn_of_inserted hnew (ledger.inserted hnew hanswer) (hanswered output)⟩

theorem reaches (h : ledger.WonBy calls start winners c) (hreach : Crowd.Reaches server c c') :
    ∃ winners', ledger.WonBy calls start winners' c' := by
  induction hreach with
  | refl => exact ⟨winners, h⟩
  | tail _ hstep ih =>
    obtain ⟨winners', h'⟩ := ih
    exact h'.step hstep

end WonBy

theorem wonBy_applying {calls : ι → Application} (hspares : ∀ i, ledger.Spares (calls i).sql)
    {s : σ} (hunique : (ledger.names s).Nodup) :
    ledger.WonBy calls (ledger.names s) [] (Crowd.applying d calls s) where
  names := (List.append_nil _).symm
  unique := hunique
  quiet _ h := nomatch h
  records i _ := ledger.records_apply (hspares i) (calls i).name

/-- What clients agree on that apply migrations at the same time. -/
structure Agrees (calls : ι → Application) (start : List String) (c : Crowd ι σ Bool) : Prop where
  /-- Of the calls with one name at most one says that it applied the migration. -/
  once : ∀ i j, (calls i).name = (calls j).name → c.Applied i → c.Applied j → i = j
  /-- None says so of a name that was recorded at the start. -/
  new : ∀ i, (calls i).name ∈ start → ¬c.Applied i
  recorded : ∀ i, c.Applied i → (calls i).name ∈ ledger.names c.state
  unique : (ledger.names c.state).Nodup
  /-- The names that were recorded stay, and those behind them come from calls. -/
  added : ∃ winners : List ι,
    ledger.names c.state = start ++ winners.map fun i => (calls i).name

theorem WonBy.agrees {ledger : SharedLedger d server} {calls : ι → Application}
    {start : List String} {winners : List ι} {c : Crowd ι σ Bool}
    (h : ledger.WonBy calls start winners c) : ledger.Agrees calls start c := by
  obtain ⟨_, hwinners, hnew⟩ := List.nodup_append.mp h.names_nodup
  have hname : ∀ {i}, c.Applied i → (calls i).name ∈ winners.map fun i => (calls i).name :=
    fun happlied => List.mem_map_of_mem (h.mem_of_applied happlied)
  refine ⟨?_, ?_, ?_, h.unique, winners, h.names⟩
  · intro i j heq hi hj
    exact List.inj_on_of_nodup_map hwinners (h.mem_of_applied hi) (h.mem_of_applied hj) heq
  · intro i hstart happlied
    exact hnew _ hstart _ (hname happlied) rfl
  · intro i happlied
    rw [h.names]
    exact List.mem_append_right _ (hname happlied)

/-- Whatever the order of their statements, whichever of them fail and whatever look-ups find:
clients that apply migrations over one ledger agree on who applied each of them. -/
theorem applications_agree [DecidableEq ι] {calls : ι → Application}
    (hspares : ∀ i, ledger.Spares (calls i).sql) {s : σ} (hunique : (ledger.names s).Nodup)
    {c : Crowd ι σ Bool} (hreach : Crowd.Reaches server (Crowd.applying d calls s) c) :
    ledger.Agrees calls (ledger.names s) c := by
  obtain ⟨winners, hwon⟩ := (ledger.wonBy_applying hspares hunique).reaches hreach
  exact hwon.agrees

end SharedLedger

namespace Store

/-- Whatever it refuses, a store does not take a name twice. -/
def sharedLedger (refuses : BoundStatement → Bool) :
    SharedLedger .sqlite (backend refuses).server where
  names := names
  failed := (ledgerTable refuses).failed
  lookedUp h := ((ledgerTable refuses).lookedUp h).1
  refused {name s output s'} hmem h := by
    have hanswer : s.answerNamed Ledger.insertion name = (.ok output, s') := answer_of_ok h
    rw [answerNamed, if_neg (by decide), if_pos rfl, dif_pos hmem] at hanswer
    cases hanswer
  inserted hnew h := ((ledgerTable refuses).inserted hnew h).1

/-- Two clients that create the same table. -/
def rivals (_ : Bool) : Application :=
  ⟨"posts", "CREATE TABLE IF NOT EXISTS posts (id INTEGER)"⟩

/-- Both look the name up, both run the statement, and both go on to record the name. -/
def photoFinish : List Bool :=
  [false, true, true, false, true, false, true]

def rivalry : Crowd Bool Store Bool :=
  photoFinish.foldl (Crowd.advance (backend fun _ => false))
    (Crowd.applying .sqlite rivals tagStore)

/-- Where both found the name missing, one of them applied the migration and the other did
not. -/
theorem applications_agree_photoFinish :
    rivalry.Applied true ∧ ¬rivalry.Applied false ∧
      rivalry.state.names = ["tags", "posts"] ∧ rivalry.state.names.Nodup := by
  have hagrees := (sharedLedger fun _ => false).applications_agree
    (fun i => spares (fun _ => false) (rivals i).sql) (s := tagStore) tagStore.unique
    (Crowd.reaches_foldl_advance (backend fun _ => false) photoFinish
      (Crowd.applying .sqlite rivals tagStore))
  have happlied : rivalry.Applied true := rfl
  refine ⟨happlied, ?_, rfl, hagrees.unique⟩
  intro hfalse
  cases hagrees.once true false rfl happlied hfalse

end Store

end FluentSql
