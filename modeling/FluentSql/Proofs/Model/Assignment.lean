import FluentSql.Proofs.Query.Terminal
import FluentSql.Proofs.Query.Writes

/-!
# Mass assignment

The guard looks at the entries of the records one by one, and the column list of the statement
is made afterwards, as a union of all of them. Here both are brought together: a column that
stands in the list of a statement was admitted in each record that mentions it, and the first
entry that is not admitted ends the session before anything is sent.
-/

namespace FluentSql

namespace Model

/-- A payload may name the column. -/
def Fillable (m : Model) (column : String) : Prop :=
  column ∈ m.fillable ∨ (m.softDelete = true ∧ column = markerColumn)

theorem isFillable_iff {m : Model} {column : String} :
    m.isFillable column = true ↔ m.Fillable column := by
  unfold isFillable Fillable
  rw [Bool.or_eq_true, Bool.and_eq_true, List.contains_iff_mem, beq_iff_eq]

/-- An entry that may be written. -/
structure Admits (m : Model) (entry : String × Option Value) : Prop where
  unguarded : entry.1 ∉ m.guarded
  fillable : m.Fillable entry.1
  hasValue : entry.2 ≠ none

/-- What is wrong with an entry. That it is guarded comes first, and that it has no value comes
last. -/
inductive Refuses (m : Model) : String × Option Value → Error → Prop
  | guarded {column : String} {value : Option Value} (h : column ∈ m.guarded) :
      Refuses m (column, value) (.guarded column)
  | notFillable {column : String} {value : Option Value} (hopen : column ∉ m.guarded)
      (h : ¬m.Fillable column) : Refuses m (column, value) (.notFillable column)
  | undefinedValue {column : String} (hopen : column ∉ m.guarded)
      (hfillable : m.Fillable column) : Refuses m (column, none) (.undefinedValue column)

/-- Of all entries, record by record, the first that is not admitted is refused with the
error. -/
inductive Rejects (m : Model) : List Record → Error → Prop
  | first (before after : List Record) {record : Record} (left right : List (String × Option Value))
      {entry : String × Option Value} {e : Error}
      (hentries : record.entries = left ++ entry :: right)
      (hbefore : ∀ r ∈ before, ∀ entry ∈ r.entries, m.Admits entry)
      (hleft : ∀ entry ∈ left, m.Admits entry) (hrefuses : m.Refuses entry e) :
      Rejects m (before ++ record :: after) e

variable {m : Model}

theorem entryFault_of_admits {entry : String × Option Value} (h : m.Admits entry) :
    m.entryFault? entry = none := by
  have hvalue : ¬entry.2.isNone = true := by simpa using h.hasValue
  rw [entryFault?, if_neg (by simpa using h.unguarded), isFillable_iff.mpr h.fillable,
    if_neg (by decide), if_neg hvalue]

theorem entryFault_of_refuses {entry : String × Option Value} {e : Error}
    (h : m.Refuses entry e) : m.entryFault? entry = some e := by
  unfold entryFault?
  cases h with
  | guarded h => rw [if_pos (by simpa using h)]
  | notFillable hopen h =>
    rw [if_neg (by simpa using hopen), if_pos (by simpa [← isFillable_iff] using h)]
  | undefinedValue hopen hfillable =>
    rw [if_neg (by simpa using hopen), isFillable_iff.mpr hfillable]
    rfl

theorem admits_or_refuses (m : Model) (entry : String × Option Value) :
    m.Admits entry ∨ ∃ e, m.Refuses entry e := by
  obtain ⟨column, value⟩ := entry
  by_cases hopen : column ∈ m.guarded
  · exact .inr ⟨_, .guarded hopen⟩
  · by_cases hfillable : m.Fillable column
    · cases value with
      | none => exact .inr ⟨_, .undefinedValue hopen hfillable⟩
      | some v => exact .inl ⟨hopen, hfillable, Option.some_ne_none v⟩
    · exact .inr ⟨_, .notFillable hopen hfillable⟩

theorem entryFault_eq_none_iff {entry : String × Option Value} :
    m.entryFault? entry = none ↔ m.Admits entry := by
  constructor
  · intro h
    obtain hadmits | ⟨e, hrefuses⟩ := m.admits_or_refuses entry
    · exact hadmits
    · rw [entryFault_of_refuses hrefuses] at h
      cases h
  · exact entryFault_of_admits

theorem entryFault_eq_some_iff {entry : String × Option Value} {e : Error} :
    m.entryFault? entry = some e ↔ m.Refuses entry e := by
  constructor
  · intro h
    obtain hadmits | ⟨e', hrefuses⟩ := m.admits_or_refuses entry
    · rw [entryFault_of_admits hadmits] at h
      cases h
    · rw [entryFault_of_refuses hrefuses] at h
      exact Option.some.inj h ▸ hrefuses
  · exact entryFault_of_refuses

theorem validate_eq_ok_iff {records : List Record} :
    m.validate records = .ok () ↔ ∀ r ∈ records, ∀ entry ∈ r.entries, m.Admits entry := by
  have hnone : m.validate records = .ok () ↔
      (records.flatMap (·.entries)).findSome? m.entryFault? = none := by
    unfold validate
    cases (records.flatMap (·.entries)).findSome? m.entryFault? with
    | none => exact ⟨fun _ => rfl, fun _ => rfl⟩
    | some e => constructor <;> (intro h; cases h)
  rw [hnone, List.findSome?_eq_none_iff]
  simp only [entryFault_eq_none_iff, List.mem_flatMap, forall_exists_index, and_imp]
  exact ⟨fun h r hr entry hentry => h entry r hr hentry, fun h entry r hr => h r hr entry⟩

theorem Rejects.cons {records : List Record} {e : Error} (h : m.Rejects records e) {r : Record}
    (hr : ∀ entry ∈ r.entries, m.Admits entry) : m.Rejects (r :: records) e := by
  cases h with
  | @first before after record left right entry _ hentries hbefore hleft hrefuses =>
    have hall : ∀ r' ∈ r :: before, ∀ entry ∈ r'.entries, m.Admits entry :=
      List.forall_mem_cons.mpr ⟨hr, hbefore⟩
    exact .first (r :: before) after left right hentries hall hleft hrefuses

theorem rejects_of_findSome {records : List Record} {e : Error}
    (h : (records.flatMap (·.entries)).findSome? m.entryFault? = some e) :
    m.Rejects records e := by
  induction records with
  | nil => cases h
  | cons r records ih =>
    rw [List.flatMap_cons, List.findSome?_append] at h
    cases hfirst : r.entries.findSome? m.entryFault? with
    | none =>
      rw [hfirst, Option.none_or] at h
      exact (ih h).cons fun entry hentry =>
        entryFault_eq_none_iff.mp (List.findSome?_eq_none_iff.mp hfirst entry hentry)
    | some e' =>
      rw [hfirst, Option.some_or] at h
      obtain rfl := Option.some.inj h
      obtain ⟨left, entry, right, hentries, hfault, hleft⟩ := List.findSome?_eq_some_iff.mp hfirst
      exact .first [] records left right hentries (fun _ h => nomatch h)
        (fun entry hentry => entryFault_eq_none_iff.mp (hleft entry hentry))
        (entryFault_eq_some_iff.mp hfault)

theorem findSome_of_rejects {records : List Record} {e : Error} (h : m.Rejects records e) :
    (records.flatMap (·.entries)).findSome? m.entryFault? = some e := by
  cases h with
  | @first before after record left right entry _ hentries hbefore hleft hrefuses =>
    have hall : ∀ entry ∈ before.flatMap (·.entries) ++ left, m.entryFault? entry = none := by
      intro entry hentry
      rcases List.mem_append.mp hentry with hentry | hentry
      · obtain ⟨r, hr, hentry⟩ := List.mem_flatMap.mp hentry
        exact entryFault_of_admits (hbefore r hr entry hentry)
      · exact entryFault_of_admits (hleft entry hentry)
    rw [List.flatMap_append, List.flatMap_cons, hentries, List.append_assoc,
      ← List.append_assoc, List.findSome?_append, List.findSome?_eq_none_iff.mpr hall,
      List.cons_append, List.findSome?_cons, entryFault_of_refuses hrefuses]
    rfl

/-- The guard stops at the first entry that is not admitted. -/
theorem validate_eq_error_iff {records : List Record} {e : Error} :
    m.validate records = .error e ↔ m.Rejects records e := by
  constructor
  · intro h
    apply rejects_of_findSome
    unfold validate at h
    cases hfind : (records.flatMap (·.entries)).findSome? m.entryFault? with
    | none =>
      rw [hfind] at h
      cases h
    | some e' =>
      rw [hfind] at h
      exact congrArg some (Except.error.inj h)
  · intro h
    rw [validate, findSome_of_rejects h]

end Model

/-- A write of a payload that the guard checks. -/
inductive Assignment where
  | insert (record : Record)
  | insertMany (records : List Record)
  | update (data : Record)

namespace Assignment

/-- What an assignment ends with: a generated id, or whether there were rows. -/
def Answer : Assignment → Type
  | .insert _ => Value
  | .insertMany _ => Value
  | .update _ => Bool

def records : Assignment → List Record
  | .insert record => [record]
  | .insertMany records => records
  | .update data => [data]

/-- The columns that the statement names, in the order of its list. -/
def columns : Assignment → List String
  | .insert record => QueryState.columnUnion [record]
  | .insertMany records => QueryState.columnUnion records
  | .update data => data.columns

/-- Each column of the list is mentioned by one of the records. -/
theorem mem_columns_iff {a : Assignment} {column : String} :
    column ∈ a.columns ↔ ∃ r ∈ a.records, column ∈ r.columns := by
  cases a with
  | insert record => exact QueryState.mem_columnUnion
  | insertMany records => exact QueryState.mem_columnUnion
  | update data =>
    constructor
    · intro h
      exact ⟨data, List.mem_singleton_self _, h⟩
    · rintro ⟨r, hr, h⟩
      obtain rfl := List.mem_singleton.mp hr
      exact h

/-- The text of the statement that names the columns. -/
def text (a : Assignment) (q : Query) (columns : List String) : String :=
  match a with
  | .insert record => QueryState.insertText q.state.table columns [record]
  | .insertMany records => QueryState.insertText q.state.table columns records
  | .update _ => q.readState.updateText q.dialect columns

/-- What becomes of an error of the guard: an INSERT on a query with clauses does not get as
far as the guard. -/
def refusal (a : Assignment) (q : Query) (e : Error) : Error :=
  match a with
  | .update _ => e
  | _ => if q.state.hasClauses then .state .insertWithClauses else e

end Assignment

namespace Query

variable {q : Query} {m : Model}

/-- The session of an assignment, with the guard on. -/
def assign (q : Query) : (a : Assignment) → Session a.Answer
  | .insert record => q.insert record true
  | .insertMany records => q.insertMany records true
  | .update data => q.update data

/-- The statement of an assignment, or the error that comes before it. -/
def assigned (q : Query) : Assignment → Except Error BoundStatement
  | .insert record => q.insertion [record] true
  | .insertMany records => q.insertion records true
  | .update data => q.modification data

theorem assign_follows (q : Query) (a : Assignment) : (q.assign a).Follows (q.assigned a) := by
  cases a with
  | insert record =>
    exact perform_follows Row q ⟨default, default⟩ (.insertMany [record] true)
  | insertMany records =>
    exact perform_follows Row q ⟨default, default⟩ (.insertMany records true)
  | update data => exact follows_update q data

theorem insertion_of_clauses (h : q.state.hasClauses = true) (records : List Record)
    (validate : Bool) : q.insertion records validate = .error (.state .insertWithClauses) := by
  rw [insertion, h]
  rfl

theorem insertion_of_model (hmodel : q.model = some m) (hclauses : q.state.hasClauses = false)
    {records : List Record} (hne : records ≠ []) :
    q.insertion records true = m.validate records >>= fun _ =>
      QueryState.compileInsert q.dialect q.state.table records := by
  rw [insertion, hmodel, hclauses, List.isEmpty_eq_false_iff.mpr hne]
  rfl

theorem insertion_ok {records : List Record} {validate : Bool} {s : BoundStatement}
    (h : q.insertion records validate = .ok s) : q.state.hasClauses = false ∧ records ≠ [] := by
  unfold insertion at h
  cases hclauses : q.state.hasClauses with
  | true =>
    rw [hclauses] at h
    cases h
  | false =>
    refine ⟨rfl, ?_⟩
    rintro rfl
    rw [hclauses] at h
    cases h

theorem modification_of_model (hmodel : q.model = some m) (data : Record) :
    q.modification data = m.validate [data] >>= fun _ =>
      q.readState.compileUpdate q.dialect data := by
  rw [modification, hmodel]

/-- A statement is written of a payload that the guard passed, and it names the columns of
the payload. -/
theorem validate_of_assigned (hmodel : q.model = some m) {a : Assignment} {s : BoundStatement}
    (h : q.assigned a = .ok s) :
    m.validate a.records = .ok () ∧ s.sql = q.dialect.lowerPlaceholders (a.text q a.columns) := by
  have hinsertion : ∀ {records : List Record}, q.insertion records true = .ok s →
      m.validate records = .ok () ∧ s.sql = q.dialect.lowerPlaceholders
        (QueryState.insertText q.state.table (QueryState.columnUnion records) records) := by
    intro records h
    obtain ⟨hclauses, hne⟩ := insertion_ok h
    rw [insertion_of_model hmodel hclauses hne] at h
    obtain ⟨_, hvalidate, hcompile⟩ := ok_of_bind h
    exact ⟨hvalidate, QueryState.compileInsert_sql hcompile⟩
  cases a with
  | insert record => exact hinsertion h
  | insertMany records => exact hinsertion h
  | update data =>
    change q.modification data = .ok s at h
    rw [modification_of_model hmodel] at h
    obtain ⟨_, hvalidate, hcompile⟩ := ok_of_bind h
    obtain ⟨_, _, rfl⟩ := QueryState.compileUpdate_ok_iff.mp hcompile
    exact ⟨hvalidate, rfl⟩

theorem assigned_of_invalid (hmodel : q.model = some m) {a : Assignment} {e : Error}
    (h : m.validate a.records = .error e) : q.assigned a = .error (a.refusal q e) := by
  have hinsertion : ∀ {records : List Record}, m.validate records = .error e →
      q.insertion records true =
        .error (if q.state.hasClauses then .state .insertWithClauses else e) := by
    intro records h
    cases hclauses : q.state.hasClauses with
    | true => exact insertion_of_clauses hclauses records true
    | false =>
      have hne : records ≠ [] := by
        rintro rfl
        cases h
      rw [insertion_of_model hmodel hclauses hne, h]
      rfl
  cases a with
  | insert record => exact hinsertion h
  | insertMany records => exact hinsertion h
  | update data =>
    change m.validate [data] = .error e at h
    show q.modification data = .error e
    rw [modification_of_model hmodel, h]
    rfl

/-- On a query of a model, each column in the list of an INSERT or UPDATE that is sent is not
guarded, is fillable, and has a value in every record that mentions it. Of a payload that the
guard rejects nothing is sent, and its error tells of the first entry that is not admitted. -/
theorem assign_guarded (hmodel : q.model = some m) (a : Assignment) :
    (∀ s, (q.assign a).Sends s →
      s.sql = q.dialect.lowerPlaceholders (a.text q a.columns) ∧
      ∀ column ∈ a.columns, column ∉ m.guarded ∧ m.Fillable column ∧
        ∀ r ∈ a.records, ∀ value, (column, value) ∈ r.entries → value ≠ none) ∧
    (∀ e, m.validate a.records = .error e →
      m.Rejects a.records e ∧ q.assign a = .done (.error (a.refusal q e))) := by
  have hfollows := q.assign_follows a
  constructor
  · intro s hsends
    obtain ⟨hvalidate, hsql⟩ := validate_of_assigned hmodel (hfollows.sends_iff.mp hsends)
    have hadmits := Model.validate_eq_ok_iff.mp hvalidate
    refine ⟨hsql, ?_⟩
    intro column hcolumn
    obtain ⟨r, hr, hmention⟩ := Assignment.mem_columns_iff.mp hcolumn
    obtain ⟨⟨_, value⟩, hentry, rfl⟩ := List.mem_map.mp hmention
    obtain ⟨hopen, hfillable, _⟩ := hadmits r hr _ hentry
    exact ⟨hopen, hfillable, fun r hr value hentry => (hadmits r hr _ hentry).hasValue⟩
  · intro e hinvalid
    rw [assigned_of_invalid hmodel hinvalid] at hfollows
    exact ⟨Model.validate_eq_error_iff.mp hinvalid, hfollows⟩

/-- Posts with a title that may be written and an id that may not. -/
def postModel : Model := { table := "posts", fillable := ["title"], guarded := ["id"] }

def posts : Query :=
  ⟨.sqlite, some postModel, ⟨"posts", [], .empty, [], [], .empty, [], none, none, []⟩⟩

def draft : Record := ⟨[("title", some (.string "a"))]⟩

/-- A post with a title, and one that mentions a title before its id. -/
def drafts : List Record := [draft, ⟨[("title", none), ("id", some (.int 1))]⟩]

/-- The first fault of the drafts is the title without a value; the first draft alone is sent. -/
theorem assign_guarded_posts :
    posts.assign (.insertMany drafts) = .done (.error (.undefinedValue "title")) ∧
      (∃ s, (posts.assign (.insert draft)).Sends s ∧
        s.sql = "INSERT INTO posts (title) VALUES (?)") ∧ postModel.Fillable "title" := by
  obtain ⟨_, hinvalid⟩ := assign_guarded (q := posts) (m := postModel) rfl (.insertMany drafts)
  obtain ⟨hvalid, _⟩ := assign_guarded (q := posts) (m := postModel) rfl (.insert draft)
  have hsends := (posts.assign_follows (.insert draft)).sends_iff.mpr rfl
  obtain ⟨hsql, hcolumns⟩ := hvalid _ hsends
  refine ⟨(hinvalid _ rfl).2, ⟨_, hsends, hsql⟩, ?_⟩
  exact (hcolumns "title" List.mem_cons_self).2.1

end Query

end FluentSql
