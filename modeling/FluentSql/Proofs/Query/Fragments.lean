import FluentSql.Proofs.Calls
import FluentSql.Query.Compile

/-!
# Fragments of a statement

Every statement is its list of fragments, finished for the dialect. Here is also
exactly when there is one: an INSERT needs a column, an UPDATE an assignment, and
joins in an UPDATE or DELETE need MySQL.
-/

namespace FluentSql

namespace QueryState

/-- The fragments a statement is finished from. -/
def fragments (d : Dialect) (q : QueryState) : Statement → Except Error (List Fragment)
  | .select => .ok (q.selectFragments d)
  | .count => .ok (q.countFragments d)
  | .insert rows => insertFragments q.table rows
  | .update data => q.updateFragments d data
  | .delete => q.deleteFragments d

theorem compile_eq (d : Dialect) (q : QueryState) (statement : Statement) :
    q.compile d statement = (q.fragments d statement).map (finish d) := by
  cases statement <;> rfl

theorem compile_ok {d : Dialect} {q : QueryState} {statement : Statement} {s : BoundStatement}
    (h : q.compile d statement = .ok s) :
    ∃ fs, q.fragments d statement = .ok fs ∧ s = finish d fs := by
  rw [compile_eq] at h
  cases hfs : q.fragments d statement with
  | error e =>
    rw [hfs] at h
    cases h
  | ok fs =>
    rw [hfs] at h
    exact ⟨fs, rfl, (Except.ok.inj h).symm⟩

/-- The columns of an INSERT are those that some record mentions. -/
theorem mem_columnUnion {rows : List Record} {c : String} :
    c ∈ columnUnion rows ↔ ∃ row ∈ rows, c ∈ row.columns := by
  have hfold : ∀ (names found : List String),
      c ∈ names.foldl (fun columns c => if columns.contains c then columns else columns ++ [c])
        found ↔ c ∈ found ∨ c ∈ names := by
    intro names
    induction names with
    | nil => simp
    | cons name names ih =>
      intro found
      rw [List.foldl_cons, ih]
      split
      · next hseen =>
        have hmem : name ∈ found := by simpa using hseen
        constructor
        · rintro (hc | hc)
          · exact .inl hc
          · exact .inr (List.mem_cons_of_mem _ hc)
        · rintro (hc | hc)
          · exact .inl hc
          · obtain rfl | hc := List.mem_cons.mp hc
            · exact .inl hmem
            · exact .inr hc
      · rw [List.mem_append, List.mem_singleton, List.mem_cons, or_assoc]
  rw [columnUnion, hfold, List.mem_flatMap]
  simp

/-- What a dialect asks of a query and a payload before it writes the statement. -/
def Admits (d : Dialect) (q : QueryState) : Statement → Prop
  | .select => True
  | .count => True
  | .insert rows => ∃ row ∈ rows, row.entries ≠ []
  | .update data => data.entries ≠ [] ∧ (q.joins = [] ∨ d = .mySql)
  | .delete => q.joins = [] ∨ d = .mySql

theorem insertFragments_ok_iff {table : String} {rows : List Record} {fs : List Fragment} :
    insertFragments table rows = .ok fs ↔
      columnUnion rows ≠ [] ∧
        fs = .text ("INSERT INTO " ++ table ++ " (" ++ Text.commaList (columnUnion rows) ++
          ") VALUES ") :: rowFragments (columnUnion rows) rows := by
  unfold insertFragments
  cases rows with
  | nil =>
    constructor
    · intro h
      cases h
    · rintro ⟨h, _⟩
      exact absurd rfl h
  | cons row rows =>
    dsimp only [List.isEmpty_cons]
    cases hcolumns : columnUnion (row :: rows) with
    | nil =>
      constructor
      · intro h
        cases h
      · rintro ⟨h, _⟩
        exact absurd rfl h
    | cons c columns =>
      constructor
      · intro h
        exact ⟨List.cons_ne_nil c columns, (Except.ok.inj h).symm⟩
      · rintro ⟨_, rfl⟩
        rfl

theorem checkJoins_ok_iff {d : Dialect} {q : QueryState} {verb : String} :
    q.checkJoins d verb = .ok () ↔ q.joins = [] ∨ d = .mySql := by
  unfold checkJoins
  split
  · next h => simpa using h
  · next h =>
    constructor
    · intro hok
      cases hok
    · intro hjoins
      exact absurd (by simpa using hjoins) h

theorem updateFragments_ok_iff {d : Dialect} {q : QueryState} {data : Record}
    {fs : List Fragment} :
    q.updateFragments d data = .ok fs ↔
      data.entries ≠ [] ∧ (q.joins = [] ∨ d = .mySql) ∧
        fs = .text ("UPDATE " ++ q.table ++ q.hintText d) :: q.joinFragments d ++
          .text " SET " :: assignmentFragments data.entries ++
            q.conditions.fragments "WHERE" := by
  unfold updateFragments Record.isEmpty
  cases data.entries with
  | nil =>
    constructor
    · intro h
      cases h
    · rintro ⟨h, _⟩
      exact absurd rfl h
  | cons entry entries =>
    constructor
    · intro h
      obtain ⟨_, hjoins, h⟩ := ok_of_bind h
      exact ⟨List.cons_ne_nil entry entries, checkJoins_ok_iff.mp hjoins,
        (Except.ok.inj h).symm⟩
    · rintro ⟨_, hjoins, rfl⟩
      rw [checkJoins_ok_iff.mpr hjoins]
      rfl

theorem deleteFragments_ok_iff {d : Dialect} {q : QueryState} {fs : List Fragment} :
    q.deleteFragments d = .ok fs ↔
      (q.joins = [] ∨ d = .mySql) ∧
        fs = .text ("DELETE " ++ (if q.joins.isEmpty then "" else q.deleteTarget ++ " ") ++
          "FROM " ++ q.table) :: q.joinFragments d ++ q.conditions.fragments "WHERE" := by
  unfold deleteFragments
  constructor
  · intro h
    obtain ⟨_, hjoins, h⟩ := ok_of_bind h
    exact ⟨checkJoins_ok_iff.mp hjoins, (Except.ok.inj h).symm⟩
  · rintro ⟨hjoins, rfl⟩
    rw [checkJoins_ok_iff.mpr hjoins]
    rfl

theorem columnUnion_ne_nil_iff {rows : List Record} :
    columnUnion rows ≠ [] ↔ ∃ row ∈ rows, row.entries ≠ [] := by
  constructor
  · intro h
    obtain ⟨c, hc⟩ := List.exists_mem_of_ne_nil _ h
    obtain ⟨row, hrow, hmem⟩ := mem_columnUnion.mp hc
    refine ⟨row, hrow, ?_⟩
    intro hnil
    rw [Record.columns, hnil] at hmem
    cases hmem
  · rintro ⟨row, hrow, hne⟩ hnil
    obtain ⟨entry, hentry⟩ := List.exists_mem_of_ne_nil _ hne
    have hmem : entry.1 ∈ columnUnion rows :=
      mem_columnUnion.mpr ⟨row, hrow, List.mem_map_of_mem hentry⟩
    rw [hnil] at hmem
    cases hmem

/-- A statement is written exactly when it is admitted. -/
theorem exists_compile_iff (d : Dialect) (q : QueryState) (statement : Statement) :
    (∃ s, q.compile d statement = .ok s) ↔ q.Admits d statement := by
  have hfragments : (∃ s, q.compile d statement = .ok s) ↔
      ∃ fs, q.fragments d statement = .ok fs := by
    constructor
    · rintro ⟨s, hs⟩
      obtain ⟨fs, hfs, _⟩ := compile_ok hs
      exact ⟨fs, hfs⟩
    · rintro ⟨fs, hfs⟩
      rw [compile_eq, hfs]
      exact ⟨_, rfl⟩
  rw [hfragments]
  cases statement with
  | select => exact ⟨fun _ => trivial, fun _ => ⟨_, rfl⟩⟩
  | count => exact ⟨fun _ => trivial, fun _ => ⟨_, rfl⟩⟩
  | insert rows =>
    simp only [fragments, insertFragments_ok_iff, exists_and_left, exists_eq, and_true]
    exact columnUnion_ne_nil_iff
  | update data =>
    simp only [fragments, updateFragments_ok_iff, exists_and_left, exists_eq, and_true]
    exact Iff.rfl
  | delete =>
    simp only [fragments, deleteFragments_ok_iff, exists_and_left, exists_eq, and_true]
    exact Iff.rfl

end QueryState

end FluentSql
