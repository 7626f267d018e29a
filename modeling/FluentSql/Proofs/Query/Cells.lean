import FluentSql.Proofs.Query.Writes
import FluentSql.Proofs.Row.Record

/-!
# The cells of an INSERT

Records of any shape become a rectangle: a column for each name that some record mentions, a
group of placeholders for each record, and for each record and column one parameter, which is the
value that the record has there. The parameters stand row by row.
-/

namespace FluentSql

open FluentSql.Text

namespace Dialect

variable (d : Dialect)

theorem toList_commaList_cons (s : String) {rest : List String} (h : rest ≠ []) :
    (commaList (s :: rest)).toList = s.toList ++ (", ".toList ++ (commaList rest).toList) := by
  obtain ⟨t, rest, rfl⟩ := List.exists_cons_of_ne_nil h
  show (s ++ ", " ++ commaList (t :: rest)).toList = _
  rw [String.toList_append, String.toList_append, List.append_assoc]

/-- The parts of a comma list with equally many placeholders are written one after the other. -/
theorem written_commaList {k : Nat} {parts : List String} (h : ∀ s ∈ parts, Marks k s) (n : Nat) :
    d.written n (commaList parts).toList =
      (commaList (parts.mapIdx fun i s =>
        String.ofList (d.written (n + i * k) s.toList))).toList := by
  have hcomma : Closed ", " := by decide
  induction parts generalizing n with
  | nil => exact d.written_of_closed closed_empty n
  | cons s rest ih =>
    obtain ⟨hs, hrest⟩ := List.forall_mem_cons.mp h
    by_cases hnil : rest = []
    · subst hnil
      simp [commaList, joinWith]
    · have hshift : (fun i (t : String) => String.ofList (d.written (n + k + i * k) t.toList)) =
          fun i t => String.ofList (d.written (n + (i + 1) * k) t.toList) := by
        funext i t
        rw [Nat.succ_mul, Nat.add_assoc, Nat.add_comm k]
      rw [toList_commaList_cons s hnil, d.written_append hs.1, hs.2, d.written_append hcomma.1,
        hcomma.2, d.written_of_closed hcomma, Nat.add_zero, ih hrest, hshift, List.mapIdx_cons,
        toList_commaList_cons _ (by simpa using hnil)]
      simp only [String.toList_ofList, Nat.zero_mul, Nat.add_zero]

theorem marks_each (columns : List String) : ∀ s ∈ columns.map (fun _ => "?"), Marks 1 s := by
  intro s hs
  obtain ⟨_, _, rfl⟩ := List.mem_map.mp hs
  decide

theorem marks_slots (columns : List String) :
    Marks columns.length (commaList (columns.map fun _ => "?")) := by
  simpa using marks_commaList (marks_each columns)

/-- A list of question marks is written with numbers one after the other. -/
theorem written_slots (n : Nat) (columns : List String) :
    d.written n (commaList (columns.map fun _ => "?")).toList =
      (commaList ((List.range columns.length).map fun i =>
        String.ofList (d.mark (n + i)))).toList := by
  have hone : ∀ m, d.written m "?".toList = d.mark m := by
    intro m
    have hempty : d.written (m + 1) [] = [] := d.written_of_closed closed_empty _
    show d.written m ('?' :: []) = d.mark m
    rw [d.written_mark, hempty, List.append_nil]
  rw [d.written_commaList (marks_each columns)]
  congr 2
  apply List.ext_getElem
  · simp
  · intro i _ _
    rw [List.getElem_mapIdx, List.getElem_map, hone, Nat.mul_one, List.getElem_map,
      List.getElem_range]

/-- A group of placeholders between parentheses, the first of them with number `n`. -/
def slotGroup (n width : Nat) : String :=
  "(" ++ commaList ((List.range width).map fun i => String.ofList (d.mark (n + i))) ++ ")"

theorem marks_group (columns : List String) :
    Marks columns.length ("(" ++ (commaList (columns.map fun _ => "?") ++ ")")) := by
  have hopen : Marks 0 "(" := by decide
  have hclose : Marks 0 ")" := by decide
  simpa using hopen.append ((marks_slots columns).append hclose)

theorem written_group (n : Nat) (columns : List String) :
    d.written n ("(" ++ (commaList (columns.map fun _ => "?") ++ ")")).toList =
      (d.slotGroup n columns.length).toList := by
  have hopen : Closed "(" := by decide
  have hclose : Closed ")" := by decide
  have hslots := (marks_slots columns).1
  rw [String.toList_append, d.written_append hopen.1, hopen.2, d.written_of_closed hopen,
    String.toList_append, d.written_append hslots, d.written_of_closed hclose, d.written_slots,
    slotGroup, String.toList_append, String.toList_append, List.append_assoc]
  rfl

end Dialect

namespace QueryState

/-- An INSERT up to its groups of placeholders. -/
def insertFront (table : String) (columns : List String) : String :=
  "INSERT INTO " ++ table ++ " (" ++ commaList columns ++ ") VALUES "

/-- How an INSERT writes records into cells: the statement has a column for each name that a
record mentions, a group of placeholders for each record and a parameter for each cell. -/
structure Cells (d : Dialect) (table : String) (rows : List Record) (columns : List String)
    (s : BoundStatement) : Prop where
  columns_seen : FirstSeen (rows.flatMap Record.columns) columns
  columns_ne : columns ≠ []
  /-- One group of as many placeholders as there are columns for each record. -/
  text : s.sql = d.lowerPlaceholders (insertFront table columns ++
    commaList (rows.map fun _ => "(" ++ (commaList (columns.map fun _ => "?") ++ ")")))
  /-- Behind `k` placeholders of the front the groups are numbered row by row. -/
  groups : ∀ k, (d.isNumbered = true → Marks k (insertFront table columns)) →
    s.sql = d.lowerPlaceholders (insertFront table columns) ++
      commaList (rows.mapIdx fun r _ => d.slotGroup (1 + k + r * columns.length) columns.length)
  length : s.params.length = rows.length * columns.length
  held : ∀ {r record c column v}, rows[r]? = some record → columns[c]? = some column →
    record.get? column = some (some v) → s.params[r * columns.length + c]? = some v
  /-- NULL where the record lacks the column or only declares it. -/
  unheld : ∀ {r record c column}, rows[r]? = some record → columns[c]? = some column →
    record.get? column = none ∨ record.get? column = some none →
      s.params[r * columns.length + c]? = some .null

theorem columnUnion_seen (rows : List Record) :
    FirstSeen (rows.flatMap Record.columns) (columnUnion rows) := by
  have hfold : ∀ (names all found : List String), FirstSeen all found →
      FirstSeen (all ++ names) (names.foldl
        (fun columns c => if columns.contains c then columns else columns ++ [c]) found) := by
    intro names
    induction names with
    | nil =>
      intro all found h
      rw [List.append_nil]
      exact h
    | cons x names ih =>
      intro all found h
      have hsplit : all ++ x :: names = (all ++ [x]) ++ names := by simp
      rw [List.foldl_cons, hsplit]
      apply ih
      split
      · next hx => exact h.seen (by simpa using hx)
      · next hx => exact h.unseen (by simpa using hx)
  exact hfold _ [] [] .nil

/-- A list of rows of one length, read at a row and a column. -/
theorem getElem?_cells {α β : Type} (rows : List α) (columns : List β) {γ : Type}
    (f : α → β → γ) {r c : Nat} {row : α} {column : β} (hr : rows[r]? = some row)
    (hc : columns[c]? = some column) :
    (rows.flatMap fun row => columns.map (f row))[r * columns.length + c]? =
      some (f row column) := by
  have hlt : c < columns.length := (List.getElem?_eq_some_iff.mp hc).1
  induction rows generalizing r with
  | nil => cases hr
  | cons first rows ih =>
    rw [List.flatMap_cons]
    cases r with
    | zero =>
      obtain rfl := Option.some.inj hr
      rw [Nat.zero_mul, Nat.zero_add, List.getElem?_append_left (by simpa using hlt),
        List.getElem?_map, hc]
      rfl
    | succ r =>
      have hpast : (columns.map (f first)).length ≤ (r + 1) * columns.length + c := by
        rw [List.length_map, Nat.succ_mul]
        omega
      have hindex : (r + 1) * columns.length + c - (columns.map (f first)).length =
          r * columns.length + c := by
        rw [List.length_map, Nat.succ_mul]
        omega
      rw [List.getElem?_append_right hpast, hindex]
      exact ih hr

theorem compileInsert_eq {d : Dialect} {q : QueryState} {rows : List Record} {s : BoundStatement}
    (h : compileInsert d q.table rows = .ok s) :
    s = ⟨d.lowerPlaceholders (insertText q.table (columnUnion rows) rows),
      rows.flatMap fun row => (columnUnion rows).map row.bound⟩ := by
  have hvalues : Part.valuesOf (Part.listed (rows.map (rowPart (columnUnion rows)))) =
      rows.flatMap fun row => (columnUnion rows).map row.bound := by
    rw [Part.valuesOf_listed, Part.valuesOf, List.flatMap_map]
    rfl
  have hs := compile_eq_of_parts (.insert rows) h (textOf_insert d q rows)
  rw [parts, Part.valuesOf_plain_cons, hvalues] at hs
  exact hs

theorem lower_insertText {d : Dialect} {table : String} {columns : List String}
    (rows : List Record) {k : Nat} (h : d.isNumbered = true → Marks k (insertFront table columns)) :
    d.lowerPlaceholders (insertText table columns rows) =
      d.lowerPlaceholders (insertFront table columns) ++
        commaList (rows.mapIdx fun r _ =>
          d.slotGroup (1 + k + r * columns.length) columns.length) := by
  have hparts : ∀ s ∈ rows.map (fun _ => "(" ++ (commaList (columns.map fun _ => "?") ++ ")")),
      Marks columns.length s := by
    intro s hs
    obtain ⟨_, _, rfl⟩ := List.mem_map.mp hs
    exact Dialect.marks_group columns
  have htext : insertText table columns rows = insertFront table columns ++
      commaList (rows.map fun _ => "(" ++ (commaList (columns.map fun _ => "?") ++ ")")) := rfl
  rw [← String.toList_inj, htext, Dialect.toList_lowerPlaceholders_append,
    Dialect.writtenBehind_of_marks d h, Dialect.written_commaList d hparts, String.toList_append]
  congr 3
  apply List.ext_getElem
  · simp
  · intro r _ _
    rw [List.getElem_mapIdx, List.getElem_map, Dialect.written_group, String.ofList_toList,
      List.getElem_mapIdx]

theorem cells_of_compileInsert {d : Dialect} {q : QueryState} {rows : List Record}
    {s : BoundStatement} (h : compileInsert d q.table rows = .ok s) :
    Cells d q.table rows (columnUnion rows) s := by
  have hcompile : q.compile d (.insert rows) = .ok s := h
  obtain ⟨_, hfs, _⟩ := compile_ok hcompile
  have hne := (insertFragments_ok_iff.mp hfs).1
  obtain rfl := compileInsert_eq h
  refine ⟨columnUnion_seen rows, hne, rfl, fun k => lower_insertText rows, ?_, ?_, ?_⟩
  · simp [List.length_flatMap]
  · intro r record c column v hr hc hheld
    rw [getElem?_cells rows (columnUnion rows) Record.bound hr hc, Record.bound, hheld]
  · intro r record c column hr hc hunheld
    rw [getElem?_cells rows (columnUnion rows) Record.bound hr hc, Record.bound]
    rcases hunheld with hlacks | hdeclares
    · rw [hlacks]
    · rw [hdeclares]

/-- An INSERT without records or without columns is refused; any other writes every value of the
records into its cell. -/
theorem compileInsert_cells (d : Dialect) (table : String) (rows : List Record) :
    rows = [] ∧ compileInsert d table rows = .error (.argument .noRows) ∨
      rows ≠ [] ∧ (∀ row ∈ rows, row.columns = []) ∧
        compileInsert d table rows = .error (.argument .rowsWithoutColumns) ∨
      (∃ row ∈ rows, row.columns ≠ []) ∧
        ∃ columns s, compileInsert d table rows = .ok s ∧ Cells d table rows columns s := by
  by_cases hrows : rows = []
  · subst hrows
    exact .inl ⟨rfl, rfl⟩
  by_cases hcolumns : ∀ row ∈ rows, row.columns = []
  · have hunion : columnUnion rows = [] := by
      rw [columnUnion, List.flatMap_eq_nil_iff.mpr hcolumns]
      rfl
    refine .inr (.inl ⟨hrows, hcolumns, ?_⟩)
    rw [compileInsert, insertFragments, if_neg (by simpa using hrows), hunion]
    rfl
  · have hmention : ∃ row ∈ rows, row.columns ≠ [] := by simpa using hcolumns
    obtain ⟨row, hrow, hne⟩ := hmention
    obtain ⟨q, rfl⟩ : ∃ q : QueryState, q.table = table :=
      ⟨⟨table, [], .empty, [], [], .empty, [], none, none, []⟩, rfl⟩
    have hadmits : q.Admits d (.insert rows) := ⟨row, hrow, by simpa [Record.columns] using hne⟩
    obtain ⟨s, hs⟩ := (exists_compile_iff d q (.insert rows)).mpr hadmits
    exact .inr (.inr ⟨⟨row, hrow, hne⟩, columnUnion rows, s, hs, cells_of_compileInsert hs⟩)

/-- The second record lacks the column of the first and only declares its own. -/
example : compileInsert .postgreSql "notes" [⟨[("a", some (.int 1))]⟩, ⟨[("b", none)]⟩] =
    .ok ⟨"INSERT INTO notes (a, b) VALUES ($1, $2), ($3, $4)", [.int 1, .null, .null, .null]⟩ := by
  rfl

end QueryState

end FluentSql
