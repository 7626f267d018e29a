import FluentSql.Model.Basic
import FluentSql.Document.Printer
import FluentSql.Proofs.Document.Fields

/-!
# Hydrated instances as JSON

What becomes of the columns of a row in the JSON forms of its instance. Neither form depends on a
hidden column or on one that is named like a declaration. Of several columns with one name the
accessor gives the first, while the object of the JSON form keeps the last.
-/

namespace FluentSql

namespace Row

variable {r : Row} {column : String} {v : Value}

/-- The value is the first one of the column. -/
def First (r : Row) (column : String) (v : Value) : Prop :=
  ∃ before after, r.cells = before ++ (column, v) :: after ∧ ∀ cell ∈ before, cell.1 ≠ column

/-- The value is the last one of the column. -/
def Last (r : Row) (column : String) (v : Value) : Prop :=
  ∃ before after, r.cells = before ++ (column, v) :: after ∧ ∀ cell ∈ after, cell.1 ≠ column

/-- The row from its last column to its first. -/
def reversed (r : Row) : Row :=
  ⟨r.cells.reverse⟩

theorem first_of_value? (h : r.value? column = some v) : r.First column v := by
  obtain ⟨⟨c, w⟩, hfind, rfl⟩ := Option.map_eq_some_iff.mp h
  obtain ⟨hc, before, after, hcells, hbefore⟩ := List.find?_eq_some_iff_append.mp hfind
  obtain rfl : c = column := by simpa using hc
  exact ⟨before, after, hcells, fun cell hcell => by simpa using hbefore cell hcell⟩

theorem last_of_value?_reversed (h : r.reversed.value? column = some v) : r.Last column v := by
  obtain ⟨before, after, hcells, hbefore⟩ := first_of_value? h
  refine ⟨after.reverse, before.reverse, ?_, fun cell hcell => hbefore cell (by simpa using hcell)⟩
  have hreverse := congrArg List.reverse hcells
  rw [reversed, List.reverse_reverse] at hreverse
  simp [hreverse]

theorem exists_value? (h : column ∈ r.columns) : ∃ v, r.value? column = some v := by
  obtain ⟨⟨c, w⟩, hcell, rfl⟩ := List.mem_map.mp h
  have hsome : (r.cells.find? fun cell => cell.1 == c).isSome = true :=
    List.find?_isSome.mpr ⟨(c, w), hcell, beq_self_eq_true c⟩
  obtain ⟨found, hfound⟩ := Option.isSome_iff_exists.mp hsome
  exact ⟨found.2, by rw [value?, hfound]; rfl⟩

/-- A look-up does not see what is taken away of other columns. -/
theorem value?_filter (r : Row) {p : String → Bool} (h : p column = true) :
    value? ⟨r.cells.filter fun cell => p cell.1⟩ column = r.value? column := by
  have hsame : ∀ cell : String × Value,
      decide (p cell.1 = true ∧ (cell.1 == column) = true) = (cell.1 == column) := by
    intro cell
    by_cases hc : cell.1 = column
    · simp [hc, h]
    · simp [hc]
  rw [value?, value?, List.find?_filter]
  simp only [hsame]

end Row

namespace Instance

open Document (field? sortFields)

variable {row : Row} {hidden : List String} {column : String}

/-- Whether an instance keeps a column of its row. -/
def keeps (column : String) : Bool :=
  !declarationNames.contains column

theorem keeps_of_mem (h : column ∈ (ofRow row hidden).attributes.columns) :
    keeps column = true ∧ column ∈ row.columns := by
  obtain ⟨cell, hcell, rfl⟩ := List.mem_map.mp h
  obtain ⟨hrow, hkeeps⟩ := List.mem_filter.mp hcell
  exact ⟨hkeeps, List.mem_map.mpr ⟨cell, hrow, rfl⟩⟩

theorem value?_ofRow (hkeeps : keeps column = true) :
    (ofRow row hidden).attributes.value? column = row.value? column :=
  row.value?_filter hkeeps

theorem value?_reversed_ofRow (hkeeps : keeps column = true) :
    (ofRow row hidden).attributes.reversed.value? column = row.reversed.value? column := by
  have hreverse : (ofRow row hidden).attributes.reversed =
      ⟨row.reversed.cells.filter fun cell => keeps cell.1⟩ := by
    rw [Row.reversed, Row.reversed, List.filter_reverse]
    rfl
  rw [hreverse, Row.value?_filter _ hkeeps]

/-! ## A column in the JSON form -/

theorem field?_map_cells (cells : List (String × Value)) :
    field? column (cells.map fun cell => (cell.1, cell.2.toDocument)) =
      (Row.value? ⟨cells⟩ column).map Value.toDocument := by
  induction cells with
  | nil => rfl
  | cons cell cells ih =>
    rw [List.map_cons, field?, ih, Row.value?, Row.value?, List.find?_cons]
    by_cases hc : cell.1 = column
    · simp [hc]
    · rw [if_neg hc, beq_eq_false_iff_ne.mpr hc]

/-- The object has under a visible column the last value of the instance. -/
theorem at?_toDocument (x : Instance) (hvisible : x.isHidden column = false) :
    x.toDocument.at? column = (x.attributes.reversed.value? column).map Value.toDocument := by
  have hreverse : x.visible.reverse =
      (x.attributes.cells.reverse.filter fun cell => !x.isHidden cell.1).map
        fun cell => (cell.1, cell.2.toDocument) := by
    rw [visible, ← List.map_reverse, ← List.filter_reverse]
  have hlook : Row.value? ⟨x.attributes.reversed.cells.filter fun cell => !x.isHidden cell.1⟩
      column = x.attributes.reversed.value? column :=
    Row.value?_filter _ (p := fun c => !x.isHidden c) (by rw [hvisible]; rfl)
  rw [toDocument, Document.at?, Document.field?_sortFields_reverse, hreverse, field?_map_cells]
  exact congrArg _ hlook

/-- The JSON form shows of a column what the accessor gives. -/
def ShowsAccessed (x : Instance) (column : String) : Prop :=
  x.toDocument.at? column = (x.attributes.value? column).map Value.toDocument

/-- The accessor gives the first value of a visible column and the JSON form shows the last one, so
that they agree exactly if both values have one JSON form. -/
theorem showsAccessed_iff (row : Row) (m : Model) {column : String}
    (hcolumn : column ∈ (ofRow row m.hidden).attributes.columns)
    (hvisible : (ofRow row m.hidden).isHidden column = false) :
    ∃ first last, row.First column first ∧ row.Last column last ∧
      (ofRow row m.hidden).attributes.value? column = some first ∧
      (ofRow row m.hidden).toDocument.at? column = some last.toDocument ∧
      ((ofRow row m.hidden).ShowsAccessed column ↔ last.toDocument = first.toDocument) := by
  obtain ⟨hkeeps, hrow⟩ := keeps_of_mem hcolumn
  have hreversed : column ∈ row.reversed.columns := by
    rw [Row.columns, Row.reversed, List.map_reverse, List.mem_reverse]
    exact hrow
  obtain ⟨first, hfirst⟩ := Row.exists_value? hrow
  obtain ⟨last, hlast⟩ := Row.exists_value? hreversed
  have haccessed : (ofRow row m.hidden).attributes.value? column = some first := by
    rw [value?_ofRow hkeeps, hfirst]
  have hshown : (ofRow row m.hidden).toDocument.at? column = some last.toDocument := by
    rw [at?_toDocument _ hvisible, value?_reversed_ofRow hkeeps, hlast]
    rfl
  refine ⟨first, last, Row.first_of_value? hfirst, Row.last_of_value?_reversed hlast, haccessed,
    hshown, ?_⟩
  rw [ShowsAccessed, haccessed, hshown, Option.map_some, Option.some.injEq]

/-- A user joined to a session, with a second column of the name `id` and one named like a
declaration. -/
def joinedRow : Row :=
  ⟨[("id", .int 1), ("name", .string "ada"), ("token", .bytes [7]), ("hidden", .bool true),
    ("id", .int 2), ("name", .string "ada")]⟩

def users : Model where
  table := "users"
  hidden := ["token"]

theorem showsAccessed_iff_joinedRow :
    "name" ∈ (ofRow joinedRow users.hidden).attributes.columns ∧
    (ofRow joinedRow users.hidden).isHidden "name" = false ∧
    ∃ first last, joinedRow.First "name" first ∧ joinedRow.Last "name" last ∧
      (ofRow joinedRow users.hidden).attributes.value? "name" = some first ∧
      (ofRow joinedRow users.hidden).toDocument.at? "name" = some last.toDocument ∧
      ((ofRow joinedRow users.hidden).ShowsAccessed "name" ↔
        last.toDocument = first.toDocument) := by
  have hcolumn : "name" ∈ (ofRow joinedRow users.hidden).attributes.columns := by decide
  have hvisible : (ofRow joinedRow users.hidden).isHidden "name" = false := by decide
  exact ⟨hcolumn, hvisible, showsAccessed_iff joinedRow users hcolumn hvisible⟩

theorem accessed_not_shown :
    "id" ∈ (ofRow joinedRow users.hidden).attributes.columns ∧
    (ofRow joinedRow users.hidden).isHidden "id" = false ∧
    (ofRow joinedRow users.hidden).attributes.value? "id" = some (.int 1) ∧
    (ofRow joinedRow users.hidden).toDocument.at? "id" = some (Document.ofInt64 2) ∧
    ¬(ofRow joinedRow users.hidden).ShowsAccessed "id" := by
  have hshown : (ofRow joinedRow users.hidden).toDocument.at? "id" =
      some (Document.ofInt64 2) := rfl
  refine ⟨by decide, by decide, rfl, hshown, fun h => ?_⟩
  rw [ShowsAccessed, hshown] at h
  have hone : Document.ofInt64 2 = Document.ofInt64 1 := Option.some.inj h
  have hint := congrArg (fun d => Document.same d (Document.ofInt64 2)) hone
  revert hint
  decide

/-! ## Hidden columns -/

/-- Whether nothing is shown of a column: it is hidden or named like a declaration. -/
def Withheld (hidden : List String) (column : String) : Prop :=
  column ∈ hidden ∨ column ∈ ["fillable", "guarded", "hidden", "timestamp"]

instance (hidden : List String) (column : String) : Decidable (Withheld hidden column) :=
  inferInstanceAs (Decidable (_ ∨ _))

/-- The columns of a row of which something is shown, each with the JSON form of its value. -/
def shown (hidden : List String) (row : Row) : List (String × Document) :=
  (row.cells.filter fun cell => ¬Withheld hidden cell.1).map
    fun cell => (cell.1, cell.2.toDocument)

/-- Cells that differ in columns only of which nothing is shown: there may be such columns more or
less, in other places and with other values. -/
inductive SameShown (hidden : List String) :
    List (String × Value) → List (String × Value) → Prop where
  | nil : SameShown hidden [] []
  | both (cell : String × Value) {cells others : List (String × Value)} :
      SameShown hidden cells others → SameShown hidden (cell :: cells) (cell :: others)
  | left {cell : String × Value} {cells others : List (String × Value)} :
      Withheld hidden cell.1 → SameShown hidden cells others →
      SameShown hidden (cell :: cells) others
  | right {cell : String × Value} {cells others : List (String × Value)} :
      Withheld hidden cell.1 → SameShown hidden cells others →
      SameShown hidden cells (cell :: others)

/-- The fields of an object in which of several entries with one key the last stays. -/
structure Collects (entries fields : List (String × Document)) : Prop where
  ordered : Document.keysAscend fields = true
  last : ∀ key, field? key fields = field? key entries.reverse

/-- What the two JSON forms of an instance have to keep to themselves. -/
structure Conceals (hidden : List String) (row : Row) : Prop where
  entries : (ofRow row hidden).serialize.entries = shown hidden row
  announced : (ofRow row hidden).serialize.announced = (shown hidden row).length
  /-- The object of the one form is collected from the entries of the other. -/
  collected : ∀ fields, (ofRow row hidden).toDocument = .object fields ↔
    Collects (ofRow row hidden).serialize.entries fields
  unaffected : ∀ other : Row, SameShown hidden row.cells other.cells →
    (ofRow row hidden).serialized.write = (ofRow other hidden).serialized.write ∧
    (ofRow row hidden).toDocument = (ofRow other hidden).toDocument

theorem shown_eq_of_sameShown {row other : Row} (h : SameShown hidden row.cells other.cells) :
    shown hidden row = shown hidden other := by
  obtain ⟨cells⟩ := row
  obtain ⟨others⟩ := other
  dsimp only at h
  unfold shown
  induction h with
  | nil => rfl
  | both cell _ ih =>
    by_cases hcell : Withheld hidden cell.1
    · simpa [hcell] using ih
    · simpa [hcell] using ih
  | left hcell _ ih => simpa [hcell] using ih
  | right hcell _ ih => simpa [hcell] using ih

theorem collects_iff_eq_sortFields {entries fields : List (String × Document)} :
    Collects entries fields ↔ fields = sortFields entries := by
  constructor
  · intro h
    refine Document.eq_of_field? h.ordered (Document.keysAscend_sortFields entries) fun key => ?_
    rw [h.last key, Document.field?_sortFields_reverse]
  · rintro rfl
    exact ⟨Document.keysAscend_sortFields entries, fun key =>
      Document.field?_sortFields_reverse entries⟩

/-- The test at hydration and the one at output together decide whether something is shown. -/
theorem visible_ofRow (row : Row) (hidden : List String) :
    (ofRow row hidden).visible = shown hidden row := by
  have htest : ∀ cell : String × Value,
      (!(ofRow row hidden).isHidden cell.1 && keeps cell.1) =
        decide (¬Withheld hidden cell.1) := by
    intro cell
    rw [Bool.eq_iff_iff]
    simp [isHidden, ofRow, keeps, declarationNames, Withheld]
  rw [visible, shown, ofRow, List.filter_filter]
  exact congrArg _ (List.filter_congr fun cell _ => htest cell)

theorem filterMap_visibleField? (x : Instance) :
    x.attributes.cells.filterMap x.visibleField? = x.visible := by
  have hentry : x.visibleField? = fun cell =>
      if (!x.isHidden cell.1) = true then some (cell.1, cell.2.toDocument) else none := by
    funext cell
    rw [visibleField?]
    cases x.isHidden cell.1 <;> rfl
  rw [visible, ← List.filterMap_eq_map, List.filterMap_filter, hentry]
  rfl

/-- Every visible column is announced and then told. -/
theorem serialize_eq (x : Instance) : x.serialize = ⟨x.visible.length, x.visible⟩ := by
  rw [serialize, filterMap_visibleField?, visible, List.length_map]

/-- Of a row the hidden columns and those named like a declaration are concealed, whatever else the
row has, and the two JSON forms agree on the others. -/
theorem conceals (hidden : List String) (row : Row) : Conceals hidden row where
  entries := by rw [serialize_eq, visible_ofRow]
  announced := by rw [serialize_eq, visible_ofRow]
  collected := by
    intro fields
    rw [collects_iff_eq_sortFields, serialize_eq, toDocument, Document.object.injEq]
    exact eq_comm
  unaffected := by
    intro other hother
    have hsame : (ofRow row hidden).visible = (ofRow other hidden).visible := by
      rw [visible_ofRow, visible_ofRow, shown_eq_of_sameShown hother]
    constructor
    · rw [serialized, serialized, serialize_eq, serialize_eq, hsame]
    · rw [toDocument, toDocument, hsame]

end Instance

end FluentSql
