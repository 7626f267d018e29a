import FluentSql.Proofs.Query.Section

/-!
# Written INSERT and UPDATE statements

The text of a statement that writes, from the columns that it names, and its parameters. Both
are read off the parts of the statement.
-/

namespace FluentSql

open FluentSql.Text

namespace Part

theorem textOf_listed (parts : List Part) :
    textOf (listed parts) = (commaList (parts.map (·.text))).toList := by
  induction parts with
  | nil => rfl
  | cons p parts ih =>
    cases parts with
    | nil => exact List.append_nil p.text.toList
    | cons next rest =>
      have hlisted : textOf (listed (p :: next :: rest)) =
          (p.text ++ ", ").toList ++ textOf (listed (next :: rest)) := rfl
      rw [hlisted, ih, ← String.toList_append]
      rfl

theorem valuesOf_listed (parts : List Part) : valuesOf (listed parts) = valuesOf parts := by
  induction parts with
  | nil => rfl
  | cons p parts ih =>
    cases parts with
    | nil => rfl
    | cons next rest =>
      have hlisted : valuesOf (listed (p :: next :: rest)) =
          p.values ++ valuesOf (listed (next :: rest)) := rfl
      rw [hlisted, ih]
      rfl

theorem textOf_plain_cons (s : String) (parts : List Part) :
    textOf (plain s :: parts) = s.toList ++ textOf parts := rfl

theorem valuesOf_plain_cons (s : String) (parts : List Part) :
    valuesOf (plain s :: parts) = valuesOf parts := rfl

theorem Cut.renderAll_eq {fs : List Fragment} {parts : List Part} (h : Cut fs parts)
    {text : String} (htext : textOf parts = text.toList) : Fragment.renderAll fs = text :=
  String.toList_injective (h.textOf_eq.symm.trans htext)

end Part

namespace QueryState

def joinText (d : Dialect) (q : QueryState) : String :=
  concat (q.joins.map (Join.sql d))

/-- The text of an INSERT that names the columns. -/
def insertText (table : String) (columns : List String) (rows : List Record) : String :=
  "INSERT INTO " ++ table ++ " (" ++ commaList columns ++ ") VALUES " ++
    commaList (rows.map fun _ => "(" ++ (commaList (columns.map fun _ => "?") ++ ")"))

/-- The text of an UPDATE that sets the columns. -/
def updateText (d : Dialect) (q : QueryState) (columns : List String) : String :=
  "UPDATE " ++ q.table ++ q.hintText d ++ q.joinText d ++ " SET " ++
    commaList (columns.map fun column => column ++ " = ?") ++ q.conditions.sql "WHERE"

theorem textOf_joinParts (d : Dialect) (q : QueryState) :
    Part.textOf (q.joinParts d) = (q.joinText d).toList := by
  unfold joinParts joinText
  induction q.joins with
  | nil => rfl
  | cons j joins ih =>
    rw [List.map_cons, List.map_cons, Part.textOf_plain_cons, ih, concat, String.toList_append]

theorem valuesOf_joinParts (d : Dialect) (q : QueryState) : Part.valuesOf (q.joinParts d) = [] := by
  unfold joinParts
  induction q.joins with
  | nil => rfl
  | cons j joins ih => rw [List.map_cons, Part.valuesOf_plain_cons, ih]

theorem textOf_insert (d : Dialect) (q : QueryState) (rows : List Record) :
    Part.textOf (q.parts d (.insert rows)) =
      (insertText q.table (columnUnion rows) rows).toList := by
  rw [parts, Part.textOf_plain_cons, Part.textOf_listed, List.map_map, ← String.toList_append]
  rfl

theorem textOf_update (d : Dialect) (q : QueryState) (data : Record) :
    Part.textOf (q.parts d (.update data)) = (q.updateText d data.columns).toList := by
  have hassignments : (data.entries.map assignmentPart).map (·.text) =
      data.columns.map fun column => column ++ " = ?" := by
    rw [List.map_map, Record.columns, List.map_map]
    refine List.map_congr_left fun entry _ => ?_
    exact String.append_assoc
  have hconditions : Part.textOf (q.conditions.parts "WHERE") =
      (q.conditions.sql "WHERE").toList := (Part.cut_conditions _ _).textOf_eq
  rw [parts, Part.textOf_append, List.cons_append, Part.textOf_plain_cons, Part.textOf_append,
    Part.textOf_plain_cons, Part.textOf_listed, textOf_joinParts, hassignments, hconditions,
    updateText]
  simp only [String.toList_append, List.append_assoc]

theorem valuesOf_update (d : Dialect) (q : QueryState) (data : Record) :
    Part.valuesOf (q.parts d (.update data)) =
      data.entries.map (fun entry => entry.2.getD .null) ++ q.conditions.values := by
  have hassignments : Part.valuesOf (data.entries.map assignmentPart) =
      data.entries.map fun entry => entry.2.getD .null := by
    rw [Part.valuesOf, List.flatMap_map, List.map_eq_flatMap]
    rfl
  rw [parts, Part.valuesOf_append, List.cons_append, Part.valuesOf_plain_cons,
    Part.valuesOf_append, Part.valuesOf_plain_cons, Part.valuesOf_listed, valuesOf_joinParts,
    hassignments, Conditions.valuesOf_parts]
  rfl

/-- A statement has the text and the values of its parts. -/
theorem compile_eq_of_parts {d : Dialect} {q : QueryState} (statement : Statement)
    {s : BoundStatement} (h : q.compile d statement = .ok s) {text : String}
    (htext : Part.textOf (q.parts d statement) = text.toList) :
    s = ⟨d.lowerPlaceholders text, Part.valuesOf (q.parts d statement)⟩ := by
  obtain ⟨fs, hfs, rfl⟩ := compile_ok h
  have hcut := Part.cut_fragments hfs
  rw [finish, hcut.renderAll_eq htext, hcut.valuesOf_eq]

theorem compileInsert_sql {d : Dialect} {q : QueryState} {rows : List Record} {s : BoundStatement}
    (h : compileInsert d q.table rows = .ok s) :
    s.sql = d.lowerPlaceholders (insertText q.table (columnUnion rows) rows) := by
  rw [compile_eq_of_parts (.insert rows) h (textOf_insert d q rows)]

theorem compileUpdate_ok_iff {d : Dialect} {q : QueryState} {data : Record} {s : BoundStatement} :
    q.compileUpdate d data = .ok s ↔
      data.entries ≠ [] ∧ (q.joins = [] ∨ d = .mySql) ∧
        s = ⟨d.lowerPlaceholders (q.updateText d data.columns),
          data.entries.map (fun entry => entry.2.getD .null) ++ q.conditions.values⟩ := by
  have hwritten : ∀ {s : BoundStatement}, q.compileUpdate d data = .ok s →
      s = ⟨d.lowerPlaceholders (q.updateText d data.columns),
        data.entries.map (fun entry => entry.2.getD .null) ++ q.conditions.values⟩ := by
    intro s h
    rw [compile_eq_of_parts (.update data) h (textOf_update d q data),
      valuesOf_update]
  have hadmits : (∃ s, q.compileUpdate d data = .ok s) ↔
      data.entries ≠ [] ∧ (q.joins = [] ∨ d = .mySql) := exists_compile_iff d q (.update data)
  constructor
  · intro h
    obtain ⟨hentries, hjoins⟩ := hadmits.mp ⟨s, h⟩
    exact ⟨hentries, hjoins, hwritten h⟩
  · rintro ⟨hentries, hjoins, hs⟩
    obtain ⟨s', h⟩ := hadmits.mpr ⟨hentries, hjoins⟩
    rw [h, hwritten h, hs]

end QueryState

end FluentSql
