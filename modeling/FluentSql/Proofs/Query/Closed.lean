import FluentSql.Proofs.Clause.Fragment
import FluentSql.Proofs.Join.Operand
import FluentSql.Proofs.Query.Fragments
import FluentSql.Proofs.Query.Vocabulary

/-!
# Statements of closed texts

When tables and join targets are free of quotes and question marks, and every other
text that a caller wrote has balanced quotes and no open question mark, each statement
is composed of closed fragments. Join literals and bound values are arbitrary.
-/

namespace FluentSql

open FluentSql.Text

/-- Texts that cannot be taken for a placeholder or leave a literal open. -/
def Vocabulary.closed : Vocabulary where
  table := Free
  column := Closed
  fragment := Closed
  table_trim _ h := h.trim
  table_word _ h _ hw := h.word hw
  fragment_trim _ h := h.trim

/-- A stored predicate names a column that was closed before it was trimmed. -/
theorem Predicate.Within.closed_column {p : Predicate} (h : p.Within .closed) :
    Text.Closed p.column := by
  obtain ⟨f, hf, hp⟩ := h
  rw [(Filter.column_of_predicate hp).1]
  exact Closed.trim hf

namespace Conditions

/-- Conditions copy their columns and fixed texts; their values are slots. -/
theorem copies_fragments {P : String → Prop} (hP : Composed P) {c : Conditions}
    (h : ∀ clause ∈ c.clauses, P clause.predicate.column) {keyword : String}
    (hkeyword : P keyword) : ∀ f ∈ c.fragments keyword, f.Copies P := by
  have hblank : P " " := hP.free (by decide)
  unfold fragments
  cases hclauses : c.clauses with
  | nil =>
    intro f hf
    cases hf
  | cons first rest =>
    rw [hclauses] at h
    obtain ⟨hfirst, hrest⟩ := List.forall_mem_cons.mp h
    intro f hf
    dsimp only at hf
    rw [List.cons_append, List.mem_cons, List.mem_append] at hf
    obtain rfl | hf | hf := hf
    · exact hP.append (hP.append hblank hkeyword) hblank
    · exact Predicate.copies_fragments hP hfirst f hf
    · obtain ⟨clause, hm, hf⟩ := List.mem_flatMap.mp hf
      obtain rfl | hf := List.mem_cons.mp hf
      · have hjoint : P (connectiveText clause.connective) := by
          cases clause.connective with
          | none => exact hP.free (by decide)
          | some k => exact hP.free (by cases k <;> decide)
        exact hP.append (hP.append hblank hjoint) hblank
      · exact Predicate.copies_fragments hP (hrest clause hm) f hf

theorem closed_fragments {c : Conditions} (h : c.Within .closed) {keyword : String}
    (hkeyword : Closed keyword) : ∀ f ∈ c.fragments keyword, f.Closed :=
  fun f hf => (copies_fragments closed_composed (fun clause hm => (h clause hm).closed_column)
    hkeyword f hf).closed

end Conditions

/-- The text in front of an operand, without the blank at its end. -/
def OnCondition.front (c : OnCondition) : String :=
  (match c.connective with
    | none => " ON "
    | some k => " " ++ k.sql ++ " ") ++ c.column ++ " " ++ c.operator.sql

theorem OnCondition.composed_front {P : String → Prop} (hP : Composed P) {c : OnCondition}
    (h : P c.column) : P c.front := by
  have hlead : P (match c.connective with
      | none => " ON "
      | some k => " " ++ k.sql ++ " ") := by
    cases c.connective with
    | none => exact hP.free (by decide)
    | some k => exact hP.free (by cases k <;> decide)
  have hop : P c.operator.sql := hP.free (by cases c.operator <;> decide)
  exact hP.append (hP.append (hP.append hlead h) (hP.free (by decide))) hop

/-- Index hints in either spelling. -/
theorem composed_hints {P : String → Prop} (hP : Composed P) {d : Dialect} {names : List String}
    (h : ∀ name ∈ names, P name) {lead : String} (hlead : P lead) :
    P (if d = .mySql ∧ names ≠ [] then lead ++ commaList names ++ ")" else "") := by
  split
  · exact hP.append (hP.append hlead (hP.commaList h)) (hP.free (by decide))
  · exact hP.free (by decide)

namespace Join

/-- The text of a join in front of its conditions. -/
def front (d : Dialect) (j : Join) : String :=
  " " ++ j.kind.sql ++ " " ++ j.target.sql ++ hintText d j.indexHints

theorem composed_front {P : String → Prop} (hP : Composed P) {j : Join} (d : Dialect)
    (htable : P j.target.table) (halias : ∀ name ∈ j.target.aliasName, P name)
    (hhints : ∀ name ∈ j.indexHints, P name) : P (j.front d) := by
  have hblank : P " " := hP.free (by decide)
  have hkind : P j.kind.sql := hP.free (by cases j.kind <;> decide)
  have htarget : P j.target.sql := by
    unfold JoinTarget.sql
    cases hname : j.target.aliasName with
    | none => exact htable
    | some name =>
      exact hP.append (hP.append htable (hP.free (by decide))) (halias name hname)
  have hhint : P (hintText d j.indexHints) := composed_hints hP hhints (hP.free (by decide))
  exact hP.append (hP.append (hP.append (hP.append hblank hkind) hblank) htarget) hhint

theorem closed_fragments {j : Join} (h : j.Within .closed) (d : Dialect) :
    ∀ f ∈ j.fragments d, f.Closed := by
  intro f hf
  obtain rfl | hf := List.mem_cons.mp hf
  · exact composed_front closed_composed d h.target.table.closed
      (fun name hname => (h.target.aliasName name hname).closed) h.indexHints
  · obtain ⟨c, hc, hf⟩ := List.mem_flatMap.mp hf
    simp only [List.mem_cons, List.not_mem_nil, or_false] at hf
    obtain rfl | rfl := hf
    · exact (OnCondition.composed_front closed_composed (h.on c hc).column).append (by decide)
    · obtain ⟨raw, hraw⟩ := (h.on c hc).operand
      rw [hraw]
      cases hread : Operand.read raw with
      | column name =>
        have hclosed := Operand.closed_render_read raw
        rw [hread] at hclosed
        exact hclosed
      | literal s => trivial

end Join

/-- Every column name that the payload of a statement mentions is closed. -/
def Statement.Closed : Statement → Prop
  | .select => True
  | .count => True
  | .insert rows => ∀ row ∈ rows, ∀ c ∈ row.columns, Text.Closed c
  | .update data => ∀ c ∈ data.columns, Text.Closed c
  | .delete => True

namespace QueryState

section Composed

variable {P : String → Prop} (hP : Composed P) {q : QueryState}
include hP

theorem composed_fieldList (h : ∀ c ∈ q.fields, P c) : P q.fieldList := by
  unfold fieldList
  split
  · exact hP.free (by decide)
  · exact hP.commaList h

theorem composed_groupText (h : ∀ c ∈ q.groupBy, P c) : P q.groupText := by
  unfold groupText
  split
  · exact hP.free (by decide)
  · exact hP.append (hP.free (by decide)) (hP.commaList h)

theorem composed_orderText (h : ∀ o ∈ q.orderBy, P o.column) : P q.orderText := by
  unfold orderText
  split
  · exact hP.free (by decide)
  · refine hP.append (hP.free (by decide)) (hP.commaList ?_)
    intro s hs
    obtain ⟨o, ho, rfl⟩ := List.mem_map.mp hs
    have hdirection : P o.direction.sql := hP.free (by cases o.direction <;> decide)
    exact hP.append (hP.append (h o ho) (hP.free (by decide))) hdirection

theorem composed_offsetText (offset : Option Nat) : P (offsetText offset) := by
  cases offset with
  | none => exact hP.free (by decide)
  | some n => exact hP.append (hP.free (by decide)) (hP.free (free_natText n))

theorem composed_pageText (d : Dialect) : P (q.pageText d) := by
  have hoffset := composed_offsetText hP
  unfold pageText
  split
  · exact hP.append (hP.append (hP.free (by decide)) (hP.free (free_natText _))) (hoffset _)
  · cases d with
    | mySql => exact hP.append (hP.free (by decide)) (hoffset _)
    | postgreSql => exact hoffset _
    | sqlite => exact hP.append (hP.free (by decide)) (hoffset _)
  · exact hP.free (by decide)

end Composed

section Fragments

variable {q : QueryState} (h : q.Within .closed) (d : Dialect)

include h

theorem closed_hintText : Text.Closed (q.hintText d) :=
  composed_hints closed_composed h.indexHints (by decide)

theorem closed_joinFragments : ∀ f ∈ q.joinFragments d, f.Closed := by
  intro f hf
  obtain ⟨j, hj, hf⟩ := List.mem_flatMap.mp hf
  exact Join.closed_fragments (h.joins j hj) d f hf

theorem closed_whereFragments : ∀ f ∈ q.conditions.fragments "WHERE", f.Closed :=
  Conditions.closed_fragments h.conditions (by decide)

theorem closed_sourceFragments : ∀ f ∈ q.sourceFragments d, f.Closed := by
  intro f hf
  rw [sourceFragments, List.cons_append, List.mem_cons, List.mem_append] at hf
  obtain rfl | hf | hf := hf
  · exact closed_hintText h d
  · exact closed_joinFragments h d f hf
  · exact closed_whereFragments h f hf

theorem closed_groupFragments : ∀ f ∈ q.groupFragments, f.Closed := by
  intro f hf
  obtain rfl | hf := List.mem_cons.mp hf
  · exact composed_groupText closed_composed h.groupBy
  · exact Conditions.closed_fragments h.having (by decide) f hf

theorem closed_selectFragments : ∀ f ∈ q.selectFragments d, f.Closed := by
  intro f hf
  simp only [selectFragments, List.cons_append, List.mem_cons, List.mem_append,
    List.not_mem_nil, or_false] at hf
  obtain rfl | (hf | hf) | rfl := hf
  · exact ((Closed.append (by decide) (composed_fieldList closed_composed h.fields)).append
      (by decide)).append h.table.closed
  · exact closed_sourceFragments h d f hf
  · exact closed_groupFragments h f hf
  · exact (composed_orderText closed_composed h.orderBy).append
      (composed_pageText closed_composed d)

theorem closed_countFragments : ∀ f ∈ q.countFragments d, f.Closed := by
  intro f hf
  simp only [countFragments, List.cons_append, List.mem_cons, List.mem_append] at hf
  obtain rfl | hf | hf := hf
  · exact Closed.append (by decide) h.table.closed
  · exact closed_sourceFragments h d f hf
  · exact closed_groupFragments h f hf

end Fragments

theorem closed_rowFragments (columns : List String) (rows : List Record) :
    ∀ f ∈ rowFragments columns rows, f.Closed := by
  induction rows with
  | nil =>
    intro f hf
    cases hf
  | cons row rows ih =>
    have hopen : Text.Closed "(" := by decide
    have hclose : Text.Closed ")" := by decide
    have hnext : Text.Closed "), " := by decide
    cases rows with
    | nil =>
      intro f hf
      simp only [rowFragments, List.cons_append, List.mem_cons, List.mem_append,
        List.not_mem_nil, or_false] at hf
      obtain rfl | hf | rfl := hf
      · exact hopen
      · exact (Fragment.copies_slots closed_composed _ f hf).closed
      · exact hclose
    | cons next rows =>
      intro f hf
      rw [rowFragments, List.cons_append, List.mem_cons, List.mem_append, List.mem_cons] at hf
      obtain rfl | hf | rfl | hf := hf
      · exact hopen
      · exact (Fragment.copies_slots closed_composed _ f hf).closed
      · exact hnext
      · exact ih f hf

theorem closed_assignmentFragments {entries : List (String × Option Value)}
    (h : ∀ entry ∈ entries, Text.Closed entry.1) :
    ∀ f ∈ assignmentFragments entries, f.Closed := by
  induction entries with
  | nil =>
    intro f hf
    cases hf
  | cons entry entries ih =>
    obtain ⟨c, v⟩ := entry
    have hname : Text.Closed (c ++ " = ") := (h (c, v) List.mem_cons_self).append (by decide)
    have hcomma : Text.Closed ", " := by decide
    have hrest := ih fun entry hm => h entry (List.mem_cons_of_mem _ hm)
    cases entries with
    | nil =>
      intro f hf
      simp only [assignmentFragments, List.mem_cons, List.not_mem_nil, or_false] at hf
      obtain rfl | rfl := hf
      · exact hname
      · trivial
    | cons next entries =>
      intro f hf
      rw [assignmentFragments, List.mem_cons, List.mem_cons, List.mem_cons] at hf
      obtain rfl | rfl | rfl | hf := hf
      · exact hname
      · trivial
      · exact hcomma
      · exact hrest f hf

/-- Statements of closed texts consist of closed fragments. -/
theorem closed_fragments {q : QueryState} (h : q.Within .closed) {statement : Statement}
    (hpayload : statement.Closed) {d : Dialect} {fs : List Fragment}
    (hfs : q.fragments d statement = .ok fs) : ∀ f ∈ fs, f.Closed := by
  cases statement with
  | select =>
    obtain rfl := Except.ok.inj hfs
    exact closed_selectFragments h d
  | count =>
    obtain rfl := Except.ok.inj hfs
    exact closed_countFragments h d
  | insert rows =>
    obtain ⟨_, rfl⟩ := insertFragments_ok_iff.mp hfs
    intro f hf
    obtain rfl | hf := List.mem_cons.mp hf
    · have hcolumns : ∀ c ∈ columnUnion rows, Text.Closed c := by
        intro c hc
        obtain ⟨row, hrow, hmem⟩ := mem_columnUnion.mp hc
        exact hpayload row hrow c hmem
      exact (((Closed.append (by decide) h.table.closed).append (by decide)).append
        (closed_composed.commaList hcolumns)).append (by decide)
    · exact closed_rowFragments _ _ f hf
  | update data =>
    obtain ⟨_, _, rfl⟩ := updateFragments_ok_iff.mp hfs
    intro f hf
    simp only [List.cons_append, List.mem_cons, List.mem_append] at hf
    obtain rfl | (hf | (rfl | hf)) | hf := hf
    · exact (Closed.append (by decide) h.table.closed).append (closed_hintText h d)
    · exact closed_joinFragments h d f hf
    · show Text.Closed " SET "
      decide
    · exact closed_assignmentFragments
        (fun entry hm => hpayload entry.1 (List.mem_map_of_mem hm)) f hf
    · exact closed_whereFragments h f hf
  | delete =>
    obtain ⟨_, rfl⟩ := deleteFragments_ok_iff.mp hfs
    intro f hf
    simp only [List.cons_append, List.mem_cons, List.mem_append] at hf
    obtain rfl | hf | hf := hf
    · have htarget : Text.Closed (if q.joins.isEmpty then "" else q.deleteTarget ++ " ") := by
        split
        · exact closed_empty
        · refine Closed.append ?_ (by decide)
          unfold deleteTarget
          cases hlast : (Text.words q.table).getLast? with
          | none => exact h.table.closed
          | some word => exact (h.table.word (List.mem_of_getLast? hlast)).closed
      exact ((Closed.append (by decide) htarget).append (by decide)).append h.table.closed
    · exact closed_joinFragments h d f hf
    · exact closed_whereFragments h f hf

end QueryState

end FluentSql
