import FluentSql.Proofs.Model.SoftDelete
import FluentSql.Proofs.Number.Digits
import FluentSql.Proofs.Query.Additions
import FluentSql.Proofs.Query.Writes

/-!
# The views of a query

What a query shows of itself, reads, counts, updates and deletes is about the same rows: each of
its statements has the same WHERE part with the same values, behind a text of its own. On
PostgreSQL the numbers in that part go on from what stands in front of it.
-/

namespace FluentSql

open FluentSql.Text

namespace QueryState

/-- The text of a SELECT up to its WHERE part. -/
def selectFront (d : Dialect) (q : QueryState) : String :=
  "SELECT " ++ q.fieldList ++ " FROM " ++ q.table ++ q.hintText d ++ q.joinText d

/-- The text of a SELECT behind its WHERE part. -/
def selectRear (d : Dialect) (q : QueryState) : String :=
  q.groupText ++ q.having.sql "HAVING" ++ (q.orderText ++ q.pageText d)

def updateFront (d : Dialect) (q : QueryState) (columns : List String) : String :=
  "UPDATE " ++ q.table ++ q.hintText d ++ q.joinText d ++ " SET " ++
    commaList (columns.map fun column => column ++ " = ?")

def deleteFront (d : Dialect) (q : QueryState) : String :=
  "DELETE " ++ (if q.joins.isEmpty then "" else q.deleteTarget ++ " ") ++ "FROM " ++ q.table ++
    q.joinText d

/-- The state that selects the number of rows. -/
def counting (q : QueryState) : QueryState :=
  { q with fields := ["COUNT(*) AS count"], orderBy := [], limit := none, offset := none }

theorem textOf_conditions (c : Conditions) (keyword : String) :
    Part.textOf (c.parts keyword) = (c.sql keyword).toList :=
  (Part.cut_conditions c keyword).textOf_eq

theorem compileSelect_eq (d : Dialect) (q : QueryState) :
    q.compileSelect d =
      ⟨d.lowerPlaceholders (q.selectFront d ++ q.conditions.sql "WHERE" ++ q.selectRear d),
        q.bindings⟩ := by
  have htext : Part.textOf (q.parts d .select) =
      (q.selectFront d ++ q.conditions.sql "WHERE" ++ q.selectRear d).toList := by
    simp only [parts, Part.textOf_append, Part.textOf_plain_cons, List.cons_append,
      textOf_joinParts, textOf_conditions, selectFront, selectRear, String.toList_append,
      List.append_assoc]
    simp only [Part.textOf, List.flatMap_nil, List.append_nil]
  have hvalues : Part.valuesOf (q.parts d .select) = q.bindings := by
    simp only [parts, Part.valuesOf_append, Part.valuesOf_plain_cons, List.cons_append,
      valuesOf_joinParts, Conditions.valuesOf_parts, bindings, List.nil_append]
    simp only [Part.valuesOf, List.flatMap_nil, List.append_nil]
  have h := compile_eq_of_parts .select (d := d) (q := q) rfl htext
  rw [hvalues] at h
  exact h

theorem compileDelete_eq {d : Dialect} {q : QueryState} {s : BoundStatement}
    (h : q.compileDelete d = .ok s) :
    (q.joins = [] ∨ d = .mySql) ∧
      s = ⟨d.lowerPlaceholders (q.deleteFront d ++ q.conditions.sql "WHERE"),
        q.conditions.values⟩ := by
  have htext : Part.textOf (q.parts d .delete) =
      (q.deleteFront d ++ q.conditions.sql "WHERE").toList := by
    simp only [parts, Part.textOf_append, Part.textOf_plain_cons, List.cons_append,
      textOf_joinParts, textOf_conditions, deleteFront, String.toList_append, List.append_assoc]
  have hvalues : Part.valuesOf (q.parts d .delete) = q.conditions.values := by
    simp only [parts, Part.valuesOf_append, Part.valuesOf_plain_cons, List.cons_append,
      valuesOf_joinParts, Conditions.valuesOf_parts, List.nil_append]
  have hs := compile_eq_of_parts .delete h htext
  rw [hvalues] at hs
  exact ⟨(exists_compile_iff d q .delete).mp ⟨s, h⟩, hs⟩

theorem compileCount_eq (d : Dialect) (q : QueryState) :
    q.compileCount d = q.counting.compileSelect d := by
  have hlead : "SELECT " ++ q.counting.fieldList ++ " FROM " ++ q.table =
      "SELECT COUNT(*) AS count FROM " ++ q.table := rfl
  have hfragments : q.counting.selectFragments d = q.countFragments d ++ [.text ""] := by
    show .text ("SELECT " ++ q.counting.fieldList ++ " FROM " ++ q.table) ::
      q.sourceFragments d ++ q.groupFragments ++ [.text ""] = _
    rw [hlead]
    rfl
  have hrender : Fragment.renderAll (q.counting.selectFragments d) =
      Fragment.renderAll (q.countFragments d) := by
    rw [hfragments, Fragment.renderAll_append, Fragment.renderAll_singleton]
    exact String.append_empty
  have hvalues : Fragment.values (q.counting.selectFragments d) =
      Fragment.values (q.countFragments d) := by
    rw [hfragments, Fragment.values_append]
    exact List.append_nil _
  rw [compileCount, compileSelect, finish, finish, hrender, hvalues]

theorem counting_guardReads (q : QueryState) : q.counting.guardReads = q.guardReads.counting := by
  have hsame : q.counting.conditions = q.conditions := rfl
  unfold guardReads
  rw [hsame]
  split <;> rfl

theorem liveRows_mem_iff (q : QueryState) :
    Model.liveRows ∈ q.conditions.predicates .and ↔
      q.conditions.contains Model.liveRows = true := by
  unfold Conditions.contains Conditions.predicates Conditions.bucket
  rw [List.any_eq_true, List.mem_map]
  constructor
  · rintro ⟨clause, hmem, hclause⟩
    exact ⟨clause, hmem, by rw [hclause]; rfl⟩
  · rintro ⟨clause, hmem, hsame⟩
    exact ⟨clause, hmem, Predicate.same_liveRows hsame⟩

theorem guardReads_of_mem {q : QueryState} (h : Model.liveRows ∈ q.conditions.predicates .and) :
    q.guardReads = q := by
  rw [guardReads, if_pos (q.liveRows_mem_iff.mp h)]

theorem predicates_guardReads_of_not_mem {q : QueryState}
    (h : Model.liveRows ∉ q.conditions.predicates .and) (k : Connective) :
    q.guardReads.conditions.predicates k =
      q.conditions.predicates k ++ if k = .and then [Model.liveRows] else [] := by
  rw [guardReads, if_neg fun hcontains => h (q.liveRows_mem_iff.mpr hcontains)]
  exact Conditions.predicates_addAnd _ _ _ k

/-- A guarded query asks for live rows once. -/
theorem guardReads_guardReads (q : QueryState) : q.guardReads.guardReads = q.guardReads := by
  apply guardReads_of_mem
  obtain ⟨clause, hmem, hclause⟩ := q.exists_liveRows
  exact List.mem_map.mpr ⟨clause, hmem, hclause⟩

section Marks

variable {d : Dialect} {q : QueryState} {k : Nat}

theorem marks_table (hnumbered : d.isNumbered = true) (hjoins : q.joins = [])
    (htable : Marks k q.table) : Marks k (q.table ++ q.hintText d ++ q.joinText d) := by
  have hnone : q.hintText d ++ q.joinText d = "" := by
    have hhints : q.hintText d = "" := by
      cases d with
      | postgreSql => simp [hintText]
      | _ => cases hnumbered
    rw [hhints, joinText, hjoins]
    rfl
  rw [String.append_assoc, hnone, String.append_empty]
  exact htable

theorem marks_selectFront (hnumbered : d.isNumbered = true) (hjoins : q.joins = [])
    (htable : Marks k q.table) (hfields : Closed q.fieldList) : Marks k (q.selectFront d) := by
  have hverb : Marks 0 "SELECT " := by decide
  have hfrom : Marks 0 " FROM " := by decide
  have h := ((hverb.append hfields.marks).append hfrom).append (marks_table hnumbered hjoins htable)
  simpa [selectFront, String.append_assoc] using h

theorem marks_updateFront (hnumbered : d.isNumbered = true) (hjoins : q.joins = [])
    (htable : Marks k q.table) {columns : List String} (hcolumns : ∀ c ∈ columns, Closed c) :
    Marks (k + columns.length) (q.updateFront d columns) := by
  have hverb : Marks 0 "UPDATE " := by decide
  have hset : Marks 0 " SET " := by decide
  have hassign : Marks 1 " = ?" := by decide
  have hassignments : Marks columns.length
      (commaList (columns.map fun column => column ++ " = ?")) := by
    have hparts : ∀ s ∈ columns.map (fun column => column ++ " = ?"), Marks 1 s := by
      intro s hs
      obtain ⟨c, hc, rfl⟩ := List.mem_map.mp hs
      simpa using (hcolumns c hc).marks.append hassign
    simpa using marks_commaList hparts
  have h := ((hverb.append (marks_table hnumbered hjoins htable)).append hset).append hassignments
  simpa [updateFront, String.append_assoc] using h

theorem marks_deleteFront (hjoins : q.joins = []) (htable : Marks k q.table) :
    Marks k (q.deleteFront d) := by
  have hverb : Marks 0 "DELETE FROM " := by decide
  have hfront : q.deleteFront d = "DELETE FROM " ++ q.table := by
    rw [deleteFront, joinText, hjoins]
    exact String.append_empty
  rw [hfront]
  simpa using hverb.append htable

end Marks

end QueryState

/-- The terminals that change rows of the query. -/
def Terminal.Changes : Terminal → Prop
  | .update _ | .delete => True
  | _ => False

namespace Query

/-- The WHERE part of a query. -/
def whereText (q : Query) : String :=
  q.readState.conditions.sql "WHERE"

/-- The query for the number of rows. -/
def counting (q : Query) : Query :=
  { q with state := q.state.counting }

/-- What a terminal sets, if it sets anything. -/
def payload? (q : Query) (now : DateTime) : Terminal → Option Record
  | .update data => some data
  | .delete => if q.softDelete then some (Model.deletion now) else none
  | _ => none

/-- The text of an UPDATE or DELETE up to its WHERE part. -/
def changeFront (q : Query) (now : DateTime) (t : Terminal) : String :=
  match q.payload? now t with
  | some data => q.readState.updateFront q.dialect data.columns
  | none => q.readState.deleteFront q.dialect

def setValues (q : Query) (now : DateTime) (t : Terminal) : List Value :=
  match q.payload? now t with
  | some data => data.entries.map fun entry => entry.2.getD .null
  | none => []

variable {q : Query} {now : DateTime} {t : Terminal} {s : BoundStatement}

theorem readState_of_not_soft (h : q.softDelete = false) : q.readState = q.state := by
  rw [readState, if_neg (by simp [h])]

theorem readState_counting (q : Query) : q.counting.readState = q.readState.counting := by
  have hsoft : q.counting.softDelete = q.softDelete := rfl
  unfold readState
  rw [hsoft]
  split
  · exact q.state.counting_guardReads
  · rfl

theorem selection_counting (q : Query) :
    q.readState.compileCount q.dialect = ⟨q.counting.toSql, q.bindings⟩ := by
  have hselection : q.counting.selection = q.readState.compileCount q.dialect := by
    rw [selection, readState_counting, QueryState.compileCount_eq]
    rfl
  rw [← hselection, toSql, selection, QueryState.compileSelect_eq, readState_counting]
  rfl

theorem compileUpdate_of_modification {data : Record} (h : q.modification data = .ok s) :
    q.readState.compileUpdate q.dialect data = .ok s := by
  unfold modification at h
  cases hmodel : q.model with
  | none =>
    rw [hmodel] at h
    exact h
  | some m =>
    rw [hmodel] at h
    obtain ⟨_, _, h⟩ := ok_of_bind h
    exact h

/-- An UPDATE or DELETE that is sent. -/
theorem statement_of_changes (ht : t.Changes) (hs : q.statement now t = .ok s) :
    (q.readState.joins = [] ∨ q.dialect = .mySql) ∧
      s = ⟨q.dialect.lowerPlaceholders (q.changeFront now t ++ q.whereText),
        q.setValues now t ++ q.readState.conditions.values⟩ := by
  have hupdate : ∀ data, q.payload? now t = some data → q.modification data = .ok s →
      (q.readState.joins = [] ∨ q.dialect = .mySql) ∧
        s = ⟨q.dialect.lowerPlaceholders (q.changeFront now t ++ q.whereText),
          q.setValues now t ++ q.readState.conditions.values⟩ := by
    intro data hdata h
    obtain ⟨_, hjoins, rfl⟩ :=
      QueryState.compileUpdate_ok_iff.mp (compileUpdate_of_modification h)
    refine ⟨hjoins, ?_⟩
    rw [changeFront, setValues, hdata]
    rfl
  cases t with
  | update data => exact hupdate data rfl hs
  | delete =>
    unfold statement at hs
    cases hsoft : q.softDelete with
    | true =>
      rw [hsoft] at hs
      exact hupdate (Model.deletion now) (by simp [payload?, hsoft]) hs
    | false =>
      rw [hsoft, ← readState_of_not_soft hsoft] at hs
      obtain ⟨hjoins, rfl⟩ := QueryState.compileDelete_eq hs
      refine ⟨hjoins, ?_⟩
      simp [changeFront, setValues, payload?, hsoft, whereText]
  | _ => exact ht.elim

/-- Where placeholders are numbered: nothing in front of a WHERE part takes a number that is not
for a value that is set. -/
structure Uncounted (q : Query) (data : Option Record) : Prop where
  table : quotedAfter false q.readState.table.toList = false
  fields : Closed q.readState.fieldList
  columns : ∀ r ∈ data, ∀ c ∈ r.columns, Closed c

/-- What the views of a query have in common. -/
structure Views (α : Type) [Hydrates α] (q : Query) (now : DateTime) : Prop where
  get : (q.get α).Asks ⟨q.toSql, q.bindings⟩
  count : q.count.Asks ⟨q.counting.toSql, q.bindings⟩
  selected : q.toSql.toList =
    (q.dialect.lowerPlaceholders (q.readState.selectFront q.dialect)).toList ++
      q.dialect.writtenBehind (q.readState.selectFront q.dialect) q.whereText ++
      q.dialect.writtenBehind (q.readState.selectFront q.dialect ++ q.whereText)
        (q.readState.selectRear q.dialect)
  bound : q.bindings = q.readState.conditions.values ++ q.readState.having.values
  changed : ∀ (t : Terminal) s, t.Changes → (q.perform α now t).Asks s →
    s.sql.toList = (q.dialect.lowerPlaceholders (q.changeFront now t)).toList ++
      q.dialect.writtenBehind (q.changeFront now t) q.whereText ∧
    s.params = q.setValues now t ++ q.readState.conditions.values
  /-- The numbers of a change are those of the SELECT, shifted by the values that it sets. -/
  shifted : ∀ (t : Terminal) s, t.Changes → (q.perform α now t).Asks s →
    (q.dialect.isNumbered = true → q.Uncounted (q.payload? now t)) →
    ∃ n, q.dialect.writtenBehind (q.readState.selectFront q.dialect) q.whereText =
        q.dialect.written n q.whereText.toList ∧
      q.dialect.writtenBehind (q.changeFront now t) q.whereText =
        q.dialect.written (n + (q.setValues now t).length) q.whereText.toList
  unguarded : q.softDelete = false → q.readState = q.state
  present : q.softDelete = true → Model.liveRows ∈ q.state.conditions.predicates .and →
    q.readState = q.state
  guarded : q.softDelete = true → Model.liveRows ∉ q.state.conditions.predicates .and →
    ∀ k, q.readState.conditions.predicates k =
      q.state.conditions.predicates k ++ if k = .and then [Model.liveRows] else []
  /-- Reading a query that was read before adds nothing. -/
  stable : { q with state := q.readState }.readState = q.readState

theorem written_shifted (hjoins : q.readState.joins = [] ∨ q.dialect = .mySql)
    (h : q.dialect.isNumbered = true → q.Uncounted (q.payload? now t)) :
    ∃ n, q.dialect.writtenBehind (q.readState.selectFront q.dialect) q.whereText =
        q.dialect.written n q.whereText.toList ∧
      q.dialect.writtenBehind (q.changeFront now t) q.whereText =
        q.dialect.written (n + (q.setValues now t).length) q.whereText.toList := by
  obtain ⟨k, hk⟩ : ∃ k, openCount '?' false q.readState.table.toList = k := ⟨_, rfl⟩
  have hnone : q.dialect.isNumbered = true → q.readState.joins = [] := by
    intro hnumbered
    refine hjoins.resolve_right fun hmySql => ?_
    rw [hmySql] at hnumbered
    cases hnumbered
  have htable : q.dialect.isNumbered = true → Marks k q.readState.table :=
    fun hnumbered => ⟨(h hnumbered).table, hk⟩
  have hselect : q.dialect.isNumbered = true → Marks k (q.readState.selectFront q.dialect) :=
    fun hnumbered => QueryState.marks_selectFront hnumbered (hnone hnumbered) (htable hnumbered)
      (h hnumbered).fields
  have hchange : q.dialect.isNumbered = true →
      Marks (k + (q.setValues now t).length) (q.changeFront now t) := by
    intro hnumbered
    unfold changeFront setValues
    cases hdata : q.payload? now t with
    | none => exact QueryState.marks_deleteFront (hnone hnumbered) (htable hnumbered)
    | some data =>
      have hcolumns := (h hnumbered).columns data hdata
      have hmarks := QueryState.marks_updateFront hnumbered (hnone hnumbered) (htable hnumbered)
        hcolumns
      simpa [Record.columns] using hmarks
  refine ⟨1 + k, q.dialect.writtenBehind_of_marks hselect _, ?_⟩
  rw [Nat.add_assoc]
  exact q.dialect.writtenBehind_of_marks hchange _

/-- All views of a query select its rows by one WHERE part with one list of values. -/
theorem views (α : Type) [Hydrates α] (q : Query) (now : DateTime) : Views α q now := by
  have hselection : q.selection =
      ⟨q.dialect.lowerPlaceholders (q.readState.selectFront q.dialect ++ q.whereText ++
        q.readState.selectRear q.dialect), q.bindings⟩ := q.readState.compileSelect_eq q.dialect
  constructor
  case get =>
    have hshown : q.selection = ⟨q.toSql, q.bindings⟩ := by rw [toSql, hselection]
    rw [← hshown]
    exact asks_get α q
  case count =>
    rw [← selection_counting]
    exact perform_follows α q now .count
  case selected =>
    rw [toSql, hselection, Dialect.toList_lowerPlaceholders_append,
      Dialect.toList_lowerPlaceholders_append]
  case bound => rfl
  case changed =>
    intro t s ht hs
    obtain ⟨_, rfl⟩ := statement_of_changes ht (statement_of_asks hs)
    exact ⟨q.dialect.toList_lowerPlaceholders_append _ _, rfl⟩
  case shifted =>
    intro t s ht hs huncounted
    exact written_shifted (statement_of_changes ht (statement_of_asks hs)).1 huncounted
  case unguarded => exact readState_of_not_soft
  case present =>
    intro hsoft hmem
    rw [readState_of_soft hsoft, QueryState.guardReads_of_mem hmem]
  case guarded =>
    intro hsoft hmem k
    rw [readState_of_soft hsoft, QueryState.predicates_guardReads_of_not_mem hmem]
  case stable =>
    have hsame : ({ q with state := q.readState } : Query).softDelete = q.softDelete := rfl
    cases hsoft : q.softDelete with
    | false => rw [readState_of_not_soft (hsame.trans hsoft)]
    | true =>
      rw [readState_of_soft (hsame.trans hsoft), readState_of_soft hsoft]
      exact QueryState.guardReads_guardReads _

/-- Posts with `a = 1`, on PostgreSQL. -/
def onePosts (fields : List String) : Query :=
  ⟨.postgreSql, none, ⟨"posts", fields, ⟨[⟨.compare "a" .eq (.int 1), none⟩], []⟩,
    [], [], .empty, [], none, none, []⟩⟩

def titling : Record :=
  ⟨[("title", some (.string "x"))]⟩

/-- The number of the SELECT, and the next one in the UPDATE that sets one value. -/
theorem views_onePosts :
    ∃ n, Dialect.writtenBehind .postgreSql "SELECT * FROM posts" " WHERE a = ?" =
        Dialect.written .postgreSql n " WHERE a = ?".toList ∧
      Dialect.writtenBehind .postgreSql "UPDATE posts SET title = ?" " WHERE a = ?" =
        Dialect.written .postgreSql (n + 1) " WHERE a = ?".toList := by
  have huncounted : (onePosts []).Uncounted (some titling) := by
    refine ⟨by decide, by decide, ?_⟩
    rintro r hr
    obtain rfl := Option.some.inj hr
    decide
  exact (views Row (onePosts []) ⟨default, default⟩).shifted (.update titling) _ trivial
    (asks_of_statement Row rfl) fun _ => huncounted

/-- A column that is tested by an operator takes the first number of the SELECT. The UPDATE, which
sets one value, has the numbers of the SELECT and not those shifted by one. -/
theorem onePosts_not_shifted :
    ((onePosts ["data ? 'k'"]).get Row).Asks
        ⟨"SELECT data $1 'k' FROM posts WHERE a = $2", [.int 1]⟩ ∧
      ((onePosts ["data ? 'k'"]).perform Row ⟨default, default⟩ (.update titling)).Asks
        ⟨"UPDATE posts SET title = $1 WHERE a = $2", [.string "x", .int 1]⟩ ∧
      ¬ ∃ n, Dialect.writtenBehind .postgreSql "SELECT data ? 'k' FROM posts" " WHERE a = ?" =
          Dialect.written .postgreSql n " WHERE a = ?".toList ∧
        Dialect.writtenBehind .postgreSql "UPDATE posts SET title = ?" " WHERE a = ?" =
          Dialect.written .postgreSql (n + 1) " WHERE a = ?".toList := by
  refine ⟨asks_get Row _, asks_of_statement Row rfl, ?_⟩
  rintro ⟨n, hselect, hupdate⟩
  have hmarked : Marks 1 "SELECT data ? 'k' FROM posts" := by decide
  have hset : Marks 1 "UPDATE posts SET title = ?" := by decide
  rw [Dialect.writtenBehind_of_marks _ fun _ => hmarked] at hselect
  rw [Dialect.writtenBehind_of_marks _ fun _ => hset] at hupdate
  have hwritten : ∀ n, Dialect.written .postgreSql n " WHERE a = ?".toList =
      " WHERE a = $".toList ++ (Nat.toDigits 10 n ++ []) := fun _ => rfl
  rw [hupdate, hwritten, hwritten, List.append_right_inj, List.append_left_inj] at hselect
  have hnumber := congrArg Integer.readNat? hselect
  rw [Integer.readNat?_toDigits, Integer.readNat?_toDigits] at hnumber
  exact absurd (Option.some.inj hnumber) (Nat.succ_ne_self n)

end Query

end FluentSql
