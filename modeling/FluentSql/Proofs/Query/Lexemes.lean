import FluentSql.Proofs.Join.Lexemes
import FluentSql.Proofs.Query.Section
import FluentSql.Proofs.Text.Reader

/-!
# Lexemes of a SELECT

What the parts of a SELECT around its conditions are cut into. Each part but the first is
empty or starts with a blank, and none of them opens a literal.
-/

namespace FluentSql

open FluentSql.Text

/-- A sort column and its direction. -/
def SortKey.words (o : SortKey) : List String :=
  [o.column, o.direction.sql]

theorem Text.lexemes_natText (n : Nat) : lexemes (natText n).toList = [natText n] := by
  have hunbroken : Unbroken (natText n).toList := by
    unfold natText
    rw [String.toList_ofList]
    exact ⟨Nat.toDigits_ne_nil, fun c hc =>
      isBreak_of_isDigit (Nat.isDigit_of_mem_toDigits (by decide) (by decide) hc)⟩
  have hone := lexemes_unbroken hunbroken breaks_nil
  rw [List.append_nil, String.ofList_toList] at hone
  exact hone

namespace Fragment

theorem unquoted_marked {fs : List Fragment} (h : ∀ f ∈ fs, f.Copies Unquoted) (d : Dialect)
    (n : Nat) : '\'' ∉ marked d n fs := by
  induction fs generalizing n with
  | nil => exact List.not_mem_nil
  | cons f fs ih =>
    obtain ⟨hf, hfs⟩ := List.forall_mem_cons.mp h
    cases f with
    | text s => exact List.not_mem_append hf (ih hfs n)
    | literal s => exact hf.elim
    | slot v =>
      have hmark : '\'' ∉ d.mark n := by
        unfold Dialect.mark
        split
        · exact List.not_mem_cons_of_ne_of_not_mem (by decide)
            (Dialect.not_mem_toDigits (by decide) n)
        · decide
      exact List.not_mem_append hmark (ih hfs (n + 1))

end Fragment

namespace Conditions

theorem breaks_fragments (c : Conditions) (keyword : String) (d : Dialect) (n : Nat) :
    Breaks (Fragment.marked d n (c.fragments keyword)) := by
  unfold fragments
  cases c.clauses with
  | nil => exact breaks_nil
  | cons first rest =>
    dsimp only
    rw [List.cons_append, Fragment.marked, String.toList_append, String.toList_append,
      List.append_assoc, List.append_assoc]
    rfl

theorem values_fragments (c : Conditions) (keyword : String) :
    Fragment.values (c.fragments keyword) = c.values :=
  (Part.cut_conditions c keyword).valuesOf_eq.symm.trans (c.valuesOf_parts keyword)

end Conditions

namespace QueryState

/-- From the keyword up to the hints. -/
def headWords (d : Dialect) (q : QueryState) : List String :=
  "SELECT" :: ((if q.fields = [] then ["*"] else listedNames q.fields) ++
    "FROM" :: q.table :: hintWords d q.indexHints)

def groupWords (q : QueryState) : List String :=
  Reading.byWords "GROUP" (fun c => [c]) q.groupBy

def orderWords (q : QueryState) : List String :=
  Reading.byWords "ORDER" SortKey.words q.orderBy

def offsetWords (offset : Option Nat) : List String :=
  match offset with
  | some n => ["OFFSET", natText n]
  | none => []

/-- What stands for the limit, MySQL and SQLite having one for every offset. -/
def pageWords (d : Dialect) (q : QueryState) : List String :=
  match q.limit, q.offset with
  | some n, offset => "LIMIT" :: natText n :: offsetWords offset
  | none, some n =>
    match d with
    | .mySql => "LIMIT" :: unboundedLimit :: offsetWords (some n)
    | .sqlite => "LIMIT" :: "-1" :: offsetWords (some n)
    | .postgreSql => offsetWords (some n)
  | none, none => []

theorem spells_joinFragments {V : Vocabulary} {q : QueryState} (h : q.Within V) (hq : q.Worded)
    (d : Dialect) : Fragment.Spells d (q.joinFragments d) (q.joins.flatMap (Join.words d)) :=
  Fragment.spells_flatMap fun j hj => Join.spells_fragments (h.joins j hj) (hq.joins j hj)

section Lexemes

variable {d : Dialect} {q : QueryState} (hq : q.Worded)
include hq

theorem lexemes_fieldList :
    lexemes q.fieldList.toList = if q.fields = [] then ["*"] else listedNames q.fields := by
  unfold fieldList
  simp only [List.isEmpty_iff]
  split
  · decide
  · exact lexemes_names hq.fields

theorem lexemes_head :
    lexemes ("SELECT " ++ q.fieldList ++ " FROM " ++ q.table ++ q.hintText d).toList =
      q.headWords d := by
  have htext : "SELECT " ++ q.fieldList ++ " FROM " ++ q.table =
      (("SELECT" ++ " " ++ q.fieldList) ++ " " ++ "FROM") ++ " " ++ q.table := by
    simp only [String.append_assoc]
    rfl
  have hselect : lexemes ("SELECT" : String).toList = ["SELECT"] := by decide
  have hfrom : lexemes ("FROM" : String).toList = ["FROM"] := by decide
  have hhints : lexemes (q.hintText d).toList = hintWords d q.indexHints :=
    lexemes_hints hq.indexHints " USE INDEX " (by decide)
  have hbreaks : Breaks (q.hintText d).toList := breaks_hints _ _ " USE INDEX " fun _ => rfl
  rw [String.toList_append, lexemes_append _ hbreaks, htext, lexemes_spaced, lexemes_spaced,
    lexemes_spaced, hselect, hfrom, lexemes_fieldList hq, hq.table.lexemes, hhints, headWords]
  simp only [List.append_assoc, List.cons_append, List.nil_append]

theorem lexemes_groupText : lexemes q.groupText.toList = q.groupWords := by
  unfold groupText groupWords Reading.byWords
  simp only [List.isEmpty_iff]
  split
  · decide
  · have htext : " GROUP BY " ++ commaList q.groupBy = " GROUP BY" ++ " " ++ commaList q.groupBy :=
      rfl
    have hlead : lexemes (" GROUP BY" : String).toList = ["GROUP", "BY"] := by decide
    rw [htext, lexemes_spaced, hlead, lexemes_names hq.groupBy]
    rfl

theorem lexemes_orderText : lexemes q.orderText.toList = q.orderWords := by
  have hkeys : (q.orderBy.map fun o => lexemes (o.column ++ " " ++ o.direction.sql).toList) =
      q.orderBy.map SortKey.words := by
    refine List.map_congr_left fun o ho => ?_
    have hdirection : lexemes o.direction.sql.toList = [o.direction.sql] := by
      cases o.direction <;> decide
    rw [lexemes_spaced, (hq.orderBy o ho).lexemes, hdirection]
    rfl
  unfold orderText orderWords Reading.byWords
  simp only [List.isEmpty_iff]
  split
  · decide
  · have hlead : lexemes (" ORDER BY" : String).toList = ["ORDER", "BY"] := by decide
    show lexemes (" ORDER BY" ++ " " ++ commaList (q.orderBy.map _)).toList = _
    rw [lexemes_spaced, hlead, lexemes_commaList, List.map_map]
    exact congrArg (fun keys => "ORDER" :: "BY" :: listed keys) hkeys

end Lexemes

theorem lexemes_offsetText (offset : Option Nat) :
    lexemes (offsetText offset).toList = offsetWords offset := by
  cases offset with
  | none => decide
  | some n =>
    have hlead : lexemes (" OFFSET" : String).toList = ["OFFSET"] := by decide
    show lexemes (" OFFSET" ++ " " ++ natText n).toList = _
    rw [lexemes_spaced, hlead, lexemes_natText]
    rfl

theorem breaks_offsetText (offset : Option Nat) : Breaks (offsetText offset).toList := by
  cases offset with
  | none => exact breaks_nil
  | some n =>
    rw [offsetText, String.toList_append]
    rfl

theorem lexemes_pageText (d : Dialect) (q : QueryState) :
    lexemes (q.pageText d).toList = q.pageWords d := by
  have hlimit : ∀ (n : String) (offset : Option Nat), lexemes n.toList = [n] →
      lexemes (" LIMIT" ++ " " ++ n ++ offsetText offset).toList =
        "LIMIT" :: n :: offsetWords offset := by
    intro n offset hn
    have hlead : lexemes (" LIMIT" : String).toList = ["LIMIT"] := by decide
    rw [String.toList_append, lexemes_append _ (breaks_offsetText offset), lexemes_spaced, hlead,
      hn, lexemes_offsetText]
    rfl
  unfold pageText pageWords
  cases q.limit with
  | some n => exact hlimit _ _ (lexemes_natText n)
  | none =>
    cases q.offset with
    | none => rfl
    | some n =>
      cases d with
      | mySql => exact hlimit unboundedLimit _ (by decide)
      | postgreSql => exact lexemes_offsetText _
      | sqlite => exact hlimit "-1" _ (by decide)

/-- The parts behind the joins. -/
def tailFragments (d : Dialect) (q : QueryState) : List Fragment :=
  q.conditions.fragments "WHERE" ++ q.groupFragments ++ [.text (q.orderText ++ q.pageText d)]

/-- No literal stands behind the joins. -/
theorem copies_tailFragments {q : QueryState} (hq : q.Worded) (d : Dialect) :
    ∀ f ∈ q.tailFragments d, f.Copies Unquoted := by
  have hwhere := Conditions.copies_fragments unquoted_composed (c := q.conditions)
    (fun clause hm => (hq.conditions clause hm).free.1) (by decide : Unquoted "WHERE")
  have hhaving := Conditions.copies_fragments unquoted_composed (c := q.having)
    (fun clause hm => (hq.having clause hm).free.1) (by decide : Unquoted "HAVING")
  intro f hf
  simp only [tailFragments, groupFragments, List.mem_append, List.mem_cons, List.not_mem_nil,
    or_false] at hf
  obtain (hf | rfl | hf) | rfl := hf
  · exact hwhere f hf
  · exact composed_groupText unquoted_composed fun c hc => (hq.groupBy c hc).free.1
  · exact hhaving f hf
  · exact unquoted_composed.append
      (composed_orderText unquoted_composed fun o ho => (hq.orderBy o ho).free.1)
      (composed_pageText unquoted_composed d)

theorem values_joinFragments (d : Dialect) (q : QueryState) :
    Fragment.values (q.joinFragments d) = [] := by
  unfold joinFragments
  induction q.joins with
  | nil => rfl
  | cons j joins ih =>
    rw [List.flatMap_cons, Fragment.values_append, Part.values_joinFragments, ih]
    rfl

theorem selectFragments_eq (d : Dialect) (q : QueryState) :
    q.selectFragments d =
      .text ("SELECT " ++ q.fieldList ++ " FROM " ++ q.table) :: .text (q.hintText d) ::
        (q.joinFragments d ++ q.tailFragments d) := by
  simp only [selectFragments, sourceFragments, tailFragments, List.cons_append, List.append_assoc]

theorem params_compileSelect (d : Dialect) (q : QueryState) :
    (q.compileSelect d).params = q.conditions.values ++ q.having.values := by
  show Fragment.values (q.selectFragments d) = _
  rw [selectFragments_eq, Fragment.values_text, Fragment.values_text, Fragment.values_append,
    values_joinFragments, tailFragments, groupFragments, Fragment.values_append,
    Fragment.values_append, Fragment.values_text, Conditions.values_fragments,
    Conditions.values_fragments]
  exact List.append_nil _

/-- The text of a SELECT in three stretches; the numbers start behind the joins. -/
theorem toList_compileSelect {q : QueryState} (h : q.Within .closed) (d : Dialect) :
    (q.compileSelect d).sql.toList =
      ("SELECT " ++ q.fieldList ++ " FROM " ++ q.table ++ q.hintText d).toList ++
        (Fragment.marked d 1 (q.joinFragments d) ++ Fragment.marked d 1 (q.tailFragments d)) := by
  have hwritten := Fragment.written_renderAll d (closed_selectFragments h d) 1
  have hhead : ("SELECT " ++ q.fieldList ++ " FROM " ++ q.table ++ q.hintText d).toList =
      ("SELECT " ++ q.fieldList ++ " FROM " ++ q.table).toList ++ (q.hintText d).toList :=
    String.toList_append
  rw [← Dialect.toList_lowerPlaceholders] at hwritten
  show (d.lowerPlaceholders (Fragment.renderAll (q.selectFragments d))).toList = _
  rw [hwritten, selectFragments_eq, Fragment.marked, Fragment.marked, Fragment.marked_append,
    values_joinFragments, hhead, List.append_assoc]
  rfl

/-- The text behind the joins; only its conditions have numbers. -/
theorem marked_tailFragments (d : Dialect) (q : QueryState) :
    Fragment.marked d 1 (q.tailFragments d) =
      Fragment.marked d 1 (q.conditions.fragments "WHERE") ++ (q.groupText.toList ++
        (Fragment.marked d (q.conditions.values.length + 1) (q.having.fragments "HAVING") ++
          (q.orderText.toList ++ (q.pageText d).toList))) := by
  rw [tailFragments, groupFragments, List.append_assoc, Fragment.marked_append,
    Conditions.values_fragments, List.cons_append, Fragment.marked, Fragment.marked_append,
    Fragment.marked, Fragment.marked, List.append_nil, String.toList_append, Nat.add_comm 1]

theorem breaks_groupText (q : QueryState) : Breaks q.groupText.toList := by
  unfold groupText
  split
  · exact breaks_nil
  · rw [String.toList_append]
    rfl

theorem breaks_orderText (q : QueryState) : Breaks q.orderText.toList := by
  unfold orderText
  split
  · exact breaks_nil
  · rw [String.toList_append]
    rfl

theorem breaks_pageText (d : Dialect) (q : QueryState) : Breaks (q.pageText d).toList := by
  unfold pageText
  cases q.limit with
  | some n =>
    dsimp only
    rw [String.toList_append, String.toList_append, List.append_assoc]
    rfl
  | none =>
    cases q.offset with
    | none => exact breaks_nil
    | some n =>
      cases d with
      | mySql =>
        dsimp only
        rw [String.toList_append, String.toList_append, List.append_assoc]
        rfl
      | postgreSql => exact breaks_offsetText _
      | sqlite =>
        dsimp only
        rw [String.toList_append]
        rfl

theorem breaks_tailFragments (d : Dialect) (q : QueryState) :
    Breaks (Fragment.marked d 1 (q.tailFragments d)) := by
  rw [marked_tailFragments]
  exact breaks_append (Conditions.breaks_fragments _ _ d _) (breaks_append (breaks_groupText q)
    (breaks_append (Conditions.breaks_fragments _ _ d _)
      (breaks_append (breaks_orderText q) (breaks_pageText d q))))

/-- A SELECT in lexemes: its head, its joins, and the parts behind them. -/
theorem quotedLexemes_compileSelect {q : QueryState} (h : q.Within .plain) (hq : q.Worded)
    (d : Dialect) :
    quotedLexemes (q.compileSelect d).sql.toList =
      q.headWords d ++ (q.joins.flatMap (Join.words d) ++
        lexemes (Fragment.marked d 1 (q.tailFragments d))) := by
  have hjoins := spells_joinFragments h hq d
  have htail := breaks_tailFragments d q
  have hfields : Unquoted q.fieldList :=
    composed_fieldList unquoted_composed fun c hc => (hq.fields c hc).free.1
  have hhints : Unquoted (q.hintText d) :=
    composed_hints unquoted_composed (fun name hname => (hq.indexHints name hname).free.1)
      (by decide)
  have hhead : Unquoted ("SELECT " ++ q.fieldList ++ " FROM " ++ q.table ++ q.hintText d) :=
    unquoted_composed.append (unquoted_composed.append (unquoted_composed.append
      (unquoted_composed.append (by decide) hfields) (by decide)) hq.table.free.1) hhints
  rw [toList_compileSelect h.closed,
    quotedLexemes_append hhead (breaks_append (hjoins.breaks 1) htail), hjoins.words 1 htail,
    lexemes_head hq,
    quotedLexemes_unquoted (Fragment.unquoted_marked (copies_tailFragments hq d) d 1)]

end QueryState

end FluentSql
