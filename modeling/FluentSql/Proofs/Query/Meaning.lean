import FluentSql.Proofs.Query.Additions
import FluentSql.Proofs.Query.Section

/-!
# What the parts of a query mean

The text of a part follows from the clauses that calls added, the guard of reads
included. It is absent where there is none; else its keyword heads it, and a reader with
the precedence of SQL finds the conjunction of the clauses or one of the alternatives.
-/

namespace FluentSql

open FluentSql.Text

def Section.keyword : Section → String
  | .where_ => "WHERE"
  | .having => "HAVING"

/-- The statements that write the part. -/
def Section.Shown : Section → Statement → Prop
  | .where_, .insert _ => False
  | .having, .insert _ => False
  | .having, .update _ => False
  | .having, .delete => False
  | _, _ => True

/-- Conditions that are written and read as a conjunction or one of some alternatives. -/
structure Conditions.Means (c : Conditions) (keyword : String)
    (ps alternatives : List Predicate) : Prop where
  text : c.sql keyword = sectionText keyword ps alternatives
  absent : c.sql keyword = "" ↔ ps = [] ∧ alternatives = []
  values : c.values = (ps ++ alternatives).flatMap Predicate.values
  /-- Apart from columns that are spelled like it, the keyword stands there once. -/
  keyword_once : ps ≠ [] → (lexemes (c.sql keyword).toList).count keyword =
    1 + ((ps ++ alternatives).map Predicate.column).count keyword
  /-- Read behind `n` placeholders, with the values of the part from there on. -/
  reads : ps ≠ [] → ∀ (d : Dialect) (n : Nat) (params : List Value),
    c.values <+: params.drop n →
      Reading.readSection d params keyword n (d.written (n + 1) (c.sql keyword).toList) =
        some (ps :: alternatives.map fun p => [p])

namespace Conditions

theorem clauses_predicates (c : Conditions) :
    c.clauses.map (fun clause => clause.predicate) = c.predicates .and ++ c.predicates .or :=
  List.map_append

theorem formula_eq (c : Conditions) :
    c.formula = c.predicates .and :: (c.predicates .or).map fun p => [p] := by
  unfold formula predicates
  rw [List.map_map]
  rfl

/-- An alternative is only admitted behind a clause that has to hold. -/
theorem Linked.or_eq_nil {c : Conditions} (h : c.Linked 0) (hand : c.predicates .and = []) :
    c.predicates .or = [] := by
  have hprimary : c.primary = [] := List.map_eq_nil_iff.mp hand
  by_contra hor
  apply h.started fun hnil => hor (congrArg (List.map _) hnil)
  rw [hprimary]
  rfl

/-- Linked conditions on plain columns mean what their buckets hold. -/
theorem Linked.means {c : Conditions} (h : c.Linked 0) (hwithin : c.Within .plain)
    (part : Section) : c.Means part.keyword (c.predicates .and) (c.predicates .or) where
  text := h.sql_eq part.keyword
  absent := by
    rw [h.sql_eq, sectionText_eq_empty_iff]
    exact ⟨fun hand => ⟨hand, h.or_eq_nil hand⟩, And.left⟩
  values := by
    rw [← clauses_predicates, List.flatMap_map]
    rfl
  keyword_once hsome := by
    have hplain : ∀ p ∈ c.predicates .and ++ c.predicates .or, Plain p.column := by
      intro p hp
      rw [← clauses_predicates] at hp
      obtain ⟨clause, hclause, rfl⟩ := List.mem_map.mp hp
      exact (hwithin clause hclause).readable.column
    rw [h.sql_eq]
    obtain ⟨p, ps, hand⟩ := List.exists_cons_of_ne_nil hsome
    rw [hand] at hplain ⊢
    have hconnective : ∀ k : Connective, part.keyword ≠ k.sql := by
      intro k
      cases part <;> cases k <;> decide
    have hkeyword : lexemes part.keyword.toList = [part.keyword] := by cases part <;> decide
    have hword : part.keyword ∉ Predicate.testLexemes := by cases part <;> decide
    exact count_keyword_sectionText hkeyword hword hconnective hplain
  reads hsome d n params hvalues := by
    have hkeyword : lexemes part.keyword.toList = [part.keyword] := by cases part <;> decide
    have hclosed : Closed part.keyword := by cases part <;> decide
    have hclauses : c.clauses ≠ [] := by
      intro hnil
      have hall := c.clauses_predicates
      rw [hnil] at hall
      exact hsome (List.append_eq_nil_iff.mp hall.symm).1
    rw [sql, Fragment.written_renderAll d
      (closed_fragments (fun clause hm => (hwithin clause hm).closed) hclosed), ← formula_eq]
    exact Reading.readSection_fragments h (fun clause hm => (hwithin clause hm).readable) hclauses
      hkeyword hvalues

end Conditions

namespace QueryState

/-- What the read guard adds behind what was added before. -/
def guardAdditions (log : List Addition) : List Addition :=
  if (Addition.select .where_ .and log).any (·.same Model.liveRows) then []
  else [⟨.where_, .and, Model.liveRows⟩]

/-- The state that a statement is compiled from, with the read guard where it is asked for. -/
def sent (q : QueryState) (calls : List QueryCall) (guarded : Bool) : QueryState :=
  if guarded then (q.afterCalls calls).guardReads else q.afterCalls calls

def sentAdditions (q : QueryState) (calls : List QueryCall) (guarded : Bool) : List Addition :=
  q.additionsOf calls ++ if guarded then guardAdditions (q.additionsOf calls) else []

theorem predicates_guardReads {q : QueryState} {log : List Addition}
    (h : ∀ part k, (q.section_ part).predicates k = Addition.select part k log) (part : Section)
    (k : Connective) :
    (q.guardReads.section_ part).predicates k =
      Addition.select part k (log ++ guardAdditions log) := by
  have hcontains : q.conditions.contains Model.liveRows =
      (Addition.select .where_ .and log).any (·.same Model.liveRows) := by
    rw [← h .where_ .and, Conditions.predicates, List.any_map]
    rfl
  have hselect : Addition.select part k (log ++ guardAdditions log) =
      (q.section_ part).predicates k ++ Addition.select part k (guardAdditions log) := by
    rw [h part k]
    exact List.filterMap_append
  rw [hselect, guardReads, guardAdditions, hcontains]
  split
  · exact (List.append_nil _).symm
  · cases part with
    | where_ =>
      show (q.conditions.addAnd Model.liveRows 0).predicates k = _
      rw [Conditions.predicates_addAnd]
      cases k <;> rfl
    | having => exact (List.append_nil _).symm

theorem predicates_sent {table : String} {q : QueryState} (hstart : start table = .ok q)
    (calls : List QueryCall) (guarded : Bool) (part : Section) (k : Connective) :
    ((q.sent calls guarded).section_ part).predicates k =
      Addition.select part k (q.sentAdditions calls guarded) := by
  have hlog : ∀ part k, ((q.afterCalls calls).section_ part).predicates k =
      Addition.select part k (q.additionsOf calls) := by
    intro part k
    obtain ⟨_, rfl⟩ := start_ok hstart
    rw [predicates_afterCalls]
    cases part <;> cases k <;> rfl
  cases guarded with
  | true => exact predicates_guardReads hlog part k
  | false =>
    rw [sentAdditions, if_neg (by decide), List.append_nil]
    exact hlog part k

/-- The parts stay linked and hold checked predicates only, guarded or not. -/
theorem linked_within_sent {table : String} {q : QueryState} (hstart : start table = .ok q)
    (calls : List QueryCall) (guarded : Bool) (part : Section) :
    ((q.sent calls guarded).section_ part).Linked 0 ∧
      ((q.sent calls guarded).section_ part).Within .any := by
  have hbuilt : (q.afterCalls calls).Built .any := by
    refine ⟨table, q, trivial, hstart, Calls.reaches_lastState ?_ q⟩
    intro call _
    exact QueryCall.within_any call
  have hsent : (q.sent calls guarded).Linked ∧ (q.sent calls guarded).Within .any := by
    cases guarded with
    | true => exact ⟨hbuilt.linked.guardReads, hbuilt.within.guardReads trivial⟩
    | false => exact ⟨hbuilt.linked, hbuilt.within⟩
  obtain ⟨hlinked, hwithin⟩ := hsent
  cases part with
  | where_ => exact ⟨hlinked.conditions, hwithin.conditions⟩
  | having => exact ⟨hlinked.having, hwithin.having⟩

/-- Where the columns of what calls add are plain, so are those of the parts. -/
theorem within_plain_sent {table : String} {q : QueryState} (hstart : start table = .ok q)
    {calls : List QueryCall} (hplain : ∀ a ∈ q.additionsOf calls, Plain a.predicate.column)
    (guarded : Bool) (part : Section) :
    ((q.sent calls guarded).section_ part).Within .plain := by
  have hsent : ∀ a ∈ q.sentAdditions calls guarded, Plain a.predicate.column := by
    refine List.forall_mem_append.mpr ⟨hplain, ?_⟩
    have hmarker : Plain Model.liveRows.column := by decide
    intro a ha
    cases guarded with
    | false => cases ha
    | true =>
      simp only [if_true, guardAdditions] at ha
      split at ha
      · cases ha
      · obtain rfl := List.mem_singleton.mp ha
        exact hmarker
  intro clause hclause
  refine ((linked_within_sent hstart calls guarded part).2 clause hclause).plain ?_
  have hmem := List.mem_map_of_mem (f := fun clause : Clause => clause.predicate) hclause
  rw [Conditions.clauses_predicates, predicates_sent hstart, predicates_sent hstart] at hmem
  rcases List.mem_append.mp hmem with hmem | hmem
  · obtain ⟨a, ha, hpredicate⟩ := Addition.exists_of_mem_select hmem
    exact hpredicate ▸ hsent a ha
  · obtain ⟨a, ha, hpredicate⟩ := Addition.exists_of_mem_select hmem
    exact hpredicate ▸ hsent a ha

/-- The query with other conditions in one part. -/
def withSection (q : QueryState) (c : Conditions) : Section → QueryState
  | .where_ => { q with conditions := c }
  | .having => { q with having := c }

/-- The fragments around a part are the same for all conditions that may stand there. -/
theorem fragments_withSection (d : Dialect) (q : QueryState) {part : Section}
    {statement : Statement} (hshown : part.Shown statement) :
    ∃ before behind, ∀ c fs, (q.withSection c part).fragments d statement = .ok fs →
      fs = before ++ c.fragments part.keyword ++ behind := by
  cases part with
  | where_ =>
    cases statement with
    | select =>
      refine ⟨.text ("SELECT " ++ q.fieldList ++ " FROM " ++ q.table) :: .text (q.hintText d) ::
        q.joinFragments d, q.groupFragments ++ [.text (q.orderText ++ q.pageText d)], ?_⟩
      intro c fs hfs
      obtain rfl := Except.ok.inj hfs
      exact List.append_assoc _ _ _
    | count =>
      refine ⟨.text ("SELECT COUNT(*) AS count FROM " ++ q.table) :: .text (q.hintText d) ::
        q.joinFragments d, q.groupFragments, ?_⟩
      intro c fs hfs
      obtain rfl := Except.ok.inj hfs
      rfl
    | insert rows => exact hshown.elim
    | update data =>
      refine ⟨.text ("UPDATE " ++ q.table ++ q.hintText d) :: q.joinFragments d ++
        .text " SET " :: assignmentFragments data.entries, [], ?_⟩
      intro c fs hfs
      obtain ⟨_, _, rfl⟩ := updateFragments_ok_iff.mp hfs
      exact (List.append_nil _).symm
    | delete =>
      refine ⟨.text ("DELETE " ++ (if q.joins.isEmpty then "" else q.deleteTarget ++ " ") ++
        "FROM " ++ q.table) :: q.joinFragments d, [], ?_⟩
      intro c fs hfs
      obtain ⟨_, rfl⟩ := deleteFragments_ok_iff.mp hfs
      exact (List.append_nil _).symm
  | having =>
    cases statement with
    | select =>
      refine ⟨.text ("SELECT " ++ q.fieldList ++ " FROM " ++ q.table) :: q.sourceFragments d ++
        [.text q.groupText], [.text (q.orderText ++ q.pageText d)], ?_⟩
      intro c fs hfs
      obtain rfl := Except.ok.inj hfs
      have hselect : selectFragments d (q.withSection c .having) =
          .text ("SELECT " ++ q.fieldList ++ " FROM " ++ q.table) :: q.sourceFragments d ++
            (.text q.groupText :: c.fragments "HAVING") ++
              [.text (q.orderText ++ q.pageText d)] := rfl
      rw [hselect, List.append_cons _ (Fragment.text q.groupText)]
      rfl
    | count =>
      refine ⟨.text ("SELECT COUNT(*) AS count FROM " ++ q.table) :: q.sourceFragments d ++
        [.text q.groupText], [], ?_⟩
      intro c fs hfs
      obtain rfl := Except.ok.inj hfs
      have hcount : countFragments d (q.withSection c .having) =
          .text ("SELECT COUNT(*) AS count FROM " ++ q.table) :: q.sourceFragments d ++
            .text q.groupText :: c.fragments "HAVING" := rfl
      rw [hcount, List.append_nil, List.append_cons _ (Fragment.text q.groupText)]
      rfl
    | insert rows => exact hshown.elim
    | update data => exact hshown.elim
    | delete => exact hshown.elim

/-- A statement that shows a part has one place for its text, which nothing else of the
statement depends on. -/
theorem compile_withSection (d : Dialect) (q : QueryState) {part : Section}
    {statement : Statement} (hshown : part.Shown statement) :
    ∃ before behind, ∀ c s, (q.withSection c part).compile d statement = .ok s →
      s.sql = d.lowerPlaceholders (before ++ c.sql part.keyword ++ behind) := by
  obtain ⟨before, behind, hfragments⟩ := fragments_withSection d q hshown
  refine ⟨Fragment.renderAll before, Fragment.renderAll behind, ?_⟩
  intro c s hs
  obtain ⟨fs, hfs, rfl⟩ := compile_ok hs
  rw [hfragments c fs hfs]
  show d.lowerPlaceholders (Fragment.renderAll _) = _
  rw [Fragment.renderAll_append, Fragment.renderAll_append]
  rfl

theorem withSection_section_ (q : QueryState) (part : Section) :
    q.withSection (q.section_ part) part = q := by
  cases part <;> rfl

theorem compile_of_withSection {d : Dialect} {q : QueryState} {part : Section}
    {statement : Statement} {before behind : String}
    (h : ∀ c s, (q.withSection c part).compile d statement = .ok s →
      s.sql = d.lowerPlaceholders (before ++ c.sql part.keyword ++ behind)) :
    (∀ s, q.compile d statement = .ok s →
        s.sql = d.lowerPlaceholders (before ++ (q.section_ part).sql part.keyword ++ behind)) ∧
      ∀ s, (q.withSection .empty part).compile d statement = .ok s →
        s.sql = d.lowerPlaceholders (before ++ behind) := by
  refine ⟨?_, ?_⟩
  · intro s hs
    rw [← q.withSection_section_ part] at hs
    exact h _ s hs
  · intro s hs
    have hempty : before ++ Conditions.empty.sql part.keyword = before := String.append_empty
    rw [h _ s hs, hempty]

/-- Whatever calls are made on a query, each part means what they added to it, and is all
that a statement which shows it has more than the same statement without the part. -/
theorem sections_mean_additions {table : String} {q : QueryState} (hstart : start table = .ok q)
    {calls : List QueryCall} (hplain : ∀ a ∈ q.additionsOf calls, Plain a.predicate.column)
    (guarded : Bool) (part : Section) :
    ((q.sent calls guarded).section_ part).Means part.keyword
        (Addition.select part .and (q.sentAdditions calls guarded))
        (Addition.select part .or (q.sentAdditions calls guarded)) ∧
      ∀ (d : Dialect) (statement : Statement), part.Shown statement →
        ∃ before behind,
          (∀ s, (q.sent calls guarded).compile d statement = .ok s → s.sql =
            d.lowerPlaceholders (before ++
              ((q.sent calls guarded).section_ part).sql part.keyword ++ behind)) ∧
          ∀ s, ((q.sent calls guarded).withSection .empty part).compile d statement = .ok s →
            s.sql = d.lowerPlaceholders (before ++ behind) := by
  have hmeans := (linked_within_sent hstart calls guarded part).1.means
    (within_plain_sent hstart hplain guarded part) part
  rw [predicates_sent hstart, predicates_sent hstart] at hmeans
  refine ⟨hmeans, ?_⟩
  intro d statement hshown
  obtain ⟨before, behind, hplace⟩ := compile_withSection d (q.sent calls guarded) hshown
  exact ⟨before, behind, compile_of_withSection hplace⟩

/-- A range, an alternative that a callback brings behind a refused call, an alternative to
nothing, which is refused, and a condition on groups. -/
def rangedPosts : List QueryCall :=
  [.filter .having .or (.equals "n" (.int 0)),
    .filter .where_ .and ⟨"a", .between false (.int 1) (.int 2)⟩,
    .joinWith .left "users" [.on "" "=" "users.id", .filter .or (.equals "b" (.int 3)),
      .filter .and ⟨"c", .inList true [.int 4, .int 5]⟩] true,
    .filter .having .and ⟨"n", .compare ">" (.int 6)⟩]

/-- The ranged posts, not deleted, are read back part by part. -/
theorem sections_mean_additions_rangedPosts :
    ∃ q, start "posts" = .ok q ∧
      ((q.sent rangedPosts true).section_ .where_).Means "WHERE"
        [.between "a" false (.int 1) (.int 2), .inList "c" true [.int 4, .int 5],
          .isNull "deleted_at" false]
        [.compare "b" .eq (.int 3)] ∧
      ((q.sent rangedPosts true).section_ .having).Means "HAVING"
        [.compare "n" .gt (.int 6)] [] := by
  have hstart : start "posts" =
      .ok ⟨"posts", [], .empty, [], [], .empty, [], none, none, []⟩ := by rfl
  have hplain : ∀ a ∈ additionsOf ⟨"posts", [], .empty, [], [], .empty, [], none, none, []⟩
      rangedPosts, Plain a.predicate.column := by
    show ∀ a ∈ [_, _, _, _], _
    decide
  exact ⟨_, hstart, (sections_mean_additions hstart hplain true .where_).1,
    (sections_mean_additions hstart hplain true .having).1⟩

end QueryState

end FluentSql
