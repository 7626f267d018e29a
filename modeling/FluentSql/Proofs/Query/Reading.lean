import FluentSql.Proofs.Join.Reading
import FluentSql.Proofs.Query.Buckets
import FluentSql.Proofs.Query.Lexemes

/-!
# SELECT read back

A reader of compiled SELECTs, which takes values from the parameters of the statement. What
it reads of a query is everything that its dialect shows, so a statement tells the state it
was compiled from, whatever joins compare with and whatever is bound.
-/

namespace FluentSql

open FluentSql.Text

namespace QueryState

/-- The limit in the text, where MySQL has one for an offset without a limit. -/
def visibleLimit (d : Dialect) (q : QueryState) : Option Nat :=
  match q.limit, q.offset, d with
  | none, some _, .mySql => some 18446744073709551615
  | limit, _, _ => limit

/-- What a SELECT shows of a state: all of it, but index hints on MySQL only, and on MySQL no
difference between no limit and the largest one in front of an offset. -/
def visible (d : Dialect) (q : QueryState) : QueryState :=
  { q with
    joins := q.joins.map (Join.visible d)
    limit := q.visibleLimit d
    indexHints := visibleHints d q.indexHints }

theorem natText_largest : natText 18446744073709551615 = unboundedLimit := by
  decide

/-- A SELECT does not depend on what it does not show. -/
theorem compileSelect_visible (d : Dialect) (q : QueryState) :
    (q.visible d).compileSelect d = q.compileSelect d := by
  have hjoins : (q.visible d).joinFragments d = q.joinFragments d := by
    have hjoin : (fun j => (Join.visible d j).fragments d) = Join.fragments d := by
      funext j
      have hhints : Join.hintText d (visibleHints d j.indexHints) =
          Join.hintText d j.indexHints := by
        unfold Join.hintText visibleHints
        cases d <;> rfl
      rw [Join.fragments, Join.fragments, Join.visible, hhints]
    show (q.joins.map (Join.visible d)).flatMap (Join.fragments d) = q.joins.flatMap _
    rw [List.flatMap_map, hjoin]
  have hhint : (q.visible d).hintText d = q.hintText d := by
    unfold hintText visible visibleHints
    cases d <;> rfl
  have hpage : (q.visible d).pageText d = q.pageText d := by
    unfold pageText visible visibleLimit
    cases q.limit with
    | some n => rfl
    | none =>
      cases q.offset with
      | none => rfl
      | some n =>
        cases d with
        | mySql =>
          dsimp only
          rw [natText_largest]
        | postgreSql => rfl
        | sqlite => rfl
  have hfragments : (q.visible d).selectFragments d = q.selectFragments d := by
    rw [selectFragments, selectFragments, sourceFragments, sourceFragments, hjoins, hhint, hpage]
    rfl
  rw [compileSelect, compileSelect, hfragments]

end QueryState

namespace Reading

def readFields : List String → Option (List String × List String)
  | "*" :: ws => some ([], ws)
  | ws => readListed readWord ws

def readKey : List String → Option (SortKey × List String)
  | column :: "ASC" :: ws => some (⟨column, .asc⟩, ws)
  | column :: "DESC" :: ws => some (⟨column, .desc⟩, ws)
  | _ => none

/-- A number; what is none stands for no number. -/
def readNumber : List String → Option (Option Nat × List String)
  | [] => none
  | w :: ws => some (Integer.readNat? w.toList, ws)

section

variable (d : Dialect) (params : List Value)

/-- Adds to `q` what stands behind the joins. -/
def readTail (q : QueryState) (ws : List String) : Option QueryState := do
  let (conditions, ws) ← readConditions d params "WHERE" 0 ws
  let (groupBy, ws) ← readBy "GROUP" readWord ws
  let (having, ws) ← readConditions d params "HAVING" conditions.values.length ws
  let (orderBy, ws) ← readBy "ORDER" readKey ws
  let (limit, ws) ← optional "LIMIT" none readNumber ws
  let (offset, ws) ← optional "OFFSET" none readNumber ws
  if ws = [] then return { q with conditions, groupBy, having, orderBy, limit, offset } else none

def readSelect (ws : List String) : Option QueryState := do
  let (fields, ws) ← behind "SELECT" readFields ws
  let (table, ws) ← behind "FROM" readWord ws
  let (indexHints, ws) ← readHints ws
  let (joins, ws) := many readJoin List.length ws
  readTail d params ⟨table, fields, .empty, joins, [], .empty, [], none, none, indexHints⟩ ws

end

theorem readWord_singleton (w : String) (ws : List String) : readWord ([w] ++ ws) = some (w, ws) :=
  rfl

theorem readFields_words {fields : List String} (h : ∀ c ∈ fields, Dotted c) {ws : List String}
    (hws : ws.head? ≠ some ",") :
    readFields ((if fields = [] then ["*"] else listedNames fields) ++ ws) = some (fields, ws) := by
  split
  · next hnil =>
    rw [hnil]
    rfl
  · next hne =>
    have hlisted := readListed_listed (fun w (_ : w ∈ fields) => readWord_singleton w) hne hws
    unfold readFields
    split
    · next hstar =>
      obtain ⟨c, rest, rfl⟩ := List.exists_cons_of_ne_nil hne
      obtain rfl : c = "*" := (List.cons.inj hstar).1
      exact absurd (h "*" List.mem_cons_self) (by decide)
    · exact hlisted

theorem readKey_words (o : SortKey) (ws : List String) :
    readKey (o.words ++ ws) = some (o, ws) := by
  obtain ⟨column, direction⟩ := o
  cases direction <;> rfl

theorem readNumber_natText (n : Nat) (ws : List String) :
    readNumber (natText n :: ws) = some (some n, ws) := by
  rw [readNumber, natText, String.toList_ofList, Integer.readNat?_toDigits]

theorem readLimit_words (d : Dialect) (q : QueryState) :
    optional "LIMIT" none readNumber (q.pageWords d) =
      some (q.visibleLimit d, QueryState.offsetWords q.offset) := by
  unfold QueryState.pageWords QueryState.visibleLimit
  cases q.limit with
  | some n => exact optional_keyword.trans (readNumber_natText n _)
  | none =>
    cases q.offset with
    | none => rfl
    | some n =>
      cases d with
      | mySql =>
        dsimp only
        rw [← QueryState.natText_largest]
        exact optional_keyword.trans (readNumber_natText _ _)
      | postgreSql => rfl
      | sqlite => rfl

theorem readOffset_words (offset : Option Nat) :
    optional "OFFSET" none readNumber (QueryState.offsetWords offset) = some (offset, []) := by
  cases offset with
  | none => rfl
  | some n => exact optional_keyword.trans (readNumber_natText n [])

theorem tail_group {q : QueryState} (hq : q.Worded) : Tail ["GROUP"] q.groupText.toList where
  breaks := QueryState.breaks_groupText q
  follows := by
    rw [QueryState.lexemes_groupText hq]
    exact follows_by "GROUP" _ q.groupBy

theorem tail_order {q : QueryState} (hq : q.Worded) : Tail ["ORDER"] q.orderText.toList where
  breaks := QueryState.breaks_orderText q
  follows := by
    rw [QueryState.lexemes_orderText hq]
    exact follows_by "ORDER" SortKey.words q.orderBy

theorem tail_page (d : Dialect) (q : QueryState) :
    Tail ["LIMIT", "OFFSET"] (q.pageText d).toList where
  breaks := QueryState.breaks_pageText d q
  follows := by
    rw [QueryState.lexemes_pageText, QueryState.pageWords]
    cases q.limit with
    | some n => exact follows_cons List.mem_cons_self _
    | none =>
      cases q.offset with
      | none => exact follows_nil _
      | some n => cases d <;> exact follows_cons (by decide) _

theorem tail_conditions (d : Dialect) (n : Nat) (c : Conditions) {keyword : String}
    (hkeyword : lexemes keyword.toList = [keyword]) :
    Tail [keyword] (Fragment.marked d n (c.fragments keyword)) where
  breaks := Conditions.breaks_fragments c keyword d n
  follows := by
    unfold Conditions.fragments
    cases c.clauses with
    | nil => exact follows_nil _
    | cons first rest =>
      dsimp only
      rw [List.cons_append, Fragment.marked, toList_lead, List.cons_append, lexemes_blank,
        lexemes_lead, hkeyword]
      exact follows_cons List.mem_cons_self _

section Statement

variable {q : QueryState} {d : Dialect}

theorem readBy_groupText (hq : q.Worded) {keywords : List String} {rest : List Char}
    (hrest : Tail keywords rest) (hother : ∀ w ∈ ["GROUP", ","], w ∉ keywords) :
    readBy "GROUP" readWord (lexemes (q.groupText.toList ++ rest)) =
      some (q.groupBy, lexemes rest) := by
  rw [lexemes_append _ hrest.breaks, QueryState.lexemes_groupText hq]
  exact readBy_words "GROUP" readWord_singleton q.groupBy
    (hrest.follows.ne (hother "GROUP" (by decide))) (hrest.follows.ne (hother "," (by decide)))

theorem readBy_orderText (hq : q.Worded) {keywords : List String} {rest : List Char}
    (hrest : Tail keywords rest) (hother : ∀ w ∈ ["ORDER", ","], w ∉ keywords) :
    readBy "ORDER" readKey (lexemes (q.orderText.toList ++ rest)) =
      some (q.orderBy, lexemes rest) := by
  rw [lexemes_append _ hrest.breaks, QueryState.lexemes_orderText hq]
  exact readBy_words "ORDER" readKey_words q.orderBy
    (hrest.follows.ne (hother "ORDER" (by decide))) (hrest.follows.ne (hother "," (by decide)))

/-- The parts behind the joins are read back one after another. -/
theorem readTail_tailFragments (h : q.Within .plain) (hq : q.Worded) (hlinked : q.Linked)
    (hjoined : Conditions.Joined 0 q.conditions.primary ∧ Conditions.Joined 0 q.having.primary)
    (r : QueryState) :
    readTail d (q.compileSelect d).params r (lexemes (Fragment.marked d 1 (q.tailFragments d))) =
      some { r with
        conditions := q.conditions
        groupBy := q.groupBy
        having := q.having
        orderBy := q.orderBy
        limit := q.visibleLimit d
        offset := q.offset } := by
  have hwhere : lexemes ("WHERE" : String).toList = ["WHERE"] := by decide
  have hhaving : lexemes ("HAVING" : String).toList = ["HAVING"] := by decide
  -- What stands behind each part, from the last part on.
  have hpage := tail_page d q
  have horder := (tail_order hq).part hpage
  have hgroup := (tail_conditions d (q.conditions.values.length + 1) q.having hhaving).part horder
  have hsource := (tail_group hq).part hgroup
  have hfirst : q.conditions.values <+: (q.compileSelect d).params.drop 0 := by
    rw [QueryState.params_compileSelect, List.drop_zero]
    exact List.prefix_append _ _
  have hsecond : q.having.values <+:
      (q.compileSelect d).params.drop q.conditions.values.length := by
    have hdrop : (q.compileSelect d).params.drop q.conditions.values.length = q.having.values := by
      rw [QueryState.params_compileSelect, List.drop_left]
    simp only [hdrop, List.prefix_refl]
  have hreadWhere := readConditions_fragments hlinked.conditions hjoined.1
    (fun clause hm => (h.conditions clause hm).readable) hwhere hfirst hsource (by decide)
    (d := d)
  have hreadGroup := readBy_groupText hq hgroup (by decide)
  have hreadHaving := readConditions_fragments hlinked.having hjoined.2
    (fun clause hm => (h.having clause hm).readable) hhaving hsecond horder (by decide) (d := d)
  have hreadOrder := readBy_orderText hq hpage (by decide)
  rw [QueryState.marked_tailFragments, readTail, hreadWhere]
  show (readBy "GROUP" readWord _).bind _ = _
  rw [hreadGroup]
  show (readConditions d _ "HAVING" _ _).bind _ = _
  rw [hreadHaving]
  show (readBy "ORDER" readKey _).bind _ = _
  rw [hreadOrder, QueryState.lexemes_pageText]
  show (optional "LIMIT" none readNumber _).bind _ = _
  rw [readLimit_words]
  show (optional "OFFSET" none readNumber _).bind _ = _
  rw [readOffset_words]
  rfl

theorem tail_tailFragments (hq : q.Worded) (d : Dialect) :
    Tail tailKeywords (Fragment.marked d 1 (q.tailFragments d)) := by
  rw [QueryState.marked_tailFragments]
  exact (tail_conditions d 1 q.conditions (by decide)).part ((tail_group hq).part
    ((tail_conditions d _ q.having (by decide)).part ((tail_order hq).part (tail_page d q))))

/-- A SELECT is read back as what it shows of the state. -/
theorem readSelect_compileSelect (hbuilt : q.Built .any) (hq : q.Worded) (d : Dialect) :
    readSelect d (q.compileSelect d).params (quotedLexemes (q.compileSelect d).sql.toList) =
      some (q.visible d) := by
  have h : q.Within .plain := hbuilt.within.plain_of_worded hq
  have htail := (tail_tailFragments hq d).follows
  have hoperands : ∀ j ∈ q.joins, ∀ c ∈ j.on, ∃ raw, c.operand = Operand.read raw :=
    fun j hj c hc => ((h.joins j hj).on c hc).operand
  have hreadJoins := many_joins hoperands d htail
  have hjoins := follows_joins d q.joins htail
  have hreadHints := readHints_words d q.indexHints (hjoins.ne (by decide))
  have hreadFields : ∀ ws, readFields ((if q.fields = [] then ["*"] else listedNames q.fields) ++
      "FROM" :: ws) = some (q.fields, "FROM" :: ws) :=
    fun ws => readFields_words hq.fields fun hhead => absurd (Option.some.inj hhead) (by decide)
  have hreadTail := readTail_tailFragments h hq hbuilt.linked
    (hbuilt.keeps Conditions.joined_isInductive) (d := d)
  rw [QueryState.quotedLexemes_compileSelect h hq, QueryState.headWords]
  simp only [List.cons_append, List.append_assoc]
  rw [readSelect, behind_keyword, hreadFields]
  show (readHints _).bind _ = _
  rw [hreadHints]
  show readTail d _ ⟨_, _, _, (many readJoin List.length _).1, _, _, _, _, _, _⟩
    (many readJoin List.length _).2 = _
  rw [hreadJoins, hreadTail]
  rfl

end Statement

end Reading

namespace QueryState

/-- Two states of names are compiled to one SELECT exactly when it shows the same of both. -/
theorem compileSelect_eq_iff {q q' : QueryState} (hbuilt : q.Built .any) (hq : q.Worded)
    (hbuilt' : q'.Built .any) (hq' : q'.Worded) (d : Dialect) :
    q.compileSelect d = q'.compileSelect d ↔ q.visible d = q'.visible d := by
  constructor
  · intro h
    have hread := Reading.readSelect_compileSelect hbuilt hq d
    rw [h, Reading.readSelect_compileSelect hbuilt' hq' d] at hread
    exact (Option.some.inj hread).symm
  · intro h
    rw [← compileSelect_visible, h, compileSelect_visible]

/-- A join on a string with a quote and a question mark, an alternative, and an offset. -/
def quotedCalls : List QueryCall :=
  [.select ["posts.id"], .join .left "users AS u" "u.note" "=" "it's ?",
    .filter .where_ .and (.equals "a" (.int 1)), .filter .where_ .or (.equals "b" (.int 2)),
    .orderBy "posts.id" "desc", .useIndex ["by_note"], .offset 5]

/-- What the calls make of a query on posts, apart from its limit. -/
def quotedPosts (limit : Option Nat) : QueryState where
  table := "posts"
  fields := ["posts.id"]
  conditions := ⟨[⟨.compare "a" .eq (.int 1), none⟩], [⟨.compare "b" .eq (.int 2), some .or⟩]⟩
  joins := [⟨⟨"users", some "u"⟩, .left, [⟨"u.note", .eq, .literal "it's ?", none⟩], []⟩]
  groupBy := []
  having := .empty
  orderBy := [⟨"posts.id", .desc⟩]
  limit := limit
  offset := some 5
  indexHints := ["by_note"]

theorem worded_quotedPosts (limit : Option Nat) : (quotedPosts limit).Worded where
  table := by
    show Dotted "posts"
    decide
  fields := by
    show ∀ c ∈ ["posts.id"], Dotted c
    decide
  conditions := by
    show ∀ clause ∈ [(⟨.compare "a" .eq (.int 1), none⟩ : Clause),
      ⟨.compare "b" .eq (.int 2), some .or⟩], Dotted clause.predicate.column
    decide
  joins := by
    intro j hj
    obtain rfl := List.mem_singleton.mp hj
    exact ⟨by decide, by decide, by decide, by decide⟩
  groupBy := by
    intro c hc
    cases hc
  having := by
    intro clause hm
    cases hm
  orderBy := by
    show ∀ o ∈ [(⟨"posts.id", .desc⟩ : SortKey)], Dotted o.column
    decide
  indexHints := by
    show ∀ name ∈ ["by_note"], Dotted name
    decide

theorem built_quotedPosts (calls : List QueryCall) {limit : Option Nat}
    (h : applyAll ⟨"posts", [], .empty, [], [], .empty, [], none, none, []⟩ calls =
      .ok (quotedPosts limit)) : (quotedPosts limit).Built .any :=
  ⟨"posts", _, trivial, rfl, Calls.reaches_applyAll (fun call _ => call.within_any) h⟩

/-- On MySQL the offset alone is written as with the largest limit, on SQLite it is not. -/
theorem compileSelect_eq_iff_quotedPosts :
    (quotedPosts none).Built .any ∧ (quotedPosts (some 18446744073709551615)).Built .any ∧
      (quotedPosts none).compileSelect .mySql =
        (quotedPosts (some 18446744073709551615)).compileSelect .mySql ∧
      (quotedPosts none).compileSelect .sqlite ≠
        (quotedPosts (some 18446744073709551615)).compileSelect .sqlite := by
  have hbuilt : (quotedPosts none).Built .any := built_quotedPosts quotedCalls rfl
  have hlimited : (quotedPosts (some 18446744073709551615)).Built .any :=
    built_quotedPosts (quotedCalls ++ [.limit 18446744073709551615]) rfl
  have hiff := compileSelect_eq_iff hbuilt (worded_quotedPosts _) hlimited (worded_quotedPosts _)
  refine ⟨hbuilt, hlimited, (hiff .mySql).mpr rfl, fun hsame => ?_⟩
  have hlimit := congrArg QueryState.limit ((hiff .sqlite).mp hsame)
  cases hlimit

end QueryState

end FluentSql
