import FluentSql.Proofs.Join.Lexemes
import FluentSql.Proofs.Text.Reader

/-!
# Joins read back

A reader of joins by their lexemes. A join is read back from its words whatever it is
compared with, except for index hints that its dialect is not told of.
-/

namespace FluentSql

open FluentSql.Text

/-- The join without the hints that the dialect is not told of. -/
def Join.visible (d : Dialect) (j : Join) : Join :=
  { j with indexHints := visibleHints d j.indexHints }

namespace Reading

def readKind : List String → Option (JoinKind × List String)
  | "INNER" :: "JOIN" :: ws => some (.inner, ws)
  | "LEFT" :: "JOIN" :: ws => some (.left, ws)
  | "RIGHT" :: "JOIN" :: ws => some (.right, ws)
  | "FULL" :: "JOIN" :: ws => some (.full, ws)
  | "CROSS" :: "JOIN" :: ws => some (.cross, ws)
  | _ => none

def readTarget (ws : List String) : Option (JoinTarget × List String) := do
  let (table, ws) ← readWord ws
  let (aliasName, ws) ← optional "AS" none (fun ws => (readWord ws).map (Prod.map some id)) ws
  return (⟨table, aliasName⟩, ws)

def readHints : List String → Option (List String × List String) :=
  optional "USE" [] (behind "INDEX" (behind "(" fun ws => do
    let (names, ws) ← readListed readWord ws
    behind ")" (fun ws => some (names, ws)) ws))

def readLead : String → Option (Option Connective)
  | "ON" => some none
  | "AND" => some (some .and)
  | "OR" => some (some .or)
  | _ => none

def readOperator : List String → Option (Operator × List String)
  | "NOT" :: "LIKE" :: ws => some (.notLike, ws)
  | w :: ws => (Operator.all.find? fun op => op.sql == w).map fun op => (op, ws)
  | [] => none

/-- Behind a quote stands the content of a literal. -/
def readOperand (w : String) : Operand :=
  match w.toList with
  | '\'' :: s => .literal (String.ofList s)
  | _ => .column w

def readOn : List String → Option (OnCondition × List String)
  | [] => none
  | lead :: ws => do
    let connective ← readLead lead
    let (column, ws) ← readWord ws
    let (operator, ws) ← readOperator ws
    let (operand, ws) ← readWord ws
    return (⟨column, operator, readOperand operand, connective⟩, ws)

def readJoin (ws : List String) : Option (Join × List String) := do
  let (kind, ws) ← readKind ws
  let (target, ws) ← readTarget ws
  let (indexHints, ws) ← readHints ws
  let (on, ws) := many readOn List.length ws
  return (⟨target, kind, on, indexHints⟩, ws)

theorem readKind_words (kind : JoinKind) (ws : List String) :
    readKind (lexemes kind.sql.toList ++ ws) = some (kind, ws) := by
  cases kind <;> rfl

theorem readTarget_words (t : JoinTarget) {ws : List String} (hws : ws.head? ≠ some "AS") :
    readTarget (t.words ++ ws) = some (t, ws) := by
  obtain ⟨table, aliasName⟩ := t
  cases aliasName with
  | none =>
    show (optional "AS" none _ ws).bind _ = _
    rw [optional_other hws]
    rfl
  | some name => rfl

theorem readHints_words (d : Dialect) (names : List String) {ws : List String}
    (hws : ws.head? ≠ some "USE") :
    readHints (hintWords d names ++ ws) = some (visibleHints d names, ws) := by
  unfold hintWords
  split
  · next hnil => rw [hnil, List.nil_append, readHints, optional_other hws]
  · next hne =>
    have hname : ∀ name ∈ visibleHints d names, ∀ rest,
        readWord ([name] ++ rest) = some (name, rest) := fun _ _ _ => rfl
    have hclose : (")" :: ws).head? ≠ some "," := fun h => absurd (Option.some.inj h) (by decide)
    have hlisted := readListed_listed hname hne hclose
    have htext : listedNames (visibleHints d names) ++ [")"] ++ ws =
        listed ((visibleHints d names).map fun name => [name]) ++ ")" :: ws :=
      List.append_assoc _ _ _
    show (readListed readWord (listedNames (visibleHints d names) ++ [")"] ++ ws)).bind _ = _
    rw [htext, hlisted]
    rfl

theorem readLead_leadWord (k : Option Connective) :
    readLead (OnCondition.leadWord k) = some k := by
  cases k with
  | none => rfl
  | some k => cases k <;> rfl

theorem readOperator_words (op : Operator) (ws : List String) :
    readOperator (lexemes op.sql.toList ++ ws) = some (op, ws) := by
  cases op <;> rfl

theorem readOperand_word (raw : String) :
    readOperand (Operand.read raw).word = Operand.read raw := by
  unfold readOperand
  cases hread : Operand.read raw with
  | literal s =>
    rw [Operand.word, String.toList_ofList]
    exact congrArg Operand.literal String.ofList_toList
  | column name =>
    have hname := Operand.dotted_of_isReference (Operand.column_of_read hread)
    rw [Operand.word]
    split
    · next s hquote =>
      have hfree := hname.free.1
      rw [hquote] at hfree
      exact absurd List.mem_cons_self hfree
    · rfl

theorem readOn_words {c : OnCondition} (h : readOperand c.operand.word = c.operand)
    (ws : List String) : readOn (c.words ++ ws) = some (c, ws) := by
  obtain ⟨column, operator, operand, connective⟩ := c
  have htext : lexemes operator.sql.toList ++ [operand.word] ++ ws =
      lexemes operator.sql.toList ++ operand.word :: ws := List.append_assoc _ _ _
  show (readLead (OnCondition.leadWord connective)).bind (fun connective =>
    (readOperator (lexemes operator.sql.toList ++ [operand.word] ++ ws)).bind _) = _
  rw [readLead_leadWord, htext, readOperator_words]
  exact congrArg (fun operand => some (OnCondition.mk column operator operand connective, ws)) h

/-- Behind a join stands no further condition where none of its leads stands. -/
theorem readOn_other {ws : List String} (h : ∀ k, ws.head? ≠ some (OnCondition.leadWord k)) :
    readOn ws = none := by
  cases ws with
  | nil => rfl
  | cons w ws =>
    have hlead : readLead w = none := by
      unfold readLead
      split
      · exact absurd rfl (h none)
      · exact absurd rfl (h (some .and))
      · exact absurd rfl (h (some .or))
      · rfl
    rw [readOn, hlead]
    rfl

theorem readKind_other {ws : List String}
    (h : ∀ kind : JoinKind, ws.head? ≠ (lexemes kind.sql.toList).head?) : readKind ws = none := by
  unfold readKind
  split
  · exact absurd rfl (h .inner)
  · exact absurd rfl (h .left)
  · exact absurd rfl (h .right)
  · exact absurd rfl (h .full)
  · exact absurd rfl (h .cross)
  · rfl

/-- The keywords of the parts behind the joins. -/
def tailKeywords : List String :=
  ["WHERE", "GROUP", "HAVING", "ORDER", "LIMIT", "OFFSET"]

/-- The lexemes that a join may end in front of. -/
def joinKeywords : List String :=
  ["INNER", "LEFT", "RIGHT", "FULL", "CROSS"] ++ tailKeywords

theorem mem_leadWord (k : Option Connective) : OnCondition.leadWord k ∈ ["ON", "AND", "OR"] := by
  cases k with
  | none => decide
  | some k => cases k <;> decide

theorem follows_on (on : List OnCondition) {ws : List String} (hws : Follows joinKeywords ws) :
    Follows (["ON", "AND", "OR"] ++ joinKeywords) (on.flatMap OnCondition.words ++ ws) := by
  cases on with
  | nil => exact fun w hw => List.mem_append_right _ (hws w hw)
  | cons c on => exact follows_cons (List.mem_append_left _ (mem_leadWord c.connective)) _

theorem follows_hints (d : Dialect) (names : List String) :
    Follows ["USE"] (hintWords d names) := by
  unfold hintWords
  split
  · exact follows_nil _
  · exact follows_cons List.mem_cons_self _

theorem readJoin_words {j : Join} (h : ∀ c ∈ j.on, ∃ raw, c.operand = Operand.read raw)
    (d : Dialect) {ws : List String} (hws : Follows joinKeywords ws) :
    readJoin (j.words d ++ ws) = some (j.visible d, ws) := by
  have hon : ∀ c ∈ j.on, ∀ rest, True → readOn (c.words ++ rest) = some (c, rest) ∧ True := by
    intro c hc rest _
    obtain ⟨raw, hraw⟩ := h c hc
    have hoperand : readOperand c.operand.word = c.operand := by
      rw [hraw]
      exact readOperand_word raw
    exact ⟨readOn_words hoperand rest, trivial⟩
  have hleads : ∀ w ∈ ["ON", "AND", "OR"], w ∉ joinKeywords := by decide
  have hend : readOn ws = none := readOn_other fun k => hws.ne (hleads _ (mem_leadWord k))
  have hmany := many_flatMap hon (fun _ _ => List.cons_ne_nil _ _) trivial hend
  have honFollows := follows_on j.on hws
  have htarget : (hintWords d j.indexHints ++ (j.on.flatMap OnCondition.words ++ ws)).head? ≠
      some "AS" := ((follows_hints d j.indexHints).part honFollows).ne (by decide)
  have hhints : (j.on.flatMap OnCondition.words ++ ws).head? ≠ some "USE" :=
    honFollows.ne (by decide)
  have htext : j.words d ++ ws = lexemes j.kind.sql.toList ++ (j.target.words ++
      (hintWords d j.indexHints ++ (j.on.flatMap OnCondition.words ++ ws))) := by
    simp only [Join.words, List.append_assoc]
  rw [htext, readJoin, readKind_words]
  show (readTarget _).bind _ = _
  rw [readTarget_words _ htarget]
  show (readHints _).bind _ = _
  rw [readHints_words d _ hhints]
  show some (Join.mk j.target j.kind (many readOn List.length _).1 _, _) = _
  rw [hmany]
  rfl

theorem words_visible (d : Dialect) (j : Join) : (j.visible d).words d = j.words d := by
  have hhints : hintWords d (visibleHints d j.indexHints) = hintWords d j.indexHints := by
    cases d <;> rfl
  rw [Join.words, Join.words, Join.visible, hhints]

/-- The words of a join start with its kind. -/
theorem follows_join (d : Dialect) (j : Join) (ws : List String) :
    Follows joinKeywords (j.words d ++ ws) := by
  unfold Join.words
  cases j.kind <;> exact follows_cons (by decide) _

theorem follows_joins (d : Dialect) (joins : List Join) {ws : List String}
    (hws : Follows tailKeywords ws) :
    Follows joinKeywords (joins.flatMap (Join.words d) ++ ws) := by
  cases joins with
  | nil => exact fun w hw => List.mem_append_right _ (hws w hw)
  | cons j joins =>
    rw [List.flatMap_cons, List.append_assoc]
    exact follows_join d j _

/-- Joins are read back in front of the parts behind them. -/
theorem many_joins {joins : List Join}
    (h : ∀ j ∈ joins, ∀ c ∈ j.on, ∃ raw, c.operand = Operand.read raw) (d : Dialect)
    {ws : List String} (hws : Follows tailKeywords ws) :
    many readJoin List.length (joins.flatMap (Join.words d) ++ ws) =
      (joins.map (Join.visible d), ws) := by
  have hjoin : ∀ j ∈ joins.map (Join.visible d), ∀ rest, Follows joinKeywords rest →
      readJoin (j.words d ++ rest) = some (j, rest) ∧
        Follows joinKeywords (j.words d ++ rest) := by
    intro j hj rest hrest
    obtain ⟨i, hi, rfl⟩ := List.mem_map.mp hj
    rw [words_visible]
    exact ⟨readJoin_words (h i hi) d hrest, follows_join d i rest⟩
  have hne : ∀ j ∈ joins.map (Join.visible d), j.words d ≠ [] := by
    intro j _
    unfold Join.words
    cases j.kind <;> exact List.cons_ne_nil _ _
  have hend : readJoin ws = none := by
    have hkind : readKind ws = none := readKind_other fun kind => by
      cases kind <;> exact hws.ne (by decide)
    rw [readJoin, hkind]
    rfl
  have hmany := many_flatMap hjoin hne (fun w hw => List.mem_append_right _ (hws w hw)) hend
  rw [List.flatMap_map] at hmany
  simp only [words_visible] at hmany
  exact hmany

end Reading

end FluentSql
