import FluentSql.Proofs.Query.Worded
import FluentSql.Proofs.Text.Literal

/-!
# Lexemes of joins

What joins are cut into when all names are words and points: a name is one lexeme, and so
is a string that a join compares with. Index hints leave lexemes on MySQL only.
-/

namespace FluentSql

open FluentSql.Text

/-- The index hints that a dialect is told of. -/
def visibleHints (d : Dialect) (names : List String) : List String :=
  if d = .mySql then names else []

def hintWords (d : Dialect) (names : List String) : List String :=
  if visibleHints d names = [] then []
  else "USE" :: "INDEX" :: "(" :: (listedNames (visibleHints d names) ++ [")"])

/-- Hints of a query and of a join differ in a blank, which is no lexeme. -/
theorem lexemes_hints {d : Dialect} {names : List String} (h : ∀ name ∈ names, Dotted name)
    (lead : String) (hlead : lexemes lead.toList = ["USE", "INDEX"]) :
    lexemes (if d = .mySql ∧ names ≠ [] then lead ++ "(" ++ commaList names ++ ")"
      else "").toList = hintWords d names := by
  have htext : (lead ++ "(" ++ commaList names ++ ")").toList =
      lead.toList ++ '(' :: ((commaList names).toList ++ [')']) := by
    rw [String.toList_append, String.toList_append, String.toList_append]
    simp only [List.append_assoc]
    rfl
  have hopen : Breaks ('(' :: ((commaList names).toList ++ [')'])) := breaks_cons (by decide) _
  have hclose : Breaks [')'] := breaks_cons (by decide) []
  unfold hintWords visibleHints
  by_cases hd : d = .mySql
  · by_cases hnil : names = []
    · rw [if_neg fun h => h.2 hnil, if_pos hd, if_pos hnil]
      rfl
    · rw [if_pos ⟨hd, hnil⟩, if_pos hd, if_neg hnil, htext, lexemes_append _ hopen, hlead,
        lexemes_punctuation (by decide), lexemes_append _ hclose, lexemes_names h,
        lexemes_punctuation (by decide)]
      rfl
  · rw [if_neg fun h => hd h.1, if_neg hd, if_pos rfl]
    rfl

theorem breaks_hints (d : Dialect) (names : List String) (lead : String)
    (hlead : ∀ rest, Breaks (lead.toList ++ rest)) :
    Breaks (if d = .mySql ∧ names ≠ [] then lead ++ "(" ++ commaList names ++ ")"
      else "").toList := by
  split
  · rw [String.toList_append, String.toList_append, String.toList_append, List.append_assoc,
      List.append_assoc]
    exact hlead _
  · exact breaks_nil

namespace Fragment

/-- Fragments without slots that leave the lexemes `ws` in a statement. -/
structure Spells (d : Dialect) (fs : List Fragment) (ws : List String) : Prop where
  breaks : ∀ n, Breaks (marked d n fs)
  words : ∀ n {rest : List Char}, Breaks rest →
    quotedLexemes (marked d n fs ++ rest) = ws ++ quotedLexemes rest

variable {d : Dialect} {fs gs : List Fragment} {vs ws : List String}

theorem spells_text {s : String} (hs : Unquoted s) (hbreaks : Breaks s.toList) :
    Spells d [.text s] (lexemes s.toList) where
  breaks n := by
    rw [marked, marked, List.append_nil]
    exact hbreaks
  words n rest hrest := by
    rw [marked, marked, List.append_nil]
    exact quotedLexemes_append hs hrest

theorem Spells.append (hfs : Spells d fs vs) (hgs : Spells d gs ws) :
    Spells d (fs ++ gs) (vs ++ ws) where
  breaks n := by
    rw [marked_append]
    exact breaks_append (hfs.breaks n) (hgs.breaks _)
  words n rest hrest := by
    rw [marked_append, List.append_assoc, hfs.words n (breaks_append (hgs.breaks _) hrest),
      hgs.words _ hrest, List.append_assoc]

theorem spells_flatMap {α : Type} {f : α → List Fragment} {words : α → List String} {xs : List α}
    (h : ∀ x ∈ xs, Spells d (f x) (words x)) : Spells d (xs.flatMap f) (xs.flatMap words) := by
  induction xs with
  | nil => exact ⟨fun _ => breaks_nil, fun _ _ _ => rfl⟩
  | cons x xs ih =>
    obtain ⟨hx, hxs⟩ := List.forall_mem_cons.mp h
    exact hx.append (ih hxs)

end Fragment

/-- A literal keeps its opening quote, so that it is not taken for a column. -/
def Operand.word : Operand → String
  | .column name => name
  | .literal s => String.ofList ('\'' :: s.toList)

namespace OnCondition

def leadWord : Option Connective → String
  | none => "ON"
  | some k => k.sql

def words (c : OnCondition) : List String :=
  leadWord c.connective :: c.column :: (lexemes c.operator.sql.toList ++ [c.operand.word])

theorem lexemes_front {c : OnCondition} (h : Dotted c.column) :
    lexemes c.front.toList =
      leadWord c.connective :: c.column :: lexemes c.operator.sql.toList := by
  have hlead : ∀ lead : String, lexemes ((lead ++ " ") ++ c.column).toList =
      lexemes lead.toList ++ [c.column] := by
    intro lead
    rw [lexemes_spaced, h.lexemes]
  rw [front, lexemes_spaced]
  cases c.connective with
  | none =>
    have hon := hlead " ON"
    rw [show lexemes (" ON" : String).toList = ["ON"] by decide] at hon
    exact congrArg (· ++ lexemes c.operator.sql.toList) hon
  | some k =>
    have hk := hlead (" " ++ k.sql)
    rw [show lexemes (" " ++ k.sql).toList = [k.sql] by cases k <;> decide] at hk
    exact congrArg (· ++ lexemes c.operator.sql.toList) hk

theorem breaks_front (c : OnCondition) (rest : List Char) : Breaks (c.front.toList ++ rest) := by
  rw [front, String.toList_append, String.toList_append, String.toList_append]
  simp only [List.append_assoc]
  cases c.connective with
  | none => rfl
  | some k => cases k <;> rfl

end OnCondition

namespace Operand

theorem dotted_of_isReference {name : String} (h : isReference name.toList = true) :
    Dotted name := by
  obtain ⟨qualifier, tail, hname, _, _, hqualifier, htail⟩ := exists_of_isReference h
  refine ⟨?_, ?_⟩
  · rintro rfl
    exact absurd hname (by simp)
  · intro c hc
    rw [hname, List.mem_append, List.mem_cons] at hc
    rcases hc with hc | rfl | hc
    · exact .inl (hqualifier c hc)
    · exact .inr rfl
    · exact .inl (htail c hc)

theorem quotedLexemes_render (raw : String) {rest : List Char} (hrest : Breaks rest) :
    quotedLexemes ((read raw).fragment.render.toList ++ rest) =
      (read raw).word :: quotedLexemes rest := by
  cases hread : read raw with
  | column name =>
    have hname := dotted_of_isReference (column_of_read hread)
    show quotedLexemes (name.toList ++ rest) = name :: quotedLexemes rest
    rw [quotedLexemes_append hname.free.1 hrest, hname.lexemes]
    rfl
  | literal s =>
    have htext : (literal s).fragment.render.toList ++ rest =
        '\'' :: (doubled s.toList ++ '\'' :: rest) := by
      rw [fragment, toList_render_literal, List.cons_append, List.append_assoc]
      rfl
    rw [htext, quotedLexemes_literal _ (quote_of_breaks hrest)]
    rfl

end Operand

/-- The table and its alias. -/
def JoinTarget.words (t : JoinTarget) : List String :=
  match t.aliasName with
  | none => [t.table]
  | some name => [t.table, "AS", name]

namespace Join

def words (d : Dialect) (j : Join) : List String :=
  lexemes j.kind.sql.toList ++ (j.target.words ++ (hintWords d j.indexHints ++
    j.on.flatMap OnCondition.words))

variable {d : Dialect}

theorem spells_onCondition {c : OnCondition} (hcolumn : Dotted c.column) {raw : String}
    (hoperand : c.operand = Operand.read raw) :
    Fragment.Spells d (onFragments [c]) c.words := by
  have htext : ∀ n, Fragment.marked d n (onFragments [c]) =
      c.front.toList ++ ' ' :: c.operand.fragment.render.toList := by
    intro n
    have hmarked : Fragment.marked d n (onFragments [c]) =
        (c.front ++ " ").toList ++ Fragment.marked d n [c.operand.fragment] := rfl
    have hrender : Fragment.marked d n [c.operand.fragment] =
        c.operand.fragment.render.toList := by
      cases c.operand <;> exact List.append_nil _
    rw [hmarked, hrender, String.toList_append, List.append_assoc]
    rfl
  constructor
  · intro n
    rw [htext]
    exact OnCondition.breaks_front c _
  · intro n rest hrest
    have hblank : Breaks (' ' :: (c.operand.fragment.render.toList ++ rest)) :=
      breaks_cons (by decide) _
    have hfront : Unquoted c.front := OnCondition.composed_front unquoted_composed hcolumn.free.1
    rw [htext, List.append_assoc, List.cons_append,
      quotedLexemes_append hfront hblank, quotedLexemes_blank,
      hoperand, Operand.quotedLexemes_render raw hrest, OnCondition.lexemes_front hcolumn,
      OnCondition.words, hoperand]
    simp only [List.cons_append, List.append_assoc, List.nil_append]

theorem lexemes_target {t : JoinTarget} (htable : Dotted t.table)
    (halias : ∀ name ∈ t.aliasName, Dotted name) : lexemes t.sql.toList = t.words := by
  unfold JoinTarget.sql JoinTarget.words
  cases hname : t.aliasName with
  | none => exact htable.lexemes
  | some name =>
    have htext : t.table ++ " AS " ++ name = (t.table ++ " " ++ "AS") ++ " " ++ name := by
      simp only [String.append_assoc]
      rfl
    have has : lexemes ("AS" : String).toList = ["AS"] := by decide
    dsimp only
    rw [htext, lexemes_spaced, lexemes_spaced, htable.lexemes, has, (halias name hname).lexemes]
    rfl

theorem breaks_front (d : Dialect) (j : Join) : Breaks (j.front d).toList := by
  unfold front
  simp only [String.toList_append, List.append_assoc]
  rfl

theorem lexemes_front {j : Join} (hj : j.Worded) :
    lexemes (j.front d).toList =
      lexemes j.kind.sql.toList ++ (j.target.words ++ hintWords d j.indexHints) := by
  have hlead : lexemes (" " ++ j.kind.sql).toList = lexemes j.kind.sql.toList := by
    rw [String.toList_append]
    exact lexemes_blank _
  have hbreaks : Breaks (hintText d j.indexHints).toList :=
    breaks_hints d j.indexHints " USE INDEX" fun _ => rfl
  have hhints : lexemes (hintText d j.indexHints).toList = hintWords d j.indexHints :=
    lexemes_hints hj.indexHints " USE INDEX" (by decide)
  rw [front, String.toList_append, lexemes_append _ hbreaks, lexemes_spaced, hlead,
    lexemes_target hj.table hj.aliasName, hhints, List.append_assoc]

theorem spells_fragments {V : Vocabulary} {j : Join} (h : j.Within V) (hj : j.Worded) :
    Fragment.Spells d (j.fragments d) (j.words d) := by
  have hunquoted : Unquoted (j.front d) := composed_front unquoted_composed d hj.table.free.1
    (fun name hname => (hj.aliasName name hname).free.1)
    fun name hname => (hj.indexHints name hname).free.1
  have hhead := Fragment.spells_text (d := d) hunquoted (breaks_front d j)
  rw [lexemes_front hj] at hhead
  have hon : ∀ c ∈ j.on, Fragment.Spells d (onFragments [c]) c.words := by
    intro c hc
    obtain ⟨raw, hraw⟩ := (h.on c hc).operand
    exact spells_onCondition (hj.on c hc) hraw
  have hall := hhead.append (Fragment.spells_flatMap hon)
  rw [List.append_assoc, List.append_assoc] at hall
  exact hall

end Join

end FluentSql
