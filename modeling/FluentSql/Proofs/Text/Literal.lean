import FluentSql.Proofs.Join.Operand
import FluentSql.Proofs.Text.Lexeme

/-!
# Lexemes and literals

A string literal is one lexeme, whatever its content is: its opening quote and the content
behind it. Between literals a text is cut into lexemes as conditions are. In literals quotes
are doubled and nothing else is escaped, which is how all dialects are written to.
-/

namespace FluentSql.Text

open Operand

/-- The content of the first literal of a text, and what stands behind it. -/
def firstLiteral (cs : List Char) : Option (List Char × List Char) :=
  readBody .sqlite (cs.dropWhile (· != '\'')).tail

theorem length_firstLiteral {cs content rest : List Char}
    (h : firstLiteral cs = some (content, rest)) : rest.length < cs.length := by
  have hread := length_readBody h
  have hdrop := (List.dropWhile_sublist (fun c => c != '\'') (l := cs)).length_le
  rw [List.length_tail] at hread
  omega

def quotedLexemes (cs : List Char) : List String :=
  lexemes (cs.takeWhile (· != '\'')) ++
    match _h : firstLiteral cs with
    | none => []
    | some (content, rest) => String.ofList ('\'' :: content) :: quotedLexemes rest
termination_by cs.length
decreasing_by exact length_firstLiteral (by assumption)

theorem quotedLexemes_of_none {cs : List Char} (h : firstLiteral cs = none) :
    quotedLexemes cs = lexemes (cs.takeWhile (· != '\'')) := by
  rw [quotedLexemes]
  split
  · exact List.append_nil _
  · next hsome =>
    rw [h] at hsome
    cases hsome

theorem quotedLexemes_of_some {cs content rest : List Char}
    (h : firstLiteral cs = some (content, rest)) :
    quotedLexemes cs = lexemes (cs.takeWhile (· != '\'')) ++
      String.ofList ('\'' :: content) :: quotedLexemes rest := by
  rw [quotedLexemes]
  split
  · next hnone =>
    rw [h] at hnone
    cases hnone
  · next hsome =>
    rw [h] at hsome
    obtain ⟨rfl, rfl⟩ := Prod.mk.inj (Option.some.inj hsome)
    rfl

section Unquoted

variable {a : List Char} (ha : '\'' ∉ a)
include ha

theorem takeWhile_unquoted (b : List Char) :
    (a ++ b).takeWhile (· != '\'') = a ++ b.takeWhile (· != '\'') :=
  List.takeWhile_append_of_pos fun c hc => by
    rw [bne_iff_ne]
    rintro rfl
    exact ha hc

theorem firstLiteral_unquoted (b : List Char) : firstLiteral (a ++ b) = firstLiteral b := by
  have hdrop : (a ++ b).dropWhile (· != '\'') = b.dropWhile (· != '\'') :=
    List.dropWhile_append_of_pos fun c hc => by
      rw [bne_iff_ne]
      rintro rfl
      exact ha hc
  rw [firstLiteral, hdrop]
  rfl

/-- What is cut off in front of the next literal is cut off in front of the whole text. -/
theorem quotedLexemes_split {b : List Char} {ws : List String}
    (h : lexemes (a ++ b.takeWhile (· != '\'')) = ws ++ lexemes (b.takeWhile (· != '\''))) :
    quotedLexemes (a ++ b) = ws ++ quotedLexemes b := by
  cases hliteral : firstLiteral b with
  | none =>
    have hall : firstLiteral (a ++ b) = none := (firstLiteral_unquoted ha b).trans hliteral
    rw [quotedLexemes_of_none hliteral, quotedLexemes_of_none hall, takeWhile_unquoted ha, h]
  | some literal =>
    have hall : firstLiteral (a ++ b) = some literal := (firstLiteral_unquoted ha b).trans hliteral
    rw [quotedLexemes_of_some hliteral, quotedLexemes_of_some hall, takeWhile_unquoted ha, h,
      List.append_assoc]

/-- Text without quotes is cut off from what a break starts. -/
theorem quotedLexemes_append {b : List Char} (hb : Breaks b) :
    quotedLexemes (a ++ b) = lexemes a ++ quotedLexemes b := by
  have hfront : Breaks (b.takeWhile (· != '\'')) := by
    cases b with
    | nil => exact breaks_nil
    | cons c b =>
      have hc : isBreak c = true := hb
      have hquote : (c != '\'') = true := by
        rw [bne_iff_ne]
        rintro rfl
        revert hc
        decide
      rw [List.takeWhile_cons_of_pos (p := (· != '\'')) hquote]
      exact breaks_cons hc _
  exact quotedLexemes_split ha (lexemes_append a hfront)

/-- Without literals there are the lexemes of conditions. -/
theorem quotedLexemes_unquoted : quotedLexemes a = lexemes a := by
  have hnil : quotedLexemes [] = [] := quotedLexemes_of_none rfl
  have happend := quotedLexemes_append ha breaks_nil
  rw [List.append_nil, hnil, List.append_nil] at happend
  exact happend

end Unquoted

theorem quotedLexemes_blank (b : List Char) : quotedLexemes (' ' :: b) = quotedLexemes b := by
  have hquote : '\'' ∉ [' '] := by decide
  have hfront : lexemes ([' '] ++ b.takeWhile (· != '\'')) =
      [] ++ lexemes (b.takeWhile (· != '\'')) := lexemes_blank _
  exact quotedLexemes_split hquote hfront

theorem quote_of_breaks {cs : List Char} (h : Breaks cs) : cs.head? ≠ some '\'' := by
  cases cs with
  | nil =>
    intro hquote
    cases hquote
  | cons c cs =>
    intro hquote
    obtain rfl := Option.some.inj hquote
    have hbreak : isBreak '\'' = true := h
    revert hbreak
    decide

/-- A literal is one lexeme in front of anything but a quote. -/
theorem quotedLexemes_literal (s : List Char) {rest : List Char}
    (hrest : rest.head? ≠ some '\'') :
    quotedLexemes ('\'' :: (doubled s ++ '\'' :: rest)) =
      String.ofList ('\'' :: s) :: quotedLexemes rest :=
  quotedLexemes_of_some (readBody_literal (by decide) s hrest)

end FluentSql.Text
