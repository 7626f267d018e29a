import Mathlib.Data.List.Basic
import FluentSql.Schema.Piece

/-!
# Tokens of schema text

A reader of schema text takes an identifier between quotation marks for one token, a mark
written twice inside for one mark, and every character outside for a token of its own.
Pieces of which no two names touch are read back one by one.
-/

namespace FluentSql

inductive SchemaToken where
  | symbol (c : Char)
  | name (s : String)
  deriving DecidableEq

namespace SchemaToken

def name? : SchemaToken → Option String
  | .symbol _ => none
  | .name s => some s

/-- The token without the name it carries. -/
def unnamed : SchemaToken → SchemaToken
  | .symbol c => .symbol c
  | .name _ => .name ""

end SchemaToken

/-- Where a reader stands: outside identifiers, inside one of which it has read some
characters, or there behind a mark, which ends it unless a second one follows. -/
inductive NameState where
  | outside
  | inside (read : List Char)
  | marked (read : List Char)

/-- The tokens of a text; there are none if an identifier does not end. -/
def tokensFrom (mark : Char) : NameState → List Char → Option (List SchemaToken)
  | .outside, [] => some []
  | .inside _, [] => none
  | .marked read, [] => some [.name (String.ofList read)]
  | .outside, c :: cs =>
    if c = mark then tokensFrom mark (.inside []) cs
    else (tokensFrom mark .outside cs).map (.symbol c :: ·)
  | .inside read, c :: cs =>
    if c = mark then tokensFrom mark (.marked read) cs
    else tokensFrom mark (.inside (read ++ [c])) cs
  | .marked read, c :: cs =>
    if c = mark then tokensFrom mark (.inside (read ++ [mark])) cs
    else (tokensFrom mark .outside cs).map (.name (String.ofList read) :: .symbol c :: ·)

def Dialect.schemaTokens (d : Dialect) (text : String) : Option (List SchemaToken) :=
  tokensFrom d.identifierQuote .outside text.toList

section Reader

variable {mark : Char}

theorem tokensFrom_copied {cs : List Char} (h : mark ∉ cs) (rest : List Char) :
    tokensFrom mark .outside (cs ++ rest) =
      (tokensFrom mark .outside rest).map (cs.map SchemaToken.symbol ++ ·) := by
  induction cs with
  | nil => exact Option.map_id'.symm
  | cons c cs ih =>
    have hc : c ≠ mark := fun he => h (he ▸ List.mem_cons_self)
    rw [List.cons_append, tokensFrom, if_neg hc, ih fun hm => h (List.mem_cons_of_mem c hm),
      Option.map_map]
    rfl

/-- Behind its last mark an identifier is over, unless a mark follows. -/
theorem tokensFrom_marked (read : List Char) {rest : List Char} (h : rest.head? ≠ some mark) :
    tokensFrom mark (.marked read) rest =
      (tokensFrom mark .outside rest).map (.name (String.ofList read) :: ·) := by
  cases rest with
  | nil => rfl
  | cons c cs =>
    have hc : c ≠ mark := fun he => h (he ▸ rfl)
    rw [tokensFrom, tokensFrom, if_neg hc, if_neg hc, Option.map_map]
    rfl

/-- A name with its marks written twice is read up to the mark that ends it. -/
theorem tokensFrom_inside (read name : List Char) {rest : List Char}
    (h : rest.head? ≠ some mark) :
    tokensFrom mark (.inside read)
        ((name.flatMap fun c => if c = mark then [mark, mark] else [c]) ++ mark :: rest) =
      (tokensFrom mark .outside rest).map (.name (String.ofList (read ++ name)) :: ·) := by
  induction name generalizing read with
  | nil =>
    rw [List.flatMap_nil, List.nil_append, tokensFrom, if_pos rfl, tokensFrom_marked read h,
      List.append_nil]
  | cons c name ih =>
    rw [List.flatMap_cons]
    by_cases hc : c = mark
    · rw [if_pos hc, List.append_assoc, List.cons_append, List.cons_append, List.nil_append,
        tokensFrom, if_pos rfl, tokensFrom, if_pos rfl, ih, hc, List.append_assoc]
      rfl
    · rw [if_neg hc, List.append_assoc, List.cons_append, List.nil_append, tokensFrom, if_neg hc,
        ih, List.append_assoc]
      rfl

theorem tokensFrom_quoteIdentifier (d : Dialect) (name : String) {rest : List Char}
    (h : rest.head? ≠ some d.identifierQuote) :
    tokensFrom d.identifierQuote .outside ((d.quoteIdentifier name).toList ++ rest) =
      (tokensFrom d.identifierQuote .outside rest).map (.name name :: ·) := by
  have hinside := tokensFrom_inside [] name.toList h
  rw [List.nil_append, String.ofList_toList] at hinside
  rw [Dialect.quoteIdentifier, String.toList_ofList, List.cons_append, List.cons_append,
    tokensFrom, if_pos rfl, List.append_assoc]
  exact hinside

end Reader

namespace SchemaPiece

def tokens : SchemaPiece → List SchemaToken
  | .verbatim s => s.toList.map .symbol
  | .identifier name => [.name name]

def name? : SchemaPiece → Option String
  | .verbatim _ => none
  | .identifier name => some name

/-- Pieces of which no two names touch and all copied text is as `P` says. -/
inductive Spelled (P : String → Prop) : List SchemaPiece → Prop where
  | nil : Spelled P []
  | name (name : String) : Spelled P [.identifier name]
  | copied {s : String} {ps : List SchemaPiece} (hs : P s) (hrest : Spelled P ps) :
      Spelled P (.verbatim s :: ps)
  | named (name : String) {s : String} {ps : List SchemaPiece} (hs : P s) (hne : s ≠ "")
      (hrest : Spelled P ps) : Spelled P (.identifier name :: .verbatim s :: ps)

theorem toList_renderAll_cons (d : Dialect) (p : SchemaPiece) (ps : List SchemaPiece) :
    (renderAll d (p :: ps)).toList = (p.render d).toList ++ (renderAll d ps).toList :=
  String.toList_append

/-- Where the copied text is free of the mark, the pieces are read back one by one. -/
theorem schemaTokens_renderAll {d : Dialect} {pieces : List SchemaPiece}
    (h : Spelled (fun s => d.identifierQuote ∉ s.toList) pieces) :
    d.schemaTokens (renderAll d pieces) = some (pieces.flatMap tokens) := by
  unfold Dialect.schemaTokens
  induction h with
  | nil => rfl
  | name name =>
    have hend : (renderAll d []).toList.head? ≠ some d.identifierQuote :=
      (Option.some_ne_none _).symm
    rw [toList_renderAll_cons, render, tokensFrom_quoteIdentifier d name hend]
    rfl
  | copied hs _ ih =>
    rw [toList_renderAll_cons, render, tokensFrom_copied hs, ih]
    rfl
  | @named name s ps hs hne _ ih =>
    obtain ⟨c, cs, hcs⟩ := List.exists_cons_of_ne_nil
      (fun hnil => hne (String.toList_eq_nil_iff.mp hnil) : s.toList ≠ [])
    have hhead : (s.toList ++ (renderAll d ps).toList).head? ≠ some d.identifierQuote := by
      intro hmark
      rw [hcs] at hmark hs
      exact hs (Option.some.inj hmark ▸ List.mem_cons_self)
    rw [toList_renderAll_cons, toList_renderAll_cons, render, render,
      tokensFrom_quoteIdentifier d name hhead, tokensFrom_copied hs, ih]
    rfl

theorem filterMap_tokens (pieces : List SchemaPiece) :
    (pieces.flatMap tokens).filterMap SchemaToken.name? = pieces.filterMap name? := by
  induction pieces with
  | nil => rfl
  | cons p ps ih =>
    rw [List.flatMap_cons, List.filterMap_append, ih]
    cases p with
    | verbatim s =>
      rw [tokens, List.filterMap_map, List.filterMap_cons_none rfl]
      have hnone : s.toList.filterMap (SchemaToken.name? ∘ SchemaToken.symbol) = [] :=
        List.filterMap_eq_nil_iff.mpr fun _ _ => rfl
      rw [hnone, List.nil_append]
    | identifier name => rfl

/-- The piece without the name it quotes. -/
def unnamed : SchemaPiece → SchemaPiece
  | .verbatim s => .verbatim s
  | .identifier _ => .identifier ""

theorem unnamed_tokens (pieces : List SchemaPiece) :
    (pieces.flatMap tokens).map SchemaToken.unnamed = (pieces.map unnamed).flatMap tokens := by
  rw [List.map_flatMap, List.flatMap_map]
  refine List.flatMap_congr fun p _ => ?_
  cases p with
  | verbatim s => exact List.map_map
  | identifier name => rfl

end SchemaPiece

end FluentSql
