import FluentSql.Text.Case

/-!
# Patterns of texts

A pattern matches whole texts. One kind has `%` for any text and `_` for any character,
does not tell capital letters A to Z from small ones, and may name a character that takes
the meaning off the next. The other has `*`, `?` and sets of characters in brackets.
-/

namespace FluentSql.Sqlite

inductive PatternItem where
  | anyText
  | anyChar
  | char (c : Char)
  /-- A character within one of the ranges, or within none of them. -/
  | set (inverted : Bool) (ranges : List (Char × Char))
  | nothing

namespace Pattern

def ofLike (escape : Option Char) : List Char → List PatternItem
  | [] => []
  | c :: cs =>
    if escape = some c then
      match cs with
      | [] => [.nothing]
      | d :: cs => .char d :: ofLike escape cs
    else if c = '%' then .anyText :: ofLike escape cs
    else if c = '_' then .anyChar :: ofLike escape cs
    else .char c :: ofLike escape cs

/-- The ranges of a set up to its closing bracket, and what follows it. `before` is the
character that a range may start with. -/
def readSet (before : Option Char) : List Char → Option (List (Char × Char) × List Char)
  | [] => none
  | ']' :: cs => some ([], cs)
  | c :: cs =>
    let single := (readSet (some c) cs).map fun (ranges, rest) => ((c, c) :: ranges, rest)
    match c, before, cs with
    | '-', some low, high :: rest =>
      if high = ']' then single
      else (readSet none rest).map fun (ranges, rest) => ((low, high) :: ranges, rest)
    | _, _, _ => single

/-- A set behind its opening bracket; a closing one at its start is a member. -/
def readMembers : List Char → Option (List (Char × Char) × List Char)
  | ']' :: cs => (readSet none cs).map fun (ranges, rest) => ((']', ']') :: ranges, rest)
  | cs => readSet none cs

def readBracket : List Char → Option (PatternItem × List Char)
  | '^' :: cs => (readMembers cs).map fun (ranges, rest) => (.set true ranges, rest)
  | cs => (readMembers cs).map fun (ranges, rest) => (.set false ranges, rest)

/-- Reads at most `fuel` items. -/
def readGlob : Nat → List Char → List PatternItem
  | 0, _ | _, [] => []
  | fuel + 1, c :: cs =>
    if c = '*' then .anyText :: readGlob fuel cs
    else if c = '?' then .anyChar :: readGlob fuel cs
    else if c = '[' then
      match readBracket cs with
      | some (item, rest) => item :: readGlob fuel rest
      | none => [.nothing]
    else .char c :: readGlob fuel cs

def ofGlob (cs : List Char) : List PatternItem :=
  readGlob cs.length cs

def suffixes : List Char → List (List Char)
  | [] => [[]]
  | c :: cs => (c :: cs) :: suffixes cs

/-- Whether an item matches one character. -/
def accepts (folded : Bool) (c : Char) : PatternItem → Bool
  | .anyText | .nothing => false
  | .anyChar => true
  | .char d => c == d || (folded && c.toLower == d.toLower)
  | .set inverted ranges => (ranges.any fun (low, high) => low ≤ c && c ≤ high) != inverted

/-- Whether a pattern matches a text; `folded` tells that the case of letters is no matter. -/
def isMatch (folded : Bool) : List PatternItem → List Char → Bool
  | [], cs => cs.isEmpty
  | .anyText :: items, cs => (suffixes cs).any (isMatch folded items)
  | _ :: _, [] => false
  | item :: items, c :: cs => accepts folded c item && isMatch folded items cs

end Pattern

end FluentSql.Sqlite
