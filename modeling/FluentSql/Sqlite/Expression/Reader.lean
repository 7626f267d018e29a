import FluentSql.Sqlite.Expression
import FluentSql.Sqlite.Token

/-!
# Reading expressions

Terms are read by how tightly operators bind: `read fuel level` takes a term and goes on as
long as operators of at least the level follow. Operators of one level group from the left.
Queries stand in parentheses. The fuel bounds the steps; `enough` of it reads any term of as
many tokens.
-/

namespace FluentSql.Sqlite.Expression

open Token

/-- The levels of operators, from the loosest. -/
def looseLevel : Nat := 1
def notLevel : Nat := 3
def equalLevel : Nat := 4
def collateLevel : Nat := 11
def tightLevel : Nat := 12

/-- Fuel for a term among a number of tokens. -/
def enough (tokens : List Token) : Nat :=
  4 * tokens.length + 8

/-- An operator between two terms, with its level and the tokens behind it. -/
def infix? : List Token → Option (Nat × BinaryOperator × List Token)
  | word "or" :: rest => some (1, .or, rest)
  | word "and" :: rest => some (2, .and, rest)
  | word "is" :: word "not" :: word "distinct" :: word "from" :: rest => some (4, .is, rest)
  | word "is" :: word "distinct" :: word "from" :: rest => some (4, .isNot, rest)
  | word "is" :: word "not" :: rest => some (4, .isNot, rest)
  | word "is" :: rest => some (4, .is, rest)
  | mark "=" :: rest => some (4, .relation .equal, rest)
  | mark "<>" :: rest => some (4, .relation .unequal, rest)
  | mark "<" :: rest => some (5, .relation .less, rest)
  | mark "<=" :: rest => some (5, .relation .lessEqual, rest)
  | mark ">" :: rest => some (5, .relation .greater, rest)
  | mark ">=" :: rest => some (5, .relation .greaterEqual, rest)
  | mark "&" :: rest => some (7, .bits .and, rest)
  | mark "|" :: rest => some (7, .bits .or, rest)
  | mark "<<" :: rest => some (7, .bits .shiftLeft, rest)
  | mark ">>" :: rest => some (7, .bits .shiftRight, rest)
  | mark "+" :: rest => some (8, .arithmetic .add, rest)
  | mark "-" :: rest => some (8, .arithmetic .subtract, rest)
  | mark "*" :: rest => some (9, .arithmetic .multiply, rest)
  | mark "/" :: rest => some (9, .arithmetic .divide, rest)
  | mark "%" :: rest => some (9, .arithmetic .remainder, rest)
  | mark "||" :: rest => some (10, .concat, rest)
  | _ => none

/-- Words that go on with a query, so that they are no names for what stands before them. -/
def clauseWords : List String :=
  ["as", "cross", "except", "from", "full", "group", "having", "indexed", "inner",
    "intersect", "join", "left", "limit", "natural", "not", "offset", "on", "order",
    "returning", "right", "union", "using", "where", "window"]

/-- A name for what stands before it, behind AS or alone. -/
def readLabel : List Token → Option String × List Token
  | word "as" :: t :: rest =>
    match t.name? with
    | some n => (some n, rest)
    | none => (none, word "as" :: t :: rest)
  | t :: rest =>
    match t, t.name? with
    | word w, some n => if clauseWords.contains w then (none, t :: rest) else (some n, rest)
    | _, some n => (some n, rest)
    | _, none => (none, t :: rest)
  | [] => (none, [])

/-- The table of a query, by its name and perhaps another. -/
def readOrigin : List Token → Option (Option Origin × List Token)
  | word "from" :: t :: rest => do
    let table ← t.name?
    let (label, rest) := readLabel rest
    return (some ⟨table, label.getD table⟩, rest)
  | rest => some (none, rest)

/-- Whether an order descends. -/
def readDirection : List Token → Bool × List Token
  | word "desc" :: rest => (true, rest)
  | word "asc" :: rest => (false, rest)
  | rest => (false, rest)

/-- The name of the column of a term. -/
def columnName : Expression → String
  | name _ s _ => s
  | _ => ""

/-- The bounds of a query that has none. -/
def noLimit : Expression := cell (.integer (-1))
def noOffset : Expression := cell (.integer 0)

/-- A test of the term before it. -/
inductive Test where
  | null
  | between
  | among
  | member
  /-- A match by the function of the name. -/
  | pattern (f : String)

/-- A test, whether it is negated, and the tokens behind it. -/
def test? : List Token → Option (Bool × Test × List Token)
  | word "isnull" :: rest => some (false, .null, rest)
  | word "notnull" :: rest => some (true, .null, rest)
  | word "not" :: word "null" :: rest => some (true, .null, rest)
  | word "between" :: rest => some (false, .between, rest)
  | word "not" :: word "between" :: rest => some (true, .between, rest)
  | word "in" :: mark "(" :: word "select" :: rest => some (false, .member, rest)
  | word "not" :: word "in" :: mark "(" :: word "select" :: rest => some (true, .member, rest)
  | word "in" :: mark "(" :: rest => some (false, .among, rest)
  | word "not" :: word "in" :: mark "(" :: rest => some (true, .among, rest)
  | word "like" :: rest => some (false, .pattern "like", rest)
  | word "not" :: word "like" :: rest => some (true, .pattern "like", rest)
  | word "glob" :: rest => some (false, .pattern "glob", rest)
  | word "not" :: word "glob" :: rest => some (true, .pattern "glob", rest)
  | _ => none

/-- A test that is negated, or not. -/
def negateIf (negated : Bool) (e : Expression) : Expression :=
  if negated then unary .not e else e

/-- Whether a term is one of several: it equals one of them, whose own preferences do not
count. -/
def among (e : Expression) (members : List Expression) : Expression :=
  match members.map fun m => binary (.relation .equal) e (unary .plus m) with
  | [] => truth false
  | first :: rest => rest.foldl (binary .or) first

/-- What columns of a type prefer, by the parts of the type's name. -/
def affinityOf (type : String) : Affinity :=
  let has (part : String) := Text.contains type part
  if has "int" then .integer
  else if has "char" || has "clob" || has "text" then .text
  else if has "blob" then .blob
  else if has "real" || has "floa" || has "doub" then .real
  else .numeric

/-- A signed number in a type. -/
def readSize : List Token → Option (List Token)
  | mark "-" :: rest | mark "+" :: rest =>
    match rest with
    | natural _ :: rest | real _ :: rest => some rest
    | _ => none
  | natural _ :: rest | real _ :: rest => some rest
  | _ => none

/-- One or two sizes up to a closing parenthesis. -/
def readSizes (tokens : List Token) : Option (List Token) :=
  match readSize tokens with
  | some (mark ")" :: rest) => some rest
  | some (mark "," :: rest) =>
    match readSize rest with
    | some (mark ")" :: rest) => some rest
    | _ => none
  | _ => none

/-- The type of a cast, which may be empty. -/
def readType (tokens : List Token) : Option (Affinity × List Token) :=
  let names := (tokens.map name?).takeWhile Option.isSome
  let affinity := affinityOf (Text.joinWith " " (names.filterMap id))
  match tokens.drop names.length with
  | mark "(" :: rest => if names.isEmpty then none else (readSizes rest).map (affinity, ·)
  | rest => some (affinity, rest)

/-- A name that may stand behind the name of a table and that of the main database. -/
def readName : List Token → Option (Expression × List Token)
  | first :: mark "." :: second :: mark "." :: third :: rest => do
    let table ← second.name?
    let column ← third.name?
    if first.name? = some "main" then return (name (some table) column .other, rest) else none
  | first :: mark "." :: second :: rest => do
    return (name (some (← first.name?)) (← second.name?) .other, rest)
  | word s :: rest => some (name none s .bare, rest)
  | Token.name s double :: rest => some (name none s (if double then .double else .other), rest)
  | _ => none

/-- The name of a function before its opening parenthesis. -/
def functionName? : Token → Option String
  | text _ => none
  | t => t.name?

mutual

/-- A term of operators that bind at least as tightly as a level. -/
def read : Nat → Nat → List Token → Option (Expression × List Token)
  | 0, _, _ => none
  | fuel + 1, level, tokens => do
    let (left, rest) ← readStart fuel tokens
    readOn fuel level left rest

/-- A term without operators between its parts. -/
def readStart : Nat → List Token → Option (Expression × List Token)
  | 0, _ => none
  | fuel + 1, tokens =>
    match tokens with
    | mark "-" :: rest => do
      let (e, rest) ← read fuel tightLevel rest
      return (unary .negate e, rest)
    | mark "+" :: rest => do
      let (e, rest) ← read fuel tightLevel rest
      return (unary .plus e, rest)
    | mark "~" :: rest => do
      let (e, rest) ← read fuel tightLevel rest
      return (unary .complement e, rest)
    | word "not" :: rest => do
      let (e, rest) ← read fuel notLevel rest
      return (unary .not e, rest)
    | mark "(" :: word "select" :: rest => do
      match ← readQuery fuel rest with
      | (q, mark ")" :: rest) => return (scalar q, rest)
      | _ => none
    | word "exists" :: mark "(" :: word "select" :: rest => do
      match ← readQuery fuel rest with
      | (q, mark ")" :: rest) => return (exist q, rest)
      | _ => none
    | mark "(" :: rest => do
      match ← read fuel looseLevel rest with
      | (e, mark ")" :: rest) => return (e, rest)
      | _ => none
    | word "cast" :: mark "(" :: rest => do
      match ← read fuel looseLevel rest with
      | (e, word "as" :: rest) =>
        match ← readType rest with
        | (affinity, mark ")" :: rest) => return (cast affinity e, rest)
        | _ => none
      | _ => none
    | word "case" :: word "when" :: rest => readBranches fuel none rest
    | word "case" :: rest => do
      match ← read fuel looseLevel rest with
      | (base, word "when" :: rest) => readBranches fuel (some base) rest
      | _ => none
    | word "null" :: rest => some (cell .null, rest)
    | natural n :: rest => some (number (.natural n), rest)
    | real x :: rest => some (number (.real x), rest)
    | Token.cell c :: rest => some (cell c, rest)
    | text s :: mark "." :: rest => readName (text s :: mark "." :: rest)
    | text s :: rest => some (cell (.text s), rest)
    | f :: mark "(" :: mark ")" :: rest => do
      return (invoke (← functionName? f) [], rest)
    | f :: mark "(" :: mark "*" :: mark ")" :: rest => do
      return (invoke (← functionName? f) [], rest)
    | f :: mark "(" :: rest => do
      let (arguments, rest) ← readList fuel rest
      return (invoke (← functionName? f) arguments, rest)
    | tokens => readName tokens

/-- Goes on behind a term while operators of the level follow. -/
def readOn : Nat → Nat → Expression → List Token → Option (Expression × List Token)
  | 0, _, _, _ => none
  | fuel + 1, level, left, tokens =>
    match infix? tokens with
    | some (l, op, rest) =>
      if level ≤ l then do
        let (right, rest) ← read fuel (l + 1) rest
        readOn fuel level (if op = .and then both left right else binary op left right) rest
      else some (left, tokens)
    | none =>
      match tokens with
      | word "collate" :: t :: rest =>
        if level ≤ collateLevel then do
          let collation ← Collation.named? (← t.name?)
          readOn fuel level (collate collation left) rest
        else some (left, tokens)
      | tokens =>
        match test? tokens with
        | none => some (left, tokens)
        | some (negated, test, rest) =>
          if level ≤ equalLevel then do
            let (e, rest) ← readTest fuel left test rest
            readOn fuel level (negateIf negated e) rest
          else some (left, tokens)

/-- The rest of a test of a term. -/
def readTest : Nat → Expression → Test → List Token → Option (Expression × List Token)
  | 0, _, _, _ => none
  | fuel + 1, left, test, tokens =>
    match test with
    | .null => some (binary .is left (cell .null), tokens)
    | .between => do
      match ← read fuel notLevel tokens with
      | (low, word "and" :: rest) =>
        let (high, rest) ← read fuel (equalLevel + 1) rest
        let above := binary (.relation .greaterEqual) left low
        return (binary .and above (binary (.relation .lessEqual) left high), rest)
      | _ => none
    | .among =>
      match tokens with
      | mark ")" :: rest => some (among left [], rest)
      | tokens => do
        let (members, rest) ← readList fuel tokens
        return (among left members, rest)
    | .member => do
      match ← readQuery fuel tokens with
      | (q, mark ")" :: rest) => return (member left q, rest)
      | _ => none
    | .pattern f => do
      match ← read fuel (equalLevel + 1) tokens with
      | (pattern, word "escape" :: rest) =>
        let (escape, rest) ← read fuel (equalLevel + 1) rest
        return (invoke f [pattern, left, escape], rest)
      | (pattern, rest) => return (invoke f [pattern, left], rest)

/-- Terms with commas between them, up to a closing parenthesis. -/
def readList : Nat → List Token → Option (List Expression × List Token)
  | 0, _ => none
  | fuel + 1, tokens => do
    match ← read fuel looseLevel tokens with
    | (e, mark ")" :: rest) => return ([e], rest)
    | (e, mark "," :: rest) =>
      let (more, rest) ← readList fuel rest
      return (e :: more, rest)
    | _ => none

/-- The branches of a choice behind the first WHEN. With a base, a branch is taken if the
base equals its term. -/
def readBranches : Nat → Option Expression → List Token → Option (Expression × List Token)
  | 0, _, _ => none
  | fuel + 1, base, tokens => do
    match ← read fuel looseLevel tokens with
    | (test, word "then" :: rest) =>
      let condition := match base with
        | some base => binary (.relation .equal) base test
        | none => test
      match ← read fuel looseLevel rest with
      | (yes, word "when" :: rest) =>
        let (no, rest) ← readBranches fuel base rest
        return (choose condition yes no, rest)
      | (yes, word "else" :: rest) =>
        match ← read fuel looseLevel rest with
        | (no, word "end" :: rest) => return (choose condition yes no, rest)
        | _ => none
      | (yes, word "end" :: rest) => return (choose condition yes (cell .null), rest)
      | _ => none
    | _ => none

/-- A clause that is a term behind its word, or what stands for it if the word is not there. -/
def readClause : Nat → String → Expression → List Token → Option (Expression × List Token)
  | 0, _, _, _ => none
  | fuel + 1, first, usual, tokens =>
    match tokens with
    | word w :: rest =>
      if w = first then read fuel looseLevel rest else some (usual, word w :: rest)
    | tokens => some (usual, tokens)

/-- What a query yields, with the names of its columns. -/
def readTerms : Nat → List Token → Option (List (Expression × String) × List Token)
  | 0, _ => none
  | fuel + 1, tokens => do
    let (item, rest) ← match tokens with
      | mark "*" :: rest => some ((star, ""), rest)
      | tokens => do
        let (e, rest) ← read fuel looseLevel tokens
        let (label, rest) := readLabel rest
        some ((e, label.getD (columnName e)), rest)
    match rest with
    | mark "," :: rest =>
      let (more, rest) ← readTerms fuel rest
      return (item :: more, rest)
    | rest => return ([item], rest)

/-- The terms to order by, and which of them descend. -/
def readKeys : Nat → List Token → Option (List (Expression × Bool) × List Token)
  | 0, _ => none
  | fuel + 1, tokens => do
    let (e, rest) ← read fuel looseLevel tokens
    let (descends, rest) := readDirection rest
    match rest with
    | mark "," :: rest =>
      let (more, rest) ← readKeys fuel rest
      return ((e, descends) :: more, rest)
    | rest => return ([(e, descends)], rest)

/-- A query behind its first word. -/
def readQuery : Nat → List Token → Option (Query × List Token)
  | 0, _ => none
  | fuel + 1, tokens => do
    let (items, rest) ← readTerms fuel tokens
    let (origin, rest) ← readOrigin rest
    let (condition, rest) ← readClause fuel "where" (truth true) rest
    let (keys, rest) ← match rest with
      | word "order" :: word "by" :: rest => readKeys fuel rest
      | rest => some ([], rest)
    let (limit, rest) ← readClause fuel "limit" noLimit rest
    let (offset, rest) ← readClause fuel "offset" noOffset rest
    let q := .select (items.map (·.1)) (items.map (·.2)) origin condition (keys.map (·.1))
      (keys.map (·.2)) limit offset
    return (q, rest)

end

end FluentSql.Sqlite.Expression
