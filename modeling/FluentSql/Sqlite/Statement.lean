import FluentSql.Sqlite.Expression.Reader

/-!
# Statements of the engine

The part of SQL that the engine runs: keyed tables are created, dropped, filled, changed and
read; there are transactions and the list of tables. A text outside of it is not a
statement.
-/

namespace FluentSql.Sqlite

/-- Where the rows of an INSERT come from. -/
inductive Source where
  | values (rows : List (List Expression))
  | query (q : Query)

structure Insertion where
  table : String
  columns : List String
  source : Source
  /-- The column whose conflicts pass a row over, if any do; without a name, every one. -/
  passOver : Option (Option String)
  /-- What is asked of the rows afterwards. -/
  returning : Option (List Expression)

structure Change where
  table : String
  assignments : List (String × Expression)
  condition : Expression
  returning : Option (List Expression)

inductive Statement where
  | createTable (name keyColumn : String) (columns : List String)
  | createIndex (table : String) (columns : List String)
  | dropTable (name : String)
  | insert (insertion : Insertion)
  | update (change : Change)
  | delete (table : String) (condition : Expression)
  | select (q : Query)
  | tableNames
  | foreignKeys
  | beginTransaction
  | rollBack

namespace Statement

open Token Expression

/-- Items with commas between them, at most `fuel` of them. -/
def readItems {α : Type} (item : List Token → Option (α × List Token)) :
    Nat → List Token → Option (List α × List Token)
  | 0, _ => none
  | fuel + 1, tokens =>
    match item tokens with
    | some (a, mark "," :: rest) =>
      (readItems item fuel rest).map fun (more, rest) => (a :: more, rest)
    | some (a, rest) => some ([a], rest)
    | none => none

/-- A name as an item. -/
def readNameItem : List Token → Option (String × List Token)
  | t :: rest => t.name?.map (·, rest)
  | [] => none

/-- Names up to a closing parenthesis. -/
def readNames (tokens : List Token) : Option (List String × List Token) :=
  match readItems readNameItem tokens.length tokens with
  | some (names, mark ")" :: rest) => some (names, rest)
  | _ => none

/-- A term of a depth that is allowed, with fuel for its steps. -/
def readTerm (fuel : Nat) (tokens : List Token) : Option (Expression × List Token) :=
  (Expression.read fuel looseLevel tokens).filter fun (e, _) => e.height ≤ maxHeight

/-- A condition, or one that is always met. -/
def readCondition (fuel : Nat) (tokens : List Token) : Option (Expression × List Token) :=
  (readClause fuel "where" (truth true) tokens).filter fun (e, _) => e.height ≤ maxHeight

/-- A query behind its first word. -/
def readSelection (fuel : Nat) (tokens : List Token) : Option (Query × List Token) :=
  (readQuery fuel tokens).filter fun (q, _) => heightQuery q ≤ maxHeight

/-- The question for the names of all tables but the ledger. -/
def tableListing : List Token :=
  [word "select", word "name", word "from", word "sqlite_master", word "where", word "type",
    mark "=", text "table", word "and", word "name", word "not", word "like",
    text "sqlite_%", word "and", word "name", mark "<>", text "migrations",
    word "order", word "by", word "name"]

def readCreate : List Token → Option Statement
  | word "table" :: word table :: mark "(" :: word key :: word "integer" :: word "primary" ::
      word "key" :: mark "," :: rest => do
    let (columns, rest) ← readNames rest
    if rest = [] then return .createTable table key columns else none
  | word "index" :: word _ :: word "on" :: word table :: mark "(" :: rest => do
    let (columns, rest) ← readNames rest
    if rest = [] then return .createIndex table columns else none
  | _ => none

/-- RETURNING at the end of a statement, or the end. -/
def readReturning (fuel : Nat) : List Token → Option (Option (List Expression))
  | [] => some none
  | word "returning" :: rest =>
    match readTerms fuel rest with
    | some (items, []) => some (some (items.map (·.1)))
    | _ => none
  | _ => none

/-- Terms in parentheses. -/
def readGroup (fuel : Nat) : List Token → Option (List Expression × List Token)
  | mark "(" :: rest => (readList fuel rest).filter fun (es, _) => heightAll es ≤ maxHeight
  | _ => none

def readRows (fuel : Nat) : List Token → Option (Source × List Token)
  | word "values" :: rest => (readItems (readGroup fuel) fuel rest).map fun (rows, rest) =>
    (.values rows, rest)
  | word "select" :: rest => (readSelection fuel rest).map fun (q, rest) => (.query q, rest)
  | _ => none

/-- What becomes of rows whose key is taken. -/
def readConflict : List Token → Option (Option (Option String) × List Token)
  | word "on" :: word "conflict" :: word "do" :: word "nothing" :: rest => some (some none, rest)
  | word "on" :: word "conflict" :: mark "(" :: t :: mark ")" :: word "do" :: word "nothing" ::
      rest => t.name?.map fun n => (some (some n), rest)
  | rest => some (none, rest)

def readInsert (fuel : Nat) : List Token → Option Statement
  | word "into" :: t :: mark "(" :: rest => do
    let (columns, rest) ← readNames rest
    let (source, rest) ← readRows fuel rest
    let (passOver, rest) ← readConflict rest
    return .insert ⟨← t.name?, columns, source, passOver, ← readReturning fuel rest⟩
  | _ => none

/-- Names with their terms, one for one. -/
def assignTogether (names : List String) (terms : List Expression) :
    Option (List (String × Expression)) :=
  if names.length = terms.length then some (names.zip terms) else none

/-- An assignment to one column, or to several in parentheses. -/
def readAssignment (fuel : Nat) :
    List Token → Option (List (String × Expression) × List Token)
  | mark "(" :: rest => do
    match ← readNames rest with
    | ([n], mark "=" :: rest) =>
      let (e, rest) ← readTerm fuel rest
      return ([(n, e)], rest)
    | (names, mark "=" :: rest) =>
      let (terms, rest) ← readGroup fuel rest
      return (← assignTogether names terms, rest)
    | _ => none
  | t :: mark "=" :: rest => do
    let (e, rest) ← readTerm fuel rest
    return ([(← t.name?, e)], rest)
  | _ => none

def readUpdate (fuel : Nat) : List Token → Option Statement
  | t :: word "set" :: rest => do
    let (assignments, rest) ← readItems (readAssignment fuel) fuel rest
    let (condition, rest) ← readCondition fuel rest
    return .update ⟨← t.name?, assignments.flatten, condition, ← readReturning fuel rest⟩
  | _ => none

def readDelete (fuel : Nat) : List Token → Option Statement
  | word "from" :: t :: rest => do
    let (condition, rest) ← readCondition fuel rest
    if rest = [] then return .delete (← t.name?) condition else none
  | _ => none

def readSelect (fuel : Nat) (tokens : List Token) : Option Statement := do
  let (q, rest) ← readSelection fuel tokens
  if rest = [] then return .select q else none

/-- The statement of a list of tokens, if the engine knows it. -/
def read? (tokens : List Token) : Option Statement :=
  if tokens = tableListing then some .tableNames
  else
    let fuel := enough tokens
    match tokens with
    | word "select" :: rest => readSelect fuel rest
    | word "insert" :: rest => readInsert fuel rest
    | word "update" :: rest => readUpdate fuel rest
    | word "delete" :: rest => readDelete fuel rest
    | word "create" :: rest => readCreate rest
    | [word "drop", word "table", t] => t.name?.map .dropTable
    | [word "pragma", word "foreign_keys"] => some .foreignKeys
    | [word "begin"] => some .beginTransaction
    | [word "rollback"] => some .rollBack
    | _ => none

/-- Whether a statement has columns to read. -/
def hasColumns : Statement → Bool
  | select _ | tableNames | foreignKeys => true
  | _ => false

end Statement

end FluentSql.Sqlite
