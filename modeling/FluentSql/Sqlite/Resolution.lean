import FluentSql.Sqlite.Expression

/-!
# Looking up names

Names in terms stand for columns of the tables that are read, the innermost query first.
Functions are looked up by name and number of arguments. A term with a name that nothing has
cannot be used, whether or not a row is there.
-/

namespace FluentSql.Sqlite

/-- A table under the name it goes by. -/
structure Scope where
  label : String
  table : Table

/-- What names can stand for. -/
structure Surroundings where
  tables : List Table
  /-- The tables of the queries around, innermost first. -/
  scopes : List Scope
  /-- Whether aggregates have a meaning. -/
  grouped : Bool

namespace Surroundings

/-- The column of a name in the innermost table that has it, with the number of tables
before that one. -/
def columnIn? (qualifier : Option String) (s : String) (depth : Nat) :
    List Scope → Option (Nat × Column)
  | [] => none
  | scope :: rest =>
    match if qualifier.all (· == scope.label) then scope.table.column? s else none with
    | some c => some (depth, c)
    | none => columnIn? qualifier s (depth + 1) rest

/-- What a name stands for: a column, a truth value, or a text in double quotation marks. -/
def ofName? (l : Surroundings) (qualifier : Option String) (s : String)
    (quotation : Quotation) : Option Expression :=
  match columnIn? qualifier (Text.asciiLower s) 0 l.scopes with
  | some (depth, c) => some (.column depth c)
  | none =>
    if qualifier.isSome then none
    else match quotation, s with
      | .double, s => some (.cell (.text s))
      | .bare, "true" => some (.truth true)
      | .bare, "false" => some (.truth false)
      | _, _ => none

/-- Inside a query of a table, or of none. -/
def enter? (l : Surroundings) : Option Origin → Option Surroundings
  | none => some { l with grouped := true }
  | some o => do
    let t ← l.tables.find? fun t => t.name == o.table
    return { l with scopes := ⟨o.label, t⟩ :: l.scopes, grouped := true }

/-- The columns of the innermost table. -/
def allColumns? (l : Surroundings) (hasTable : Bool) : Option (List (Expression × String)) :=
  match l.scopes with
  | scope :: _ =>
    if hasTable then
      let others := scope.table.columns.mapIdx fun i n => (Expression.column 0 (.other i), n)
      some ((.column 0 .key, scope.table.keyColumn) :: others)
    else none
  | [] => none

end Surroundings

namespace Expression

/-- The term of a call. A choice is no function, and a likelihood is a number up to one. -/
def ofCall? (grouped : Bool) (f : String) (arguments : List Expression) : Option Expression :=
  match f, arguments with
  | "iif", [c, y, n] => some (choose c y n)
  | "likelihood", [e, number (.real x)] =>
    if x.order (Binary64.ofInt 1) == .gt then none else some (call .identity [e])
  | "likelihood", _ => none
  | f, arguments =>
    match Function.named? f arguments.length with
    | some function => some (call function arguments)
    | none =>
      if grouped && !areAggregate arguments then
        (Aggregate.named? f arguments.length).map (aggregate · arguments)
      else none

mutual

/-- A term with its names looked up. -/
def resolve? (l : Surroundings) : Expression → Option Expression
  | name qualifier s quotation => l.ofName? qualifier s quotation
  | star => none
  | atKey e => do return atKey (← e.resolve? l)
  | unary op e => do return unary op (← e.resolve? l)
  | binary op left right => do return binary op (← left.resolve? l) (← right.resolve? l)
  | choose c y n => do return choose (← c.resolve? l) (← y.resolve? l) (← n.resolve? l)
  | cast a e => do return cast a (← e.resolve? l)
  | collate c e => do return collate c (← e.resolve? l)
  | invoke f arguments => do ofCall? l.grouped f (← resolveAll? l arguments)
  | call f arguments => do return call f (← resolveAll? l arguments)
  | aggregate f arguments => do return aggregate f (← resolveAll? l arguments)
  | scalar q => do
    let (q, width) ← resolveQuery? l q
    if width = 1 then return scalar q else none
  | exist q => do return exist (← resolveQuery? l q).1
  | member e q => do
    let (q, width) ← resolveQuery? l q
    if width = 1 then return member (← e.resolve? l) q else none
  | e => some e

def resolveAll? (l : Surroundings) : List Expression → Option (List Expression)
  | [] => some []
  | e :: rest => do return (← e.resolve? l) :: (← resolveAll? l rest)

/-- What a query yields, with the names of its columns. -/
def resolveTerms? (l : Surroundings) (hasTable : Bool) :
    List Expression → List String → Option (List (Expression × String))
  | [], _ => some []
  | star :: rest, names => do
    return (← l.allColumns? hasTable) ++ (← resolveTerms? l hasTable rest names.tail)
  | e :: rest, names => do
    return (← e.resolve? l, names.headD "") :: (← resolveTerms? l hasTable rest names.tail)

/-- A query with its names looked up, and how many columns it has. -/
def resolveQuery? (l : Surroundings) : Query → Option (Query × Nat)
  | .select terms names origin condition keys descending limit offset => do
    let inside ← l.enter? origin
    let terms ← resolveTerms? inside origin.isSome terms names
    let condition ← condition.resolve? { inside with grouped := false }
    let keys ← resolveAll? inside keys
    let outside := { l with scopes := [], grouped := false }
    let limit ← limit.resolve? outside
    let offset ← offset.resolve? outside
    let q := .select (terms.map (·.1)) (terms.map (·.2)) origin condition.seek keys descending
      limit offset
    return (q, terms.length)

end

end Expression

end FluentSql.Sqlite
