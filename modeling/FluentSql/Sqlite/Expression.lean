import FluentSql.Sqlite.Aggregate

/-!
# Expressions

Terms over the columns of rows, and the queries that terms may hold. They are written with
names, which are looked up before a row is there.
-/

namespace FluentSql.Sqlite

/-- A decimal number as it is written. -/
inductive NumberLiteral where
  | natural (n : Nat)
  | real (x : Binary64)

namespace NumberLiteral

/-- The cell of a number; an integer that does not fit is real. -/
def cell : NumberLiteral → Cell
  | natural n =>
    if n < twoTo 63 then .integer (Int64.ofNat n)
    else .real (RealText.value false (Nat.toDigits 10 n) [] 0)
  | real x => .real x

/-- The cell of a number behind a minus sign, which belongs to the number. -/
def negated : NumberLiteral → Cell
  | natural n =>
    if n ≤ twoTo 63 then .integer (Int64.ofInt (-(n : Int)))
    else .real (RealText.value true (Nat.toDigits 10 n) [] 0)
  | real x => .real x.neg

end NumberLiteral

/-- How a name is written. -/
inductive Quotation where
  | bare
  | double
  | other
  deriving DecidableEq

/-- A table that a query reads, and the name it goes by. -/
structure Origin where
  table : String
  label : String

mutual

inductive Expression where
  | cell (c : Cell)
  | number (n : NumberLiteral)
  | truth (b : Bool)
  /-- A name that is not looked up yet, perhaps behind the name of a table. A name in double
  quotation marks that no column has is a text. -/
  | name (qualifier : Option String) (s : String) (quotation : Quotation)
  /-- All columns, as what a query yields. -/
  | star
  /-- A column of a row, counted from the innermost query. -/
  | column (depth : Nat) (c : Column)
  | unary (op : UnaryOperator) (e : Expression)
  | binary (op : BinaryOperator) (left right : Expression)
  /-- One of two terms by the truth of a third. -/
  | choose (condition yes no : Expression)
  /-- Whether a constant stands for the key of the row. -/
  | atKey (e : Expression)
  | cast (affinity : Affinity) (e : Expression)
  | collate (collation : Collation) (e : Expression)
  /-- A call by a name that is not looked up yet. -/
  | invoke (f : String) (arguments : List Expression)
  | call (f : Function) (arguments : List Expression)
  | aggregate (f : Aggregate) (arguments : List Expression)
  /-- The first cell that a query yields. -/
  | scalar (q : Query)
  /-- Whether a query yields a row. -/
  | exist (q : Query)
  /-- Whether a term is one of the cells that a query yields. -/
  | member (e : Expression) (q : Query)

/-- What is read of the rows of a table that meet a condition. Without a table there is one
row, without columns of its own. -/
inductive Query where
  | select (terms : List Expression) (names : List String) (origin : Option Origin)
    (condition : Expression) (keys : List Expression) (descending : List Bool)
    (limit offset : Expression)

end

/-- The names of the columns of a query. -/
def Query.names : Query → List String
  | .select _ names _ _ _ _ _ _ => names

namespace Expression

/-- The depth that a term may have. -/
def maxHeight : Nat := 1000

mutual

def height : Expression → Nat
  | cell _ | number _ | truth _ | name .. | star | column .. => 1
  | unary _ e | cast _ e | collate _ e => e.height + 1
  | binary _ l r => max l.height r.height + 1
  | choose c y n => max c.height (max y.height n.height) + 1
  | invoke _ arguments | call _ arguments | aggregate _ arguments => heightAll arguments + 1
  | atKey e => e.height
  | scalar q | exist q => heightQuery q + 1
  | member e q => max e.height (heightQuery q) + 1

def heightAll : List Expression → Nat
  | [] => 0
  | e :: rest => max e.height (heightAll rest)

def heightQuery : Query → Nat
  | .select terms _ _ condition keys _ limit offset =>
    max (max (heightAll terms) condition.height)
      (max (heightAll keys) (max limit.height offset.height))

end

mutual

/-- Whether a term needs all rows of the innermost query. -/
def isAggregate : Expression → Bool
  | cell _ | number _ | truth _ | name .. | star | column .. | scalar _ | exist _ => false
  | unary _ e | cast _ e | collate _ e | member e _ | atKey e => e.isAggregate
  | binary _ l r => l.isAggregate || r.isAggregate
  | choose c y n => c.isAggregate || y.isAggregate || n.isAggregate
  | invoke _ arguments | call _ arguments => areAggregate arguments
  | aggregate .. => true

def areAggregate : List Expression → Bool
  | [] => false
  | e :: rest => e.isAggregate || areAggregate rest

end

mutual

/-- Whether a term is the same at every row. -/
def isConstant : Expression → Bool
  | cell _ | number _ | truth _ => true
  | unary _ e | cast _ e | collate _ e => e.isConstant
  | binary _ l r => l.isConstant && r.isConstant
  | choose c y n => c.isConstant && y.isConstant && n.isConstant
  | call _ arguments => areConstant arguments
  | _ => false

def areConstant : List Expression → Bool
  | [] => true
  | e :: rest => e.isConstant && areConstant rest

end

/-- A condition with its rows looked up by their keys where it wants these to equal a
constant. -/
def seek : Expression → Expression
  | binary (.relation .equal) (column 0 .key) e =>
    if e.isConstant then atKey e else binary (.relation .equal) (column 0 .key) e
  | binary (.relation .equal) e (column 0 .key) =>
    if e.isConstant then atKey e else binary (.relation .equal) e (column 0 .key)
  | binary .and l r => binary .and l.seek r.seek
  | e => e

/-- What a column prefers its cells to be: the key is an integer. -/
def columnAffinity : Column → Affinity
  | .key => .integer
  | .other _ => .blob

/-- The preference of a column or a cast. -/
def affinity? : Expression → Option Affinity
  | column _ c => some (columnAffinity c)
  | cast a _ => some a
  | collate _ e => e.affinity?
  | call .identity (e :: _) => e.affinity?
  | scalar (.select (e :: _) _ _ _ _ _ _ _) => e.affinity?
  | _ => none

/-- The collation that a term asks for. -/
def collation? : Expression → Option Collation
  | collate c _ => some c
  | unary _ e | cast _ e => e.collation?
  | binary _ l r => l.collation?.or r.collation?
  | _ => none

/-- The truth value that a term is, whatever is said about its collation. -/
def asTruth? : Expression → Option Bool
  | truth b => some b
  | collate _ e => e.asTruth?
  | _ => none

/-- Whether a term is written as what is false. -/
def isZero : Expression → Bool
  | number (.natural 0) | truth false => true
  | _ => false

/-- Both of two terms. If one is written as what is false, the other does not matter. -/
def both (l r : Expression) : Expression :=
  if l.isZero || r.isZero then number (.natural 0) else binary .and l r

end Expression

end FluentSql.Sqlite
