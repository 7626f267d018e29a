import FluentSql.Clause.Fragment
import FluentSql.Clause.Operator

/-!
# Predicates

A predicate tests one column. A `Filter` is what a caller asks for; `Filter.predicate`
checks it.
-/

namespace FluentSql

inductive Predicate where
  | compare (column : String) (operator : Operator) (value : Value)
  | between (column : String) (negated : Bool) (low high : Value)
  | inList (column : String) (negated : Bool) (values : List Value)
  | isNull (column : String) (negated : Bool)

/-- The column name without blanks around it, which may not be empty. -/
def checkedColumn (column : String) : Except Error String :=
  let name := Text.trim column
  if name = "" then .error (.argument .blankColumn) else .ok name

namespace Predicate

def column : Predicate → String
  | .compare c _ _ => c
  | .between c _ _ _ => c
  | .inList c _ _ => c
  | .isNull c _ => c

/-- The values of a predicate, in the order of its placeholders. -/
def values : Predicate → List Value
  | .compare _ _ v => [v]
  | .between _ _ low high => [low, high]
  | .inList _ _ vs => vs
  | .isNull _ _ => []

def placeholderCount (p : Predicate) : Nat :=
  p.values.length

def notText (negated : Bool) : String :=
  if negated then "NOT " else ""

def fragments : Predicate → List Fragment
  | .compare c op v => [.text (c ++ " " ++ op.sql ++ " "), .slot v]
  | .between c negated low high =>
    [.text (c ++ " " ++ notText negated ++ "BETWEEN "), .slot low, .text " AND ", .slot high]
  | .inList c negated vs =>
    .text (c ++ " " ++ notText negated ++ "IN (") :: Fragment.slots vs ++ [.text ")"]
  | .isNull c negated => [.text (c ++ " IS " ++ notText negated ++ "NULL")]

/-- The SQL of a predicate. -/
def sql (p : Predicate) : String :=
  Fragment.renderAll p.fragments

/-- Equality with values compared as values. -/
def same : Predicate → Predicate → Bool
  | .compare c op v, .compare c' op' v' => c == c' && op == op' && v.same v'
  | .between c n low high, .between c' n' low' high' =>
    c == c' && n == n' && low.same low' && high.same high'
  | .inList c n vs, .inList c' n' vs' => c == c' && n == n' && Value.sameList vs vs'
  | .isNull c n, .isNull c' n' => c == c' && n == n'
  | _, _ => false

end Predicate

/-- The test a caller asks for. -/
inductive Test where
  | compare (operator : String) (value : Value)
  | between (negated : Bool) (low high : Value)
  | inList (negated : Bool) (values : List Value)
  | isNull (negated : Bool)

/-- A test on a column, not yet checked. -/
structure Filter where
  column : String
  test : Test

namespace Filter

/-- The equality test. -/
def equals (column : String) (value : Value) : Filter :=
  ⟨column, .compare "=" value⟩

/-- Checks the operator first, then the column, then the list of values. -/
def predicate (f : Filter) : Except Error Predicate :=
  match f.test with
  | .compare operator value => do
    let op ← Operator.read operator
    let column ← checkedColumn f.column
    return .compare column op value
  | .between negated low high => do
    let column ← checkedColumn f.column
    return .between column negated low high
  | .inList negated values => do
    let column ← checkedColumn f.column
    if values.isEmpty then .error (.argument (.emptyInList column))
    else return .inList column negated values
  | .isNull negated => do
    let column ← checkedColumn f.column
    return .isNull column negated

end Filter

end FluentSql
