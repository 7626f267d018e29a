import FluentSql.Dialect.Literal

/-!
# Placeholders

Statements are composed with question marks. `lowerPlaceholders` turns them into
`$1`, `$2` and so on where the dialect numbers its placeholders. One bit tells
whether the scan is inside a string literal: every single quote flips it, so a
doubled quote leaves it as it was. `interpolate` writes values in the place of
placeholders for a trace.
-/

namespace FluentSql.Dialect

/-- Numbers the question marks outside literals, from `next` on. -/
def numberMarks (quoted : Bool) (next : Nat) : List Char → List Char
  | [] => []
  | c :: cs =>
    if c = '\'' then c :: numberMarks (!quoted) next cs
    else if c = '?' ∧ !quoted then
      '$' :: Nat.toDigits 10 next ++ numberMarks quoted (next + 1) cs
    else c :: numberMarks quoted next cs

/-- The text in the dialect's own placeholders. -/
def lowerPlaceholders (d : Dialect) (sql : String) : String :=
  if d.isNumbered then String.ofList (numberMarks false 1 sql.toList) else sql

/-- Replaces question marks outside literals in turn; one without a value stays. -/
def fillMarks (literal : Value → List Char) (quoted : Bool) :
    List Value → List Char → List Char
  | _, [] => []
  | params, c :: cs =>
    if c = '\'' then c :: fillMarks literal (!quoted) params cs
    else if c = '?' ∧ !quoted then
      match params with
      | v :: rest => literal v ++ fillMarks literal quoted rest cs
      | [] => c :: fillMarks literal quoted [] cs
    else c :: fillMarks literal quoted params cs

/-- A dollar sign with its digits: the literal of the parameter of that number,
counted from one, or the text itself. -/
def numberedLiteral (literal : Value → List Char) (params : List Value) (digits : List Char) :
    List Char :=
  let written := '$' :: digits
  match Integer.readNat? digits with
  | some (n + 1) => match params[n]? with
    | some v => literal v
    | none => written
  | _ => written

/-- Replaces dollar signs with digits outside literals. `pending` holds the digits
read so far behind a dollar sign. -/
def fillNumbers (literal : Value → List Char) (params : List Value) (quoted : Bool)
    (pending : Option (List Char)) : List Char → List Char
  | [] => pending.elim [] (numberedLiteral literal params)
  | c :: cs =>
    if pending.isSome ∧ Integer.isDigit c then
      fillNumbers literal params quoted (pending.map (· ++ [c])) cs
    else
      pending.elim [] (numberedLiteral literal params) ++
        if c = '\'' then c :: fillNumbers literal params (!quoted) none cs
        else if c = '$' ∧ !quoted then fillNumbers literal params quoted (some []) cs
        else c :: fillNumbers literal params quoted none cs

/-- The text with the parameters written in, for a trace. -/
def interpolate (d : Dialect) (sql : String) (params : List Value) : String :=
  let literal (v : Value) := (d.escape v).toList
  String.ofList
    (if d.isNumbered then fillNumbers literal params false none sql.toList
    else fillMarks literal false params sql.toList)

end FluentSql.Dialect
