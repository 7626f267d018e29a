import FluentSql.Error
import FluentSql.Text.Blank
import FluentSql.Text.Case

/-!
# Operators

Comparison operators and the connectives between clauses.
-/

namespace FluentSql

inductive Operator where
  | eq | notEq | lt | gt | lte | gte | like | notLike
  deriving DecidableEq

namespace Operator

def sql : Operator → String
  | eq => "="
  | notEq => "!="
  | lt => "<"
  | gt => ">"
  | lte => "<="
  | gte => ">="
  | like => "LIKE"
  | notLike => "NOT LIKE"

def all : List Operator := [eq, notEq, lt, gt, lte, gte, like, notLike]

/-- Reads an operator in any case and with any blanks between its words. -/
def read (raw : String) : Except Error Operator :=
  let normal := Text.upper (Text.joinWith " " (Text.words raw))
  match all.find? fun op => op.sql == normal with
  | some op => .ok op
  | none => .error (.argument (.unknownOperator raw))

end Operator

inductive Connective where
  | and | or
  deriving DecidableEq

namespace Connective

def sql : Connective → String
  | and => "AND"
  | or => "OR"

end Connective

end FluentSql
