import FluentSql.Clause.Conditions
import FluentSql.Dialect.Basic
import FluentSql.Text.Word

/-!
# Joins

A join names a table, perhaps an alias, and conditions that compare a column with
another column or with a string. A string operand is written as a literal; index
hints are written for MySQL only.
-/

namespace FluentSql

inductive JoinKind where
  | inner | left | right | full | cross
  deriving DecidableEq

namespace JoinKind

def sql : JoinKind → String
  | inner => "INNER JOIN"
  | left => "LEFT JOIN"
  | right => "RIGHT JOIN"
  | full => "FULL JOIN"
  | cross => "CROSS JOIN"

end JoinKind

/-- The right-hand side of a join condition. -/
inductive Operand where
  | column (name : String)
  | literal (s : String)
  deriving DecidableEq

namespace Operand

/-- Whether the text is two names with a point between them. -/
def isReference (cs : List Char) : Bool :=
  let qualifier := cs.takeWhile Text.isWord
  let name := cs.drop (qualifier.length + 1)
  qualifier != [] && cs[qualifier.length]? == some '.' && name != [] && name.all Text.isWord

/-- A column reference with blanks around it, or else the raw text as a string. -/
def read (raw : String) : Operand :=
  let name := Text.trim raw
  if isReference name.toList then .column name else .literal raw

def fragment : Operand → Fragment
  | .column name => .text name
  | .literal s => .literal s

end Operand

structure OnCondition where
  column : String
  operator : Operator
  operand : Operand
  connective : Option Connective
  deriving DecidableEq

/-- A table with an optional alias. -/
structure JoinTarget where
  table : String
  aliasName : Option String
  deriving DecidableEq

namespace JoinTarget

def isAs (word : String) : Bool :=
  Text.asciiLower word == "as"

/-- One word names the table; a second one, or a third behind `as`, its alias. -/
def read (target : String) : Except Error JoinTarget :=
  match Text.words target with
  | [table] => .ok ⟨table, none⟩
  | [table, word] => .ok ⟨table, if isAs word then none else some word⟩
  | [table, keyword, name] =>
    if isAs keyword then .ok ⟨table, some name⟩
    else .error (.argument (.missingJoinTable target))
  | _ => .error (.argument (.missingJoinTable target))

/-- The target as it is written into a statement. -/
def sql (t : JoinTarget) : String :=
  match t.aliasName with
  | some name => t.table ++ " AS " ++ name
  | none => t.table

end JoinTarget

structure Join where
  target : JoinTarget
  kind : JoinKind
  on : List OnCondition
  indexHints : List String
  deriving DecidableEq

namespace Join

def onFragments (on : List OnCondition) : List Fragment :=
  on.flatMap fun c =>
    let lead := match c.connective with
      | none => " ON "
      | some k => " " ++ k.sql ++ " "
    [.text (lead ++ c.column ++ " " ++ c.operator.sql ++ " "), c.operand.fragment]

def hintText (d : Dialect) (hints : List String) : String :=
  if d = .mySql ∧ hints ≠ [] then " USE INDEX(" ++ Text.commaList hints ++ ")" else ""

def fragments (d : Dialect) (j : Join) : List Fragment :=
  .text (" " ++ j.kind.sql ++ " " ++ j.target.sql ++ hintText d j.indexHints) ::
    onFragments j.on

def sql (d : Dialect) (j : Join) : String :=
  Fragment.renderAll (j.fragments d)

end Join

end FluentSql
