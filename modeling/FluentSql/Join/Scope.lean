import FluentSql.Calls
import FluentSql.Join.Basic

/-!
# Join scopes

Inside a join callback the join gets its conditions and may add clauses to the WHERE
part of the enclosing query, of which the scope knows the number of primary clauses.
Calls are also given as data, so that a callback can be a list of calls.
-/

namespace FluentSql

structure JoinScope where
  join : Join
  /-- Primary WHERE clauses of the enclosing query when the scope was opened. -/
  parentClauses : Nat
  conditions : Conditions

/-- A call inside a join callback. -/
inductive JoinCall where
  | on (column operator operand : String)
  | orOn (column operator operand : String)
  | filter (connective : Connective) (filter : Filter)
  | useIndex (name : String)
  /-- The callback gives up with an error of its own. -/
  | raise (error : Error)

namespace JoinScope

/-- A join of a target without conditions. -/
def start (target : String) (kind : JoinKind) (parentClauses : Nat) : Except Error JoinScope := do
  let target ← JoinTarget.read target
  return ⟨⟨target, kind, [], []⟩, parentClauses, .empty⟩

def addOn (s : JoinScope) (connective : Connective) (column operator operand : String) :
    Except Error JoinScope := do
  let op ← Operator.read operator
  let name := Text.trim column
  if name = "" then .error (.argument .blankJoinColumn)
  else
    let connective := if s.join.on.isEmpty then none else some connective
    return { s with join.on := s.join.on ++ [⟨name, op, Operand.read operand, connective⟩] }

def on (s : JoinScope) (column operator operand : String) : Except Error JoinScope :=
  s.addOn .and column operator operand

/-- An alternative condition; there has to be one before it. -/
def orOn (s : JoinScope) (column operator operand : String) : Except Error JoinScope :=
  if s.join.on.isEmpty then .error (.state .orWithoutOn)
  else s.addOn .or column operator operand

/-- Adds a clause to the WHERE part of the enclosing query. -/
def filter (s : JoinScope) (connective : Connective) (f : Filter) : Except Error JoinScope := do
  let p ← f.predicate
  let conditions ← s.conditions.add connective p s.parentClauses "where"
  return { s with conditions }

def useIndex (s : JoinScope) (name : String) : Except Error JoinScope :=
  let hint := Text.trim name
  if hint = "" then .error (.argument .blankJoinIndex)
  else .ok { s with join.indexHints := s.join.indexHints ++ [hint] }

def apply (s : JoinScope) : JoinCall → Except Error JoinScope
  | .on column operator operand => s.on column operator operand
  | .orOn column operator operand => s.orOn column operator operand
  | .filter connective f => s.filter connective f
  | .useIndex name => s.useIndex name
  | .raise error => .error error

/-- The calls in turn; the first error ends the callback. -/
def applyAll (s : JoinScope) (calls : List JoinCall) : Except Error JoinScope :=
  Calls.applyAll apply s calls

/-- The attempts at the calls, failing ones left out. -/
def applyEach (s : JoinScope) (calls : List JoinCall) : List (Except Error Unit × JoinScope) :=
  Calls.applyEach apply s calls

end JoinScope

end FluentSql
