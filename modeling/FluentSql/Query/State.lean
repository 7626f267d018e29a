import FluentSql.Clause.Conditions
import FluentSql.Join.Scope

/-!
# Query states

Everything a query has been told. States start at a table and grow by clause calls;
`QueryState.apply` runs a call that is given as data.
-/

namespace FluentSql

inductive Direction where
  | asc | desc
  deriving DecidableEq

namespace Direction

def sql : Direction → String
  | asc => "ASC"
  | desc => "DESC"

def read (raw : String) : Except Error Direction :=
  let name := Text.upper (Text.trim raw)
  if name = "ASC" then .ok asc
  else if name = "DESC" then .ok desc
  else .error (.argument (.unknownDirection raw))

end Direction

/-- A column that rows are sorted by. -/
structure SortKey where
  column : String
  direction : Direction
  deriving DecidableEq

structure QueryState where
  table : String
  fields : List String
  conditions : Conditions
  joins : List Join
  groupBy : List String
  having : Conditions
  orderBy : List SortKey
  limit : Option Nat
  offset : Option Nat
  indexHints : List String

/-- The parts of a query that hold conditions. -/
inductive Section where
  | where_ | having
  deriving DecidableEq

def Section.label : Section → String
  | where_ => "where"
  | having => "having"

/-- A clause call on a query. -/
inductive QueryCall where
  | select (columns : List String)
  | filter (part : Section) (connective : Connective) (filter : Filter)
  | join (kind : JoinKind) (target column operator operand : String)
  /-- A join callback; a tolerant one goes on after a failing call. -/
  | joinWith (kind : JoinKind) (target : String) (calls : List JoinCall) (tolerant : Bool)
  | groupBy (columns : List String)
  | orderBy (column direction : String)
  | limit (n : Nat)
  | offset (n : Nat)
  | useIndex (names : List String)

namespace QueryState

/-- A query of a table and nothing else. -/
def start (table : String) : Except Error QueryState :=
  let name := Text.trim table
  if name = "" then .error (.argument .blankTable)
  else .ok ⟨name, [], .empty, [], [], .empty, [], none, none, []⟩

/-- Whether any clause was added. -/
def hasClauses (q : QueryState) : Bool :=
  !q.fields.isEmpty || !q.conditions.isEmpty || !q.joins.isEmpty || !q.groupBy.isEmpty ||
    !q.having.isEmpty || !q.orderBy.isEmpty || q.limit.isSome || q.offset.isSome ||
    !q.indexHints.isEmpty

/-- The values of the WHERE part, then those of the HAVING part. -/
def bindings (q : QueryState) : List Value :=
  q.conditions.values ++ q.having.values

def select (q : QueryState) (columns : List String) : QueryState :=
  { q with fields := q.fields ++ columns }

def filter (q : QueryState) (part : Section) (connective : Connective) (f : Filter) :
    Except Error QueryState := do
  let p ← f.predicate
  match part with
  | .where_ => do
    let conditions ← q.conditions.add connective p 0 part.label
    return { q with conditions }
  | .having => do
    let having ← q.having.add connective p 0 part.label
    return { q with having }

/-- Adds a join on one condition. -/
def join (q : QueryState) (kind : JoinKind) (target column operator operand : String) :
    Except Error QueryState := do
  let scope ← JoinScope.start target kind 0
  let scope ← scope.on column operator operand
  return { q with joins := q.joins ++ [scope.join] }

/-- The join of a finished scope and its clauses. -/
def closeScope (q : QueryState) (scope : JoinScope) : QueryState :=
  { q with
    joins := q.joins ++ [scope.join]
    conditions := q.conditions.absorb scope.conditions }

/-- Opens a scope that sees the primary clauses of this query. -/
def openScope (q : QueryState) (kind : JoinKind) (target : String) : Except Error JoinScope :=
  JoinScope.start target kind q.conditions.primary.length

/-- Adds a join that a callback builds. -/
def joinWith (q : QueryState) (kind : JoinKind) (target : String)
    (build : JoinScope → Except Error JoinScope) : Except Error QueryState := do
  let scope ← q.openScope kind target
  let scope ← build scope
  return q.closeScope scope

def groupByColumns (q : QueryState) (columns : List String) : Except Error QueryState :=
  if columns.isEmpty then .error (.argument .noGroupColumns)
  else if columns.any Text.isBlankText then .error (.argument .blankGroupColumn)
  else .ok { q with groupBy := q.groupBy ++ columns }

def orderByColumn (q : QueryState) (column direction : String) : Except Error QueryState := do
  let direction ← Direction.read direction
  let name := Text.trim column
  if name = "" then .error (.argument .blankOrderColumn)
  else return { q with orderBy := q.orderBy ++ [⟨name, direction⟩] }

def withLimit (q : QueryState) (n : Nat) : Except Error QueryState :=
  if n = 0 then .error (.argument .zeroLimit) else .ok { q with limit := some n }

def withOffset (q : QueryState) (n : Nat) : QueryState :=
  { q with offset := some n }

def useIndex (q : QueryState) (names : List String) : Except Error QueryState :=
  if names.isEmpty then .error (.argument .noIndexes)
  else match names.find? Text.isBlankText with
    | some name => .error (.argument (.blankIndex name))
    | none => .ok { q with indexHints := q.indexHints ++ names }

/-- Runs a clause call. -/
def apply (q : QueryState) : QueryCall → Except Error QueryState
  | .select columns => .ok (q.select columns)
  | .filter part connective f => q.filter part connective f
  | .join kind target column operator operand => q.join kind target column operator operand
  | .joinWith kind target calls tolerant =>
    q.joinWith kind target fun scope =>
      if tolerant then .ok (Calls.lastState scope (scope.applyEach calls)) else scope.applyAll calls
  | .groupBy columns => q.groupByColumns columns
  | .orderBy column direction => q.orderByColumn column direction
  | .limit n => q.withLimit n
  | .offset n => .ok (q.withOffset n)
  | .useIndex names => q.useIndex names

/-- Runs the calls in turn; the first error ends the run. -/
def applyAll (q : QueryState) (calls : List QueryCall) : Except Error QueryState :=
  Calls.applyAll apply q calls

end QueryState

end FluentSql
