import FluentSql.PostgreSql.Client

/-!
# Scripted PostgreSQL servers

A server that answers from a list of rules: the first rule whose text is part of a
statement says what its slots and columns are and what comes back. A statement without a
rule has no slots and no columns. Everything that happens to the server is recorded.
-/

namespace FluentSql.PostgreSql

structure ServerRule where
  part : String
  slots : List SlotType
  columns : List (String × SlotType)
  rows : List (List Value)
  affected : Nat
  /-- Whether the statement is refused before it is run. -/
  refused : Bool
  /-- Whether a prepared statement is refused when it is run. -/
  refusedInUse : Bool

inductive ServerEvent where
  | connected (user database password : String)
  | simple (sql : String)
  | prepared (sql : String)
  | bound (data : List (Option Datum))

structure ScriptedHost where
  rules : List ServerRule
  /-- Whether no one may connect. -/
  refuses : Bool
  /-- What happened, last event first. -/
  events : List ServerEvent

namespace ServerRule

/-- The rule of statements that no rule is about. -/
def usual : ServerRule :=
  ⟨"", [], [], [], 0, false, false⟩

def prepared (r : ServerRule) : Prepared :=
  ⟨r.slots, r.columns⟩

/-- The rows as they travel, each value in the carrier of its column. -/
def reply (r : ServerRule) : Reply where
  rows := r.rows.map fun row =>
    (r.columns.zip row).map fun (column, v) => (Parameter.ofValue column.2 v).arrival
  affected := r.affected

end ServerRule

namespace ScriptedHost

def rule (s : ScriptedHost) (sql : String) : ServerRule :=
  (s.rules.find? fun r => Text.contains sql r.part).getD .usual

def record (s : ScriptedHost) (e : ServerEvent) : ScriptedHost :=
  { s with events := e :: s.events }

def host : Host ScriptedHost where
  connect user database password s := (!s.refuses, s.record (.connected user database password))
  simple sql s := (!(s.rule sql).refused, s.record (.simple sql))
  prepare sql s :=
    let r := s.rule sql
    (if r.refused then none else some r.prepared, s.record (.prepared sql))
  execute sql data s :=
    let r := s.rule sql
    (if r.refusedInUse then none else some r.reply, s.record (.bound data))

end ScriptedHost

end FluentSql.PostgreSql
