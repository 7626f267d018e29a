import FluentSql.Session.Basic

/-!
# Scripted backends

A backend that answers from a list of rules. A rule applies to statements that contain
its text, as often as it may; a statement without a rule gets the output of its kind.
Every statement is recorded.
-/

namespace FluentSql

structure ScriptRule where
  part : String
  answer : Except Error Output
  /-- How often the rule may still be used, if that is limited. -/
  left : Option Nat

structure Script where
  rules : List ScriptRule
  affected : Nat
  lastId : Option Value
  /-- The statements so far, last first. -/
  sent : List BoundStatement

namespace ScriptRule

def applies (r : ScriptRule) (sql : String) : Bool :=
  r.left != some 0 && Text.contains sql r.part

def use (r : ScriptRule) : ScriptRule :=
  { r with left := r.left.map (· - 1) }

end ScriptRule

namespace Script

/-- The answer of the first rule that applies, and the rules with that one used. -/
def consult (sql : String) : List ScriptRule → Option (Except Error Output × List ScriptRule)
  | [] => none
  | r :: rules =>
    if r.applies sql then some (r.answer, r.use :: rules)
    else (consult sql rules).map fun (answer, rules) => (answer, r :: rules)

def answer (statement : BoundStatement) (s : Script) : Except Error Output × Script :=
  let s := { s with sent := statement :: s.sent }
  match consult statement.sql s.rules with
  | some (reply, rules) => (reply, { s with rules })
  | none =>
    (.ok (Output.ofCounts (StatementKind.classify statement.sql) s.affected s.lastId), s)

/-- The script as a backend; what is logged does not concern it. -/
def backend : Backend Script :=
  ⟨answer, fun _ s => s⟩

end Script

end FluentSql
