import FluentSql.Connection.Manager
import FluentSql.Session.Script

/-!
# Scripted servers

A server that answers from a script, knows whether its database exists and counts what
is done to it. Its one connection has no state of its own.
-/

namespace FluentSql

structure ScriptedServer where
  script : Script
  /-- Whether the database exists. -/
  hasSchema : Bool
  /-- How often the database was created. -/
  created : Nat
  /-- How often the connection was closed. -/
  closed : Nat
  failClose : Bool
  /-- The log, last entry first. -/
  entries : List LogEntry

namespace ScriptedServer

def drivers : Drivers Unit ScriptedServer where
  compiled := Dialect.hasDriver
  openUp _ _ s := (.ok (), s)
  query _ statement s :=
    let (reply, script) := s.script.answer statement
    (reply, { s with script })
  schemaExists _ s := (.ok s.hasSchema, s)
  createSchema _ s := (.ok true, { s with hasSchema := true, created := s.created + 1 })
  close _ s :=
    let s := { s with closed := s.closed + 1 }
    (if s.failClose then .error (.driver "close failed") else .ok (), s)
  note entry s := { s with entries := entry :: s.entries }

end ScriptedServer

end FluentSql
