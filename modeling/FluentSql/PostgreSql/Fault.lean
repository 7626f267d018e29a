import FluentSql.Error
import FluentSql.PostgreSql.Slot

/-!
# Faults of a PostgreSQL client

What can go wrong between a client and its server, and the driver error shown for it.
-/

namespace FluentSql.PostgreSql

inductive Fault where
  /-- The client was closed. -/
  | closed
  /-- The server refused the connection. -/
  | refused
  /-- The log-in holds a text that cannot be sent. -/
  | unsendableLogin
  /-- The server refused the statement. -/
  | rejected
  /-- The statement cannot be sent. -/
  | unsendable
  /-- A statement with another number of slots than parameters. -/
  | parameterCount (slots params : Nat)
  /-- The slot at the position does not take its parameter. -/
  | misfit (index : Nat)
  /-- The column at the position is of a type that cannot be read. -/
  | undecodable (column : String) (type : SlotType) (index : Nat)

namespace Fault

/-- Why no connection was made. -/
def connectionText (reason : String) : String :=
  "postgresql connection error: Error occurred while creating a new object: " ++ reason

def text : Fault → String
  | closed => "postgresql connection error: Pool has been closed"
  | refused => connectionText "db error"
  | unsendableLogin => connectionText "error encoding message to server"
  | rejected => "postgresql query error: db error"
  | unsendable => "postgresql query error: error encoding message to server"
  | parameterCount slots params =>
    "postgresql query error: expected " ++ natText slots ++ " parameters but got " ++
      natText params
  | misfit index => "postgresql query error: error serializing parameter " ++ natText index
  | undecodable column type index =>
    "postgresql: cannot decode column '" ++ column ++ "' of type " ++ type.name ++
      ": error deserializing column " ++ natText index

def toError (f : Fault) : Error :=
  .driver f.text

end Fault

end FluentSql.PostgreSql
