import FluentSql.Error

/-!
# Faults of the engine

Why a statement failed, as far as the engine's words are kept, and the driver error shown
for it.
-/

namespace FluentSql.Sqlite

inductive Fault where
  /-- The slot at the byte is one too many. -/
  | tooManySlots (sql : String) (start : Nat)
  | tooManyColumns
  /-- Any other reason, which is not told. -/
  | untold
  deriving DecidableEq

namespace Fault

def reason : Fault → String
  | tooManySlots sql start =>
    ": too many SQL variables in " ++ sql ++ " at offset " ++ natText start
  | tooManyColumns => ": too many columns in result set"
  | untold => ""

def toError (f : Fault) : Error :=
  .driver ("sqlite query error" ++ f.reason)

end Fault

end FluentSql.Sqlite
