import FluentSql.Error

/-!
# Kinds of errors

The name of the kind of an error, and the errors that are given by a kind and a text.
-/

namespace FluentSql.Error

def kind : Error → String
  | argument _ => "InvalidArgument"
  | state _ => "InvalidState"
  | guarded _ => "GuardedField"
  | notFillable _ => "NotFillable"
  | undefinedValue _ => "UndefinedValue"
  | unsupportedDialect _ => "UnsupportedDialect"
  | configuration _ => "ConfigurationError"
  | driver _ => "DriverError"
  | doesNotExist _ => "DoesNotExist"
  | value _ => "SerializationError"
  | io _ => "IoError"

/-- The error of a kind with a text of its own. -/
def ofKind? (kind text : String) : Option Error :=
  match kind with
  | "InvalidArgument" => some (argument (.other text))
  | "InvalidState" => some (state (.other text))
  | "GuardedField" => some (guarded text)
  | "NotFillable" => some (notFillable text)
  | "UndefinedValue" => some (undefinedValue text)
  | "UnsupportedDialect" => some (unsupportedDialect text)
  | "ConfigurationError" => some (configuration text)
  | "DriverError" => some (driver text)
  | "DoesNotExist" => some (doesNotExist text)
  | "SerializationError" => some (value (.other text))
  | "IoError" => some (io text)
  | _ => none

end FluentSql.Error
