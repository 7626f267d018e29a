import FluentSql.Text.Blank
import FluentSql.Text.Case

/-!
# Returned rows of an INSERT

An INSERT tells the generated id only by returning rows. One that does not ask for them
is made to return all columns.
-/

namespace FluentSql.PostgreSql.Returning

/-- Whether the word stands between blanks somewhere in the text, in any letter case. -/
def isPresent (sql : String) : Bool :=
  Text.contains (Text.asciiLower sql) " returning "

/-- The text without the blanks and then the semicolons at its end. -/
def body (sql : String) : String :=
  String.ofList (Text.dropTail (· == ';') (Text.dropTail Text.isBlank sql.toList))

def ensure (sql : String) : String :=
  if isPresent sql then sql else body sql ++ " RETURNING *"

end FluentSql.PostgreSql.Returning
