import FluentSql.Dialect.Basic

/-!
# Pieces of schema text

A schema statement alternates text that is copied with identifiers that are quoted.
Keeping the two apart until the end makes each identifier one token of the result.
-/

namespace FluentSql

inductive SchemaPiece where
  /-- Text that is copied. -/
  | verbatim (s : String)
  /-- An identifier, to be written between quotation marks. -/
  | identifier (name : String)
  deriving DecidableEq

namespace SchemaPiece

def render (d : Dialect) : SchemaPiece → String
  | .verbatim s => s
  | .identifier name => d.quoteIdentifier name

def renderAll (d : Dialect) (pieces : List SchemaPiece) : String :=
  Text.concat (pieces.map (render d))

/-- The lists with `separator` between each two of them. -/
def separate (separator : String) : List (List SchemaPiece) → List SchemaPiece
  | [] => []
  | [pieces] => pieces
  | pieces :: next :: rest =>
    pieces ++ .verbatim separator :: separate separator (next :: rest)

/-- The identifiers as a comma list. -/
def nameList (names : List String) : List SchemaPiece :=
  separate ", " (names.map fun name => [.identifier name])

end SchemaPiece

end FluentSql
