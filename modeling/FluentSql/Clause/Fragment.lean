import FluentSql.Text.Blank
import FluentSql.Value.Basic

/-!
# Fragments

A statement is composed of fragments: text that is copied, string literals, and slots
that bind a value. Its text and its parameters are two views of one list, so a slot
cannot lose its value.
-/

namespace FluentSql

inductive Fragment where
  /-- Text that is copied. -/
  | text (s : String)
  /-- A string literal with the given content. -/
  | literal (s : String)
  /-- A placeholder and the value bound to it. -/
  | slot (v : Value)

namespace Fragment

/-- The text of a fragment; a quote inside a literal is written twice. -/
def render : Fragment → String
  | .text s => s
  | .literal s => "'" ++ Text.replaceChar '\'' ['\'', '\''] s ++ "'"
  | .slot _ => "?"

def value? : Fragment → Option Value
  | .slot v => some v
  | _ => none

/-- The text of a list of fragments. -/
def renderAll (fragments : List Fragment) : String :=
  Text.concat (fragments.map render)

/-- The bound values in the order of their slots. -/
def values (fragments : List Fragment) : List Value :=
  fragments.filterMap value?

/-- Slots for the values, as a comma list. -/
def slots : List Value → List Fragment
  | [] => []
  | [v] => [.slot v]
  | v :: w :: rest => .slot v :: .text ", " :: slots (w :: rest)

end Fragment

/-- A statement as it is sent. -/
structure BoundStatement where
  sql : String
  params : List Value

end FluentSql
