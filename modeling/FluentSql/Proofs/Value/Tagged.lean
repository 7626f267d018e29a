import FluentSql.Proofs.Calendar.Reading
import FluentSql.Proofs.Document.Order
import FluentSql.Proofs.Document.Reading
import FluentSql.Proofs.Value.Uuid
import FluentSql.Value.Tagged

/-!
# Tagged values read back

A value without floating point numbers is read back from the text of its tagged form. The tagged
object counts as a level of nesting, so that a document that fills the limit of a reader is one
level too deep.
-/

namespace FluentSql.Value

open Document (itemSources)

/-- Whether there is no floating point number in the value. -/
def isExact : Value → Bool
  | .float _ => false
  | .json d => d.tree.isExact
  | _ => true

/-- How deep the document of a value nests. -/
def nesting : Value → Nat
  | .json d => d.tree.nesting
  | _ => 0

end FluentSql.Value
