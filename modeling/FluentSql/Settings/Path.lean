/-!
# File paths

A path keeps its text as given. Two paths are the same when their components are:
repeated slashes, slashes at the end and single points inside do not count.
-/

namespace FluentSql

structure FilePath where
  text : String

namespace FilePath

/-- The parts between slashes. -/
def pieces : List Char → List (List Char)
  | [] => [[]]
  | c :: cs =>
    if c = '/' then [] :: pieces cs
    else match pieces cs with
      | p :: ps => (c :: p) :: ps
      | [] => [[c]]

/-- The components: the root or a leading point, if there is one, and the names. -/
def components (p : FilePath) : List String :=
  let names := (pieces p.text.toList).filter fun piece => piece != [] && piece != ['.']
  let lead := match p.text.toList with
    | '/' :: _ => ["/"]
    | ['.'] => ["."]
    | '.' :: '/' :: _ => ["."]
    | _ => []
  lead ++ names.map String.ofList

instance : BEq FilePath := ⟨fun p q => p.components == q.components⟩

end FilePath

end FluentSql
