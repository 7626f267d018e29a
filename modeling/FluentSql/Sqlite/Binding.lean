import FluentSql.Sqlite.Fault
import FluentSql.Sqlite.Token

/-!
# Binding parameters

The slots of a statement are numbered from one on. A bare slot gets the next number, a slot
with a number that one, and slots of one name share a number. Each slot takes the parameter
of its number, NULL if there is none; parameters without a slot are a fault.
-/

namespace FluentSql.Sqlite

/-- The greatest number given so far, and the numbers of names. -/
structure Numbering where
  last : Nat
  names : List (String × Nat)

namespace Numbering

def start : Numbering :=
  ⟨0, []⟩

/-- The greatest number that a slot can have. -/
def maxNumber : Nat := 32766

/-- The number of a slot by its label. -/
def number (label : String) (n : Numbering) : Nat × Numbering :=
  match label.toList with
  | ['?'] => (n.last + 1, { n with last := n.last + 1 })
  | '?' :: digits =>
    let i := Integer.natOfDigits 0 digits
    (i, { n with last := max n.last i })
  | _ =>
    match n.names.lookup label with
    | some i => (i, n)
    | none => (n.last + 1, ⟨n.last + 1, (label, n.last + 1) :: n.names⟩)

/-- Numbers the slots among tokens and puts the parameters into them; yields how many slots
there are. -/
def fill (sql : String) (params : Array Cell) (n : Numbering) :
    List Token → Except Fault (List Token × Nat)
  | [] => .ok ([], n.last)
  | .slot label start :: rest =>
    let (i, n) := n.number label
    if label = "?" ∧ maxNumber < i then .error (.tooManySlots sql start)
    else if i = 0 ∨ maxNumber < i then .error .untold
    else (fill sql params n rest).map fun (tokens, count) =>
      (.cell (params[i - 1]?.getD .null) :: tokens, count)
  | t :: rest => (fill sql params n rest).map fun (tokens, count) => (t :: tokens, count)

end Numbering

/-- The tokens of a statement with its parameters in their slots. -/
def Token.bind (sql : String) (params : List Cell) (tokens : List Token) :
    Except Fault (List Token) :=
  match Numbering.start.fill sql params.toArray tokens with
  | .error fault => .error fault
  | .ok (tokens, count) => if params.length ≤ count then .ok tokens else .error .untold

end FluentSql.Sqlite
