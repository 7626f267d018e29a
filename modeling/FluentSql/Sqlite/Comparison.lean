import FluentSql.Sqlite.Conversion
import FluentSql.Text.Case

/-!
# Comparison of cells

NULL comes before numbers, numbers before texts and texts before blobs. Texts are compared
by a collation, after one side was brought into the form that the other prefers.
-/

namespace FluentSql.Sqlite

/-- How texts are compared. -/
inductive Collation where
  | binary
  /-- The letters A to Z count as small. -/
  | noCase
  /-- Spaces at the end do not count. -/
  | trimmed
  deriving DecidableEq

namespace Collation

def named? : String → Option Collation
  | "binary" => some binary
  | "nocase" => some noCase
  | "rtrim" => some trimmed
  | _ => none

/-- What is compared of a text. -/
def key (c : Collation) (s : String) : String :=
  match c with
  | binary => s
  | noCase => Text.asciiLower s
  | trimmed => String.ofList (Text.dropTail (· == ' ') s.toList)

end Collation

namespace Affinity

def isNumeric : Affinity → Bool
  | numeric | integer | real => true
  | _ => false

/-- What both sides of a comparison are brought to, by the preferences of its sides. -/
def common : Option Affinity → Option Affinity → Affinity
  | some a, some b => if a.isNumeric || b.isNumeric then numeric else blob
  | some a, none => a
  | none, some b => b
  | none, none => blob

end Affinity

namespace Cell

def rank : Cell → Nat
  | null => 0
  | integer _ | real _ => 1
  | text _ => 2
  | blob _ => 3

def orderBytes : List UInt8 → List UInt8 → Ordering
  | [], [] => .eq
  | [], _ :: _ => .lt
  | _ :: _, [] => .gt
  | a :: as, b :: bs => (compare a b).then (orderBytes as bs)

def orderNumbers : Cell → Cell → Ordering
  | integer i, integer j => compare i.toInt j.toInt
  | real x, real y => x.order y
  | integer i, real x =>
    if x.isInfinite then if x.isNegative then .gt else .lt
    else
      let (num, den) := x.toRational
      compare (i.toInt * den) num
  | real x, integer i =>
    if x.isInfinite then if x.isNegative then .lt else .gt
    else
      let (num, den) := x.toRational
      compare num (i.toInt * den)
  | _, _ => .eq

/-- The order of cells under a collation. -/
def order (collation : Collation) : Cell → Cell → Ordering
  | text s, text t => compare (collation.key s) (collation.key t)
  | blob a, blob b => orderBytes a b
  | a, b => (compare a.rank b.rank).then (orderNumbers a b)

/-- Both sides as they are compared. -/
def align (affinity : Affinity) (a b : Cell) : Cell × Cell :=
  if affinity.isNumeric then (a.preferNumber, b.preferNumber)
  else if affinity = .text && (a.rank == 2 || b.rank == 2) then (a.preferText, b.preferText)
  else (a, b)

/-- The order of two cells, if both are there. -/
def compare? (affinity : Affinity) (collation : Collation) (a b : Cell) : Option Ordering :=
  if a.isNull || b.isNull then none
  else
    let (a, b) := align affinity a b
    some (order collation a b)

/-- Whether two cells are the same, NULL being the same as NULL. -/
def same (affinity : Affinity) (collation : Collation) (a b : Cell) : Bool :=
  match compare? affinity collation a b with
  | some o => o == .eq
  | none => a.isNull && b.isNull

end Cell

end FluentSql.Sqlite
