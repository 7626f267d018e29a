/-!
# Code point ranges

A property of characters is held as a list of closed ranges of code points, in
ascending order. `inRanges` is membership in their union.
-/

namespace FluentSql.Text

/-- A closed range of code points. -/
abbrev Range := Nat × Nat

/-- Membership in one of the ranges. -/
def inRanges (ranges : List Range) (c : Char) : Bool :=
  ranges.any fun r => r.1 ≤ c.toNat && c.toNat ≤ r.2

end FluentSql.Text
