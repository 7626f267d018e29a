/-!
# Powers

Powers of two and of ten, in which binary and decimal numbers are scaled.
-/

namespace FluentSql

/-- Two to the power of `n`. -/
abbrev twoTo (n : Nat) : Nat :=
  Nat.pow 2 n

/-- Ten to the power of `n`. -/
abbrev tenTo (n : Nat) : Nat :=
  Nat.pow 10 n

end FluentSql
