import FluentSql.Number.Integer

/-!
# Hexadecimal digits

Digits of either case, the naturals they write, and bytes as pairs of digits.
-/

namespace FluentSql.Sqlite.Hexadecimal

def isDigit (c : Char) : Bool :=
  Integer.isDigit c || ('a' ≤ c && c ≤ 'f') || ('A' ≤ c && c ≤ 'F')

def digitValue (c : Char) : Nat :=
  if Integer.isDigit c then Integer.digitValue c else c.toLower.toNat - 'a'.toNat + 10

/-- The number that digits write. -/
def toNat (cs : List Char) : Nat :=
  cs.foldl (fun n c => 16 * n + digitValue c) 0

/-- The byte that two digits write. -/
def byte (c d : Char) : UInt8 :=
  UInt8.ofNat (16 * digitValue c + digitValue d)

/-- The bytes of pairs of digits. -/
def bytes : List Char → List UInt8
  | c :: d :: cs => byte c d :: bytes cs
  | _ => []

def capitalDigit (n : Nat) : Char :=
  (Nat.digitChar n).toUpper

/-- Two capital digits for each byte. -/
def write (bytes : List UInt8) : List Char :=
  bytes.flatMap fun b => [capitalDigit (b.toNat / 16), capitalDigit (b.toNat % 16)]

end FluentSql.Sqlite.Hexadecimal
