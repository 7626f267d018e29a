import FluentSql.Document.Source
import FluentSql.Text.Quoted

/-!
# Universally unique identifiers

A UUID is 128 bits, written as thirty-two lower case hexadecimal digits in groups of
8, 4, 4, 4 and 12. Reading takes either case, no hyphens at all, braces around the
hyphenated form or, in either case too, `urn:uuid:` before it.
-/

namespace FluentSql

structure Uuid where
  bits : BitVec 128
  deriving DecidableEq, Inhabited

namespace Uuid

/-- Puts hyphens behind the 8th, 12th, 16th and 20th digit. -/
def hyphenate (digits : List Char) : List Char :=
  digits.take 8 ++ '-' :: (digits.drop 8).take 4 ++ '-' :: (digits.drop 12).take 4 ++
    '-' :: (digits.drop 16).take 4 ++ '-' :: digits.drop 20

def toText (u : Uuid) : String :=
  String.ofList (hyphenate (Text.fixedDigits 16 32 u.bits.toNat))

/-- The number written by hexadecimal digits. -/
def hexNumber? (acc : Nat) : List Char → Option Nat
  | [] => some acc
  | c :: cs =>
    match Source.hexValue? c with
    | some d => hexNumber? (16 * acc + d) cs
    | none => none

def ofDigits? (digits : List Char) : Option Uuid :=
  if digits.length = 32 then (hexNumber? 0 digits).map fun n => ⟨BitVec.ofNat 128 n⟩ else none

/-- Reads thirty-six characters with hyphens where they belong. -/
def ofHyphenated? (cs : List Char) : Option Uuid :=
  let digits := cs.take 8 ++ (cs.drop 9).take 4 ++ (cs.drop 14).take 4 ++ (cs.drop 19).take 4 ++
    cs.drop 24
  if cs.length = 36 ∧ hyphenate digits = cs then ofDigits? digits else none

def read? (s : String) : Option Uuid :=
  let cs := s.toList
  if cs.length = 32 then ofDigits? cs
  else if cs.length = 36 then ofHyphenated? cs
  else if cs.length = 38 ∧ cs.head? = some '\x7b' ∧ cs.getLast? = some '\x7d' then
    ofHyphenated? ((cs.drop 1).take 36)
  else if cs.length = 45 ∧ (cs.take 9).map Char.toLower = "urn:uuid:".toList then
    ofHyphenated? (cs.drop 9)
  else none

end Uuid

end FluentSql
