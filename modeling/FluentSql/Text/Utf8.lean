/-!
# UTF-8

The bytes of a text, and the text of bytes. Bytes that are no text show as replacement
characters, one for each longest start of a character that breaks off.
-/

namespace FluentSql.Text

/-- The bytes of a text. -/
def toBytes (s : String) : List UInt8 :=
  s.toUTF8.data.toList

/-- A character of which some bytes are still to come, the next of them in a range. -/
structure Unfinished where
  missing : Nat
  value : Nat
  low : Nat
  high : Nat

def replacement : Char := '\ufffd'

/-- What a byte starts: a whole character, or one with more bytes to come. -/
def startChar (b : Nat) : List Char × Option Unfinished :=
  if b < 0x80 then ([Char.ofNat b], none)
  else if b < 0xc2 then ([replacement], none)
  else if b < 0xe0 then ([], some ⟨1, b - 0xc0, 0x80, 0xbf⟩)
  else if b < 0xf0 then
    let low := if b = 0xe0 then 0xa0 else 0x80
    let high := if b = 0xed then 0x9f else 0xbf
    ([], some ⟨2, b - 0xe0, low, high⟩)
  else if b < 0xf5 then
    let low := if b = 0xf0 then 0x90 else 0x80
    let high := if b = 0xf4 then 0x8f else 0xbf
    ([], some ⟨3, b - 0xf0, low, high⟩)
  else ([replacement], none)

/-- One byte more: the characters that are finished and the one that is not. -/
def nextChar (open? : Option Unfinished) (b : Nat) : List Char × Option Unfinished :=
  match open? with
  | none => startChar b
  | some u =>
    if u.low ≤ b ∧ b ≤ u.high then
      let value := 64 * u.value + (b - 0x80)
      if u.missing = 1 then ([Char.ofNat value], none)
      else ([], some ⟨u.missing - 1, value, 0x80, 0xbf⟩)
    else
      let (cs, next) := startChar b
      (replacement :: cs, next)

def charsFrom (open? : Option Unfinished) : List UInt8 → List Char
  | [] => if open?.isSome then [replacement] else []
  | b :: bs =>
    let (cs, next) := nextChar open? b.toNat
    cs ++ charsFrom next bs

/-- The text of bytes. -/
def ofBytes (bytes : List UInt8) : String :=
  String.ofList (charsFrom none bytes)

end FluentSql.Text
