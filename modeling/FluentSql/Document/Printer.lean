import FluentSql.Document.Basic
import FluentSql.Number.Layout
import FluentSql.Text.Quoted
import FluentSql.Text.Blank

/-!
# Writing documents

`Document.write` is the compact JSON text; `Document.inspect` shows the shape of a
document in a diagnostic.
-/

namespace FluentSql.Document

/-- A character inside a JSON string. Only quotes, backslashes and control characters
are escaped. -/
def escapedChar (c : Char) : List Char :=
  if c = '"' then ['\\', '"']
  else if c = '\\' then ['\\', '\\']
  else if c.toNat < 0x20 then
    if c.toNat = 0x08 then ['\\', 'b']
    else if c.toNat = 0x0c then ['\\', 'f']
    else if c = '\n' then ['\\', 'n']
    else if c = '\r' then ['\\', 'r']
    else if c = '\t' then ['\\', 't']
    else '\\' :: 'u' :: Text.fixedDigits 16 4 c.toNat
  else [c]

def stringChars (s : String) : List Char :=
  '"' :: s.toList.flatMap escapedChar ++ ['"']

/-- Decimal digits, with a minus sign for a negative number. -/
def intChars (i : Int) : List Char :=
  if i < 0 then '-' :: Nat.toDigits 10 i.natAbs else Nat.toDigits 10 i.natAbs

def floatChars (x : Binary64) : List Char :=
  if x.isFinite then (NumberLayout.document.write x).toList else "null".toList

mutual

def writeChars : Document → List Char
  | .null => "null".toList
  | .bool b => (if b then "true" else "false").toList
  | .integer i => intChars i.val
  | .float x => floatChars x
  | .string s => stringChars s
  | .array items => '[' :: writeItems items
  | .object fields => '\x7b' :: writeFields fields

/-- The items and the closing bracket. -/
def writeItems : List Document → List Char
  | [] => [']']
  | x :: xs => writeChars x ++ writeMoreItems xs

def writeMoreItems : List Document → List Char
  | [] => [']']
  | x :: xs => ',' :: writeChars x ++ writeMoreItems xs

/-- The fields and the closing brace. -/
def writeFields : List (String × Document) → List Char
  | [] => ['\x7d']
  | (k, x) :: xs => stringChars k ++ ':' :: writeChars x ++ writeMoreFields xs

def writeMoreFields : List (String × Document) → List Char
  | [] => ['\x7d']
  | (k, x) :: xs => ',' :: stringChars k ++ ':' :: writeChars x ++ writeMoreFields xs

end

/-- The compact JSON text. -/
def write (d : Document) : String :=
  String.ofList d.writeChars

mutual

/-- The shape of a document: the kind of each value with its content. -/
def inspect : Document → String
  | .null => "Null"
  | .bool b => if b then "Bool(true)" else "Bool(false)"
  | .integer i => "Number(" ++ String.ofList (intChars i.val) ++ ")"
  | .float x => "Number(" ++ String.ofList (floatChars x) ++ ")"
  | .string s => "String(" ++ Text.quoted s ++ ")"
  | .array items => "Array [" ++ Text.commaList (inspectItems items) ++ "]"
  | .object fields => "Object \x7b" ++ Text.commaList (inspectFields fields) ++ "\x7d"

def inspectItems : List Document → List String
  | [] => []
  | x :: xs => inspect x :: inspectItems xs

def inspectFields : List (String × Document) → List String
  | [] => []
  | (k, x) :: xs => (Text.quoted k ++ ": " ++ inspect x) :: inspectFields xs

end

end FluentSql.Document
