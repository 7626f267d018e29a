import FluentSql.Calendar.Text
import FluentSql.Document.Printer
import FluentSql.Value.Uuid

/-!
# Values

What a statement binds and what a column holds. `toText` is the plain text of a value,
`toDocument` its JSON form and `inspect` its form in a diagnostic.
-/

namespace FluentSql

inductive Value where
  | null
  | bool (b : Bool)
  | int (i : Int64)
  | float (x : Binary64)
  | string (s : String)
  | bytes (b : List UInt8)
  | date (d : Date)
  | dateTime (t : DateTime)
  | instant (t : Instant)
  | time (t : Time)
  | uuid (u : Uuid)
  | json (d : OrderedDocument)
  deriving Inhabited

namespace Value

def isNull : Value → Bool
  | .null => true
  | _ => false

def isNumeric : Value → Bool
  | .int _ | .float _ => true
  | _ => false

/-- The truth value; integers count, as some engines have no other truth values. -/
def toBool? : Value → Option Bool
  | .bool b => some b
  | .int i => some (i != 0)
  | _ => none

def toInt? : Value → Option Int64
  | .int i => some i
  | _ => none

def toFloat? : Value → Option Binary64
  | .float x => some x
  | _ => none

def toString? : Value → Option String
  | .string s => some s
  | _ => none

/-- Equality with numbers compared by value, so that a NaN differs from itself. -/
def same : Value → Value → Bool
  | .null, .null => true
  | .bool a, .bool b => a == b
  | .int i, .int j => i == j
  | .float x, .float y => x.eqv y
  | .string s, .string t => s == t
  | .bytes a, .bytes b => a == b
  | .date a, .date b => a == b
  | .dateTime a, .dateTime b => a == b
  | .instant a, .instant b => a == b
  | .time a, .time b => a == b
  | .uuid a, .uuid b => a == b
  | .json a, .json b => a.tree.same b.tree
  | _, _ => false

def sameList : List Value → List Value → Bool
  | [], [] => true
  | x :: xs, y :: ys => x.same y && sameList xs ys
  | _, _ => false

/-- Decimal digits of an integer. -/
def intText (i : Int64) : String :=
  String.ofList (Document.intChars i.toInt)

/-- The plain text of a value. -/
def toText : Value → String
  | .null => "NULL"
  | .bool b => if b then "true" else "false"
  | .int i => intText i
  | .float x => NumberLayout.plain.write x
  | .string s => s
  | .bytes b => "<" ++ String.ofList (Nat.toDigits 10 b.length) ++ " bytes>"
  | .date d => d.toText
  | .dateTime t => t.toText
  | .instant t => t.toText
  | .time t => t.toText
  | .uuid u => u.toText
  | .json d => d.tree.write

def bytesDocument (b : List UInt8) : Document :=
  .array (b.map Document.ofUInt8)

/-- The JSON form; what JSON has no form for becomes its plain text. -/
def toDocument : Value → Document
  | .null => .null
  | .bool b => .bool b
  | .int i => Document.ofInt64 i
  | .float x => Document.ofFloat x
  | .json d => d.tree
  | .bytes b => bytesDocument b
  | .string s => .string s
  | .date d => .string d.toText
  | .dateTime t => .string t.toText
  | .instant t => .string t.toText
  | .time t => .string t.toText
  | .uuid u => .string u.toText

/-- The kind of a value with its content. -/
def inspect : Value → String
  | .null => "Null"
  | .bool b => if b then "Bool(true)" else "Bool(false)"
  | .int i => "Int(" ++ intText i ++ ")"
  | .float x => "Float(" ++ NumberLayout.diagnostic.write x ++ ")"
  | .string s => "String(" ++ Text.quoted s ++ ")"
  | .bytes b =>
    "Bytes([" ++ Text.commaList (b.map fun n => String.ofList (Nat.toDigits 10 n.toNat)) ++ "])"
  | .date d => "Date(" ++ d.toText ++ ")"
  | .dateTime t => "DateTime(" ++ t.toStamp ++ ")"
  | .instant t => "DateTimeTz(" ++ t.toStamp ++ ")"
  | .time t => "Time(" ++ t.toText ++ ")"
  | .uuid u => "Uuid(" ++ u.toText ++ ")"
  | .json d => "Json(" ++ d.tree.inspect ++ ")"

end Value

end FluentSql
