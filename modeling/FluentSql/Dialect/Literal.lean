import FluentSql.Dialect.Basic

/-!
# Literals

How each dialect writes a value into the text of a statement. Statements are always
run with bound parameters; literals are for traces.
-/

namespace FluentSql.Dialect

/-- A character inside a MySQL string, behind a backslash where it needs one. -/
def backslashed (c : Char) : List Char :=
  if c = '\x00' then ['\\', '0']
  else if c = '\x08' then ['\\', 'b']
  else if c = '\t' then ['\\', 't']
  else if c = '\n' then ['\\', 'n']
  else if c = '\r' then ['\\', 'r']
  else if c = '\x1a' then ['\\', 'Z']
  else if c = '\'' ∨ c = '"' ∨ c = '\\' then ['\\', c]
  else [c]

/-- A character inside a PostgreSQL string. -/
def quoteDoubled (c : Char) : List Char :=
  if c = '\'' then ['\'', '\''] else [c]

/-- A character inside a SQLite string. -/
def slashDoubled (c : Char) : List Char :=
  if c = '\\' then ['\\', '\\'] else quoteDoubled c

def stringChar : Dialect → Char → List Char
  | mySql => backslashed
  | postgreSql => quoteDoubled
  | sqlite => slashDoubled

/-- A string literal. -/
def quoteChars (d : Dialect) (cs : List Char) : List Char :=
  '\'' :: cs.flatMap d.stringChar ++ ['\'']

def quoteString (d : Dialect) (s : String) : String :=
  String.ofList (d.quoteChars s.toList)

def boolText : Dialect → Bool → String
  | mySql, b => if b then "true" else "false"
  | postgreSql, b => if b then "TRUE" else "FALSE"
  | sqlite, b => if b then "1" else "0"

/-- Two upper case hexadecimal digits for each byte. -/
def hexBytes (b : List UInt8) : List Char :=
  b.flatMap fun n => (Text.fixedDigits 16 2 n.toNat).map Char.toUpper

/-- A value as a literal of the dialect. -/
def escape (d : Dialect) : Value → String
  | .null => "NULL"
  | .int i => Value.intText i
  | .float x => NumberLayout.plain.write x
  | .bool b => d.boolText b
  | .bytes b => String.ofList ('X' :: '\'' :: hexBytes b ++ ['\''])
  | .string s => d.quoteString s
  | .date t => d.quoteString t.toText
  | .dateTime t => d.quoteString t.toText
  | .instant t => d.quoteString t.toText
  | .time t => d.quoteString t.toText
  | .uuid u => d.quoteString u.toText
  | .json j => d.quoteString j.tree.write

end FluentSql.Dialect
