import FluentSql.Error
import FluentSql.Text.Blank
import FluentSql.Text.Case

/-!
# Dialects

The three kinds of SQL that statements are written for.
-/

namespace FluentSql

inductive Dialect where
  | mySql
  | postgreSql
  | sqlite
  deriving DecidableEq, Inhabited

namespace Dialect

def name : Dialect → String
  | mySql => "mysql"
  | postgreSql => "postgresql"
  | sqlite => "sqlite"

/-- Whether placeholders carry numbers. -/
def isNumbered (d : Dialect) : Bool :=
  d == postgreSql

/-- Reads a configured name, in any case and with blanks around it. -/
def read (s : String) : Except Error Dialect :=
  let name := Text.lower (Text.trim s)
  if name = "mysql" ∨ name = "mariadb" then .ok mySql
  else if name = "postgresql" ∨ name = "postgres" ∨ name = "pgsql" ∨ name = "pg" then
    .ok postgreSql
  else if name = "sqlite" ∨ name = "sqlite3" then .ok sqlite
  else .error (.unsupportedDialect name)

/-- The quotation mark of identifiers. -/
def identifierQuote : Dialect → Char
  | mySql => '\x60'
  | postgreSql => '"'
  | sqlite => '"'

/-- An identifier between quotation marks, a mark inside written twice. -/
def quoteIdentifier (d : Dialect) (name : String) : String :=
  let q := d.identifierQuote
  String.ofList (q :: (name.toList.flatMap fun c => if c = q then [q, q] else [c]) ++ [q])

end Dialect

end FluentSql
