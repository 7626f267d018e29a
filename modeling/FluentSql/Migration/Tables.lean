import FluentSql.Migration.Ledger

/-!
# The tables of a database

The names of all tables that are not part of the database system, less the ledger.
-/

namespace FluentSql

/-- Where migrations run: a dialect, and the name of the database if there is one. -/
structure MigrationTarget where
  dialect : Dialect
  database : Option String

namespace MigrationTarget

def tableListing : Dialect → String
  | .mySql =>
    "SELECT TABLE_NAME AS name FROM INFORMATION_SCHEMA.TABLES " ++
      "WHERE TABLE_SCHEMA = ? AND TABLE_NAME != 'migrations'"
  | .postgreSql =>
    "SELECT table_name::text AS name FROM information_schema.tables " ++
      "WHERE table_schema = current_schema() AND table_type = 'BASE TABLE' " ++
      "AND table_name != 'migrations'"
  | .sqlite =>
    "SELECT name FROM sqlite_master WHERE type = 'table' " ++
      "AND name NOT LIKE 'sqlite_%' AND name != 'migrations' ORDER BY name"

/-- MySQL is told the name of the database. -/
def listingParams (t : MigrationTarget) : List Value :=
  if t.dialect = .mySql then [.string (t.database.getD "")] else []

def userTables (t : MigrationTarget) : Session (List String) := do
  let output ← Session.query t.dialect (tableListing t.dialect) t.listingParams
  Session.ofExcept (Ledger.column "name" output.toRows)

end MigrationTarget

end FluentSql
