import FluentSql.Session.Basic

/-!
# The ledger of migrations

A table of the database records the names of the migrations that were applied. To
apply a migration is to look its name up, run its statement and record the name; to
revert it is to remove the name and run the statement.
-/

namespace FluentSql.Ledger

def keyType : Dialect → String
  | .mySql => "INT AUTO_INCREMENT PRIMARY KEY"
  | .postgreSql => "SERIAL PRIMARY KEY"
  | .sqlite => "INTEGER PRIMARY KEY AUTOINCREMENT"

/-- The statement that creates the ledger unless it is there. -/
def creation (d : Dialect) : String :=
  "CREATE TABLE IF NOT EXISTS migrations (id " ++ keyType d ++
    ", migration_name VARCHAR(255) NOT NULL UNIQUE, applied_at TIMESTAMP DEFAULT CURRENT_TIMESTAMP)"

def lookup : String := "SELECT * FROM migrations WHERE migration_name = ?"

def insertion : String := "INSERT INTO migrations (migration_name) VALUES (?)"

def removal : String := "DELETE FROM migrations WHERE migration_name = ?"

def listing : String := "SELECT migration_name FROM migrations ORDER BY id"

def nameLookup : String := "SELECT migration_name FROM migrations WHERE migration_name = ?"

def clearing : String := "DELETE FROM migrations"

/-- Creates the ledger unless it is there. -/
def ensure (d : Dialect) : Session Unit := do
  let _ ← Session.query d (creation d) []
  return ()

/-- How a migration is named in the log. -/
def title (name : String) : String :=
  "Migration \"" ++ name ++ "\""

/-- Records a name; without a new key it was not recorded. -/
def record (d : Dialect) (name : String) : Session Bool := do
  let output ← Session.query d insertion [.string name]
  if output.insertId?.isNone then
    Session.note .warn (title name ++ " was not applied due to an error.")
    return false
  else
    Session.note .info (title name ++ " applied successfully.")
    return true

/-- Applies a migration unless its name is recorded, and tells whether it did. -/
def apply (d : Dialect) (sql name : String) : Session Bool := do
  let found ← Session.query d lookup [.string name]
  if !found.toRows.isEmpty then return false
  else
    let output ← Session.query d sql []
    if output.toBool then record d name
    else
      Session.note .warn (title name ++ " failed to execute.")
      return false

/-- Removes a name, then runs the statement, and tells whether the name was there. -/
def revert (d : Dialect) (sql name : String) : Session Bool := do
  let removed ← Session.query d removal [.string name]
  let _ ← Session.query d sql []
  Session.note .info (title name ++ " rolled back.")
  return removed.toBool

/-- The text of a column of each row. -/
def column (name : String) (rows : List Row) : Except Error (List String) :=
  rows.mapM fun row => row.get String name

/-- The recorded names, in the order in which they were applied. -/
def names (d : Dialect) : Session (List String) := do
  ensure d
  let output ← Session.query d listing []
  Session.ofExcept (column "migration_name" output.toRows)

/-- Whether a name is recorded. -/
def contains (d : Dialect) (name : String) : Session Bool := do
  ensure d
  let output ← Session.query d nameLookup [.string name]
  return !output.toRows.isEmpty

end FluentSql.Ledger
