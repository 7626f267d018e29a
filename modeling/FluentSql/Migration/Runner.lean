import FluentSql.Migration.Tables
import FluentSql.Schema.Plan

/-!
# Running migrations

A migration has a name and a statement for either direction, which depends on the
dialect. A set of migrations is applied in its order; one that cannot be built or fails
is skipped. It is reverted in the opposite order, up to the first failure.
-/

namespace FluentSql

structure Migration where
  name : String
  up : Dialect → Except Error String
  down : Dialect → Except Error String

namespace MigrationTarget

/-- Applies the migrations in turn and counts those that were applied. -/
def applyEach (d : Dialect) (count : Nat) : List Migration → Session Nat
  | [] => return count
  | m :: rest =>
    match m.up d with
    | .error _ => do
      Session.note .error "could not build migration"
      applyEach d count rest
    | .ok sql => (Ledger.apply d sql m.name).thenWith fun
      | .ok true => applyEach d (count + 1) rest
      | .ok false => applyEach d count rest
      | .error _ => do
        Session.note .error "migration failed"
        applyEach d count rest

def countText (count : Nat) : String :=
  if count = 0 then "Nothing to migrate."
  else "Migrated " ++ natText count ++ " files successfully."

/-- Applies all migrations that are not recorded; yields how many were applied. -/
def migrate (t : MigrationTarget) (migrations : List Migration) : Session Nat := do
  Ledger.ensure t.dialect
  let count ← applyEach t.dialect 0 migrations
  Session.note .info (countText count)
  return count

/-- Reverts the recorded ones among the migrations, in the given order. -/
def revertEach (d : Dialect) (recorded : List String) (count : Nat) :
    List Migration → Session Nat
  | [] => return count
  | m :: rest =>
    if recorded.contains m.name then do
      let sql ← Session.ofExcept (m.down d)
      let removed ← Ledger.revert d sql m.name
      revertEach d recorded (if removed then count + 1 else count) rest
    else revertEach d recorded count rest

/-- Reverts the recorded ones among the migrations, the last one first; yields how many
names were removed. -/
def rollback (t : MigrationTarget) (migrations : List Migration) : Session Nat := do
  let recorded ← Ledger.names t.dialect
  let count ← revertEach t.dialect recorded 0 migrations.reverse
  Session.note .info "Rolled back successfully."
  return count

/-- Reverts the migrations, then applies them again. -/
def refresh (t : MigrationTarget) (migrations : List Migration) : Session Nat := do
  let _ ← t.rollback migrations
  t.migrate migrations

/-- Runs a statement without parameters for its effect. -/
def runText (t : MigrationTarget) (sql : String) : Session Unit := do
  let _ ← Session.query t.dialect sql []
  return ()

/-- Drops tables one by one; PostgreSQL also drops what depends on them. -/
def dropEach (t : MigrationTarget) : List String → Session Unit
  | [] => return ()
  | table :: rest => do
    let sql ← Session.ofExcept (dropTable t.dialect table)
    t.runText (if t.dialect = .postgreSql then sql ++ " CASCADE" else sql)
    t.dropEach rest

/-- Switches the foreign keys of a SQLite database; other databases are left alone. -/
def switchForeignKeys (t : MigrationTarget) (on : Bool) : Session Unit :=
  if t.dialect = .sqlite then t.runText ("PRAGMA foreign_keys = " ++ if on then "ON" else "OFF")
  else return ()

def dropAll (t : MigrationTarget) (tables : List String) : Session Unit :=
  if tables.isEmpty then Session.note .info "No tables to drop."
  else do
    t.switchForeignKeys false
    t.dropEach tables
    t.switchForeignKeys true
    Session.note .info "All tables dropped successfully."

/-- Drops all tables, clears the ledger, then applies the migrations. -/
def fresh (t : MigrationTarget) (migrations : List Migration) : Session Nat := do
  Ledger.ensure t.dialect
  let tables ← t.userTables
  t.dropAll tables
  t.runText Ledger.clearing
  t.migrate migrations

end MigrationTarget

end FluentSql
