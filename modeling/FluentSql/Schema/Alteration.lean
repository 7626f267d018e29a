import FluentSql.Schema.Table

/-!
# Changes to tables

A change to a table is a list of statements, most of them ALTER TABLE. SQLite can
neither modify a column in place nor add a foreign key to a table that exists.
-/

namespace FluentSql

/-- A call inside the description of a change. -/
inductive AlterationCall where
  | addColumn (name type : String) (options : ColumnOptions)
  | modifyColumn (name type : String) (options : ColumnOptions)
  | dropColumn (name : String)
  | addIndex (name : String) (columns : List String)
  | dropIndex (name : String)
  | addForeignKey (name column : String) (target : ForeignKey)
  /-- The description gives up with an error of its own. -/
  | raise (error : Error)

structure Alteration where
  table : String
  statements : List (List SchemaPiece)

namespace Alteration

def start (table : String) : Except Error Alteration := do
  return ⟨← schemaTable table, []⟩

/-- An ALTER TABLE statement. -/
def alter (table : String) (action : List SchemaPiece) : List SchemaPiece :=
  .verbatim "ALTER TABLE " :: .identifier table :: .verbatim " " :: action

/-- An action on a column: the words before it and behind it. -/
def onColumn (lead name rest : String) : List SchemaPiece :=
  [.verbatim lead, .identifier name, .verbatim rest]

def uniqueName (table column : String) : String :=
  table ++ "_" ++ column ++ "_unique"

/-- On PostgreSQL each property of a column changes in a statement of its own. A
default that was given is set, whatever it holds. -/
def propertyChanges (table name type : String) (o : ColumnOptions) : List (List SchemaPiece) :=
  [alter table (onColumn "ALTER COLUMN " name (" TYPE " ++ type)),
    alter table (onColumn "ALTER COLUMN " name
      (if o.nullable then " DROP NOT NULL" else " SET NOT NULL"))] ++
  (match o.initial with
    | some expression =>
      [alter table (onColumn "ALTER COLUMN " name (" SET DEFAULT " ++ expression))]
    | none => []) ++
  (if o.unique then
    [alter table [.verbatim "ADD CONSTRAINT ", .identifier (uniqueName table name),
      .verbatim " UNIQUE (", .identifier name, .verbatim ")"]]
  else [])

def modification (d : Dialect) (table name type : String) (o : ColumnOptions) :
    Except Error (List (List SchemaPiece)) :=
  match d with
  | .mySql => .ok [alter table (onColumn "MODIFY COLUMN " name (" " ++ type ++ o.sql))]
  | .postgreSql => .ok (propertyChanges table name type o)
  | .sqlite => .error (.state (.cannotModifyColumn name))

def indexDrop (d : Dialect) (table name : String) : List SchemaPiece :=
  match d with
  | .mySql => [.verbatim "DROP INDEX ", .identifier name, .verbatim " ON ", .identifier table]
  | _ => [.verbatim "DROP INDEX ", .identifier name]

/-- The statements of a call. -/
def statementsOf (d : Dialect) (table : String) :
    AlterationCall → Except Error (List (List SchemaPiece))
  | .addColumn name type o =>
    .ok [alter table (onColumn "ADD COLUMN " name (" " ++ type ++ o.sql))]
  | .modifyColumn name type o => modification d table name type o
  | .dropColumn name => .ok [alter table [.verbatim "DROP COLUMN ", .identifier name]]
  | .addIndex name columns =>
    if columns.isEmpty then .error (.argument (.indexWithoutColumns name))
    else .ok [[.verbatim "CREATE INDEX ", .identifier name, .verbatim " ON ", .identifier table,
      .verbatim " ("] ++ SchemaPiece.nameList columns ++ [.verbatim ")"]]
  | .dropIndex name => .ok [indexDrop d table name]
  | .addForeignKey name column target =>
    if d = .sqlite then .error (.state (.cannotAddForeignKey name))
    else .ok [alter table (.verbatim "ADD CONSTRAINT " :: .identifier name ::
      .verbatim " FOREIGN KEY (" :: .identifier column :: .verbatim ") " :: target.pieces)]
  | .raise error => .error error

def apply (d : Dialect) (a : Alteration) (call : AlterationCall) : Except Error Alteration := do
  let added ← statementsOf d a.table call
  return { a with statements := a.statements ++ added }

/-- The calls in turn; the first error ends the description. -/
def applyAll (d : Dialect) (a : Alteration) (calls : List AlterationCall) :
    Except Error Alteration :=
  Calls.applyAll (apply d) a calls

/-- Each statement by itself. -/
def queries (d : Dialect) (a : Alteration) : List String :=
  a.statements.map (SchemaPiece.renderAll d)

/-- The statements as one text. -/
def sql (d : Dialect) (a : Alteration) : String :=
  Text.joinWith "; " (a.queries d)

end Alteration

end FluentSql
