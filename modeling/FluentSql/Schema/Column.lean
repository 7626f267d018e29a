import FluentSql.Schema.Piece

/-!
# Columns and foreign keys

What a column may be asked to be, and how each dialect spells it. A default is an
expression that is copied; a blank one is as good as none.
-/

namespace FluentSql

structure ColumnOptions where
  nullable : Bool
  /-- The expression of the default, if one was given. -/
  initial : Option String
  unique : Bool
  deriving DecidableEq

namespace ColumnOptions

/-- The default, unless it is blank. -/
def initial? (o : ColumnOptions) : Option String :=
  o.initial.filter fun expression => !Text.isBlankText expression

/-- The text behind the type. -/
def sql (o : ColumnOptions) : String :=
  (if o.nullable then " NULL" else " NOT NULL") ++
    (match o.initial? with
      | some expression => " DEFAULT " ++ expression
      | none => "") ++
    (if o.unique then " UNIQUE" else "")

end ColumnOptions

inductive ColumnType where
  | string | text | integer | float | double | boolean | date | dateTime
  deriving DecidableEq

namespace ColumnType

def sql : Dialect → ColumnType → String
  | .sqlite, string => "TEXT"
  | _, string => "VARCHAR(255)"
  | _, text => "TEXT"
  | _, integer => "INTEGER"
  | .sqlite, float => "REAL"
  | _, float => "FLOAT"
  | .sqlite, double => "REAL"
  | .mySql, double => "DOUBLE"
  | .postgreSql, double => "DOUBLE PRECISION"
  | .sqlite, boolean => "INTEGER"
  | _, boolean => "BOOLEAN"
  | _, date => "DATE"
  | .postgreSql, dateTime => "TIMESTAMP"
  | _, dateTime => "DATETIME"

end ColumnType

inductive ColumnDefinition where
  /-- A key that the database counts up. -/
  | key
  | typed (type : ColumnType) (options : ColumnOptions)
  /-- A time that is set when a row is written. -/
  | creationTime
  /-- A time that is set when a row is written, and on MySQL also when it changes. -/
  | updateTime
  /-- A time that stays NULL until a row is marked as deleted. -/
  | deletionTime
  deriving DecidableEq

namespace ColumnDefinition

def sql (d : Dialect) : ColumnDefinition → String
  | .key => match d with
    | .mySql => "INT AUTO_INCREMENT PRIMARY KEY"
    | .postgreSql => "SERIAL PRIMARY KEY"
    | .sqlite => "INTEGER PRIMARY KEY"
  | .typed type options => type.sql d ++ options.sql
  | .creationTime => "TIMESTAMP DEFAULT CURRENT_TIMESTAMP"
  | .updateTime => match d with
    | .mySql => "TIMESTAMP DEFAULT CURRENT_TIMESTAMP ON UPDATE CURRENT_TIMESTAMP"
    | _ => "TIMESTAMP DEFAULT CURRENT_TIMESTAMP"
  | .deletionTime => "TIMESTAMP NULL"

end ColumnDefinition

/-- What happens to rows that refer to a row that changes. -/
inductive ReferentialAction where
  | cascade | restrict | setNull | setDefault | noAction
  deriving DecidableEq

namespace ReferentialAction

def sql : ReferentialAction → String
  | cascade => "CASCADE"
  | restrict => "RESTRICT"
  | setNull => "SET NULL"
  | setDefault => "SET DEFAULT"
  | noAction => "NO ACTION"

end ReferentialAction

structure ForeignKey where
  table : String
  column : String
  onDelete : Option ReferentialAction
  onUpdate : Option ReferentialAction
  deriving DecidableEq

namespace ForeignKey

def actionText (lead : String) : Option ReferentialAction → String
  | some action => lead ++ action.sql
  | none => ""

def pieces (k : ForeignKey) : List SchemaPiece :=
  [.verbatim "REFERENCES ", .identifier k.table, .verbatim " (", .identifier k.column,
    .verbatim (")" ++ actionText " ON DELETE " k.onDelete ++ actionText " ON UPDATE " k.onUpdate)]

end ForeignKey

end FluentSql
