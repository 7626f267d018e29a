import FluentSql.Value.Basic

/-!
# Errors

An error names its cause. `Error.message` is the text shown for it.
-/

namespace FluentSql

/-- An argument that is not acceptable. -/
inductive ArgumentFault where
  | blankTable
  | blankColumn
  | emptyInList (column : String)
  | unknownOperator (raw : String)
  | unknownDirection (raw : String)
  | missingJoinTable (target : String)
  | blankJoinColumn
  | blankJoinIndex
  | noGroupColumns
  | blankGroupColumn
  | blankOrderColumn
  | zeroLimit
  | noIndexes
  | blankIndex (name : String)
  | noRecords
  | noRows
  | rowsWithoutColumns
  | emptyUpdate
  | missingColumn (column : String)
  | columnOutOfBounds (index width : Nat)
  | blankSchemaTable
  | indexWithoutColumns (name : String)
  | other (text : String)

/-- A call that does not fit what was called before it. -/
inductive StateFault where
  | orWithoutClause (part : String)
  | orWithoutOn
  | insertWithClauses
  | joinsNotSupported (verb dialect : String)
  | tableWithoutColumns (table : String)
  | cannotModifyColumn (column : String)
  | cannotAddForeignKey (name : String)
  | other (text : String)

/-- A value that is not of the expected kind. -/
inductive ValueFault where
  | mismatch (expected : String) (found : Value)
  | tooLarge32
  | tooSmall32
  | other (text : String)

inductive Error where
  | argument (fault : ArgumentFault)
  | state (fault : StateFault)
  | guarded (column : String)
  | notFillable (column : String)
  | undefinedValue (column : String)
  | unsupportedDialect (name : String)
  | configuration (text : String)
  | driver (text : String)
  | doesNotExist (text : String)
  | value (fault : ValueFault)
  | io (text : String)

def natText (n : Nat) : String :=
  String.ofList (Nat.toDigits 10 n)

namespace ArgumentFault

def text : ArgumentFault → String
  | blankTable => "Table name must be a non-empty string"
  | blankColumn => "Column name must be a non-empty string"
  | emptyInList column => "IN list for '" ++ column ++ "' requires at least one value"
  | unknownOperator raw => "Invalid operator: " ++ raw
  | unknownDirection raw => "Invalid order direction: " ++ raw
  | missingJoinTable target => "Join table name is required, got '" ++ target ++ "'"
  | blankJoinColumn => "Join condition column must be a non-empty string"
  | blankJoinIndex => "Index name must be a non-empty string"
  | noGroupColumns => "groupBy requires at least one column"
  | blankGroupColumn => "Invalid column name in groupBy"
  | blankOrderColumn => "Invalid column name for orderBy"
  | zeroLimit => "Limit must be a positive number"
  | noIndexes => "useIndex requires at least one index"
  | blankIndex name => "Invalid index name: '" ++ name ++ "'"
  | noRecords => "Invalid data type for insert: no records given"
  | noRows => "Invalid data type for insert: no rows given"
  | rowsWithoutColumns => "Invalid data type for insert: rows have no columns"
  | emptyUpdate => "Invalid data type for update: no columns given"
  | missingColumn column => "Column '" ++ column ++ "' not found in row"
  | columnOutOfBounds index width =>
    "Column index " ++ natText index ++ " out of bounds (row has " ++ natText width ++ " columns)"
  | blankSchemaTable => "Table name is required."
  | indexWithoutColumns name => "Index '" ++ name ++ "' requires at least one column"
  | other text => text

end ArgumentFault

namespace StateFault

def text : StateFault → String
  | orWithoutClause part => "No previous " ++ part ++ " clause to apply OR condition"
  | orWithoutOn => "No previous ON clause to apply OR condition"
  | insertWithClauses => "Insert query cannot have conditions, joins, or other clauses."
  | joinsNotSupported verb dialect =>
    verb ++ " with joins is only supported on MySQL, not " ++ dialect
  | tableWithoutColumns table => "Table '" ++ table ++ "' has no columns"
  | cannotModifyColumn column => "SQLite cannot modify column '" ++ column ++ "' in place"
  | cannotAddForeignKey name =>
    "SQLite cannot add foreign key '" ++ name ++ "' to an existing table"
  | other text => text

end StateFault

namespace ValueFault

def text : ValueFault → String
  | mismatch expected found => "Expected " ++ expected ++ ", got " ++ found.inspect
  | tooLarge32 => "Int value out of i32 range: number too large to fit in target type"
  | tooSmall32 => "Int value out of i32 range: number too small to fit in target type"
  | other text => text

end ValueFault

namespace Error

/-- The text shown for an error. -/
def message : Error → String
  | argument fault => "Invalid argument: " ++ fault.text
  | state fault => "Invalid state: " ++ fault.text
  | guarded column => "Field '" ++ column ++ "' is guarded and cannot be mass-assigned"
  | notFillable column => "Field '" ++ column ++ "' is not fillable"
  | undefinedValue column => "Field '" ++ column ++ "' has an undefined value"
  | unsupportedDialect name => "Unsupported database dialect: " ++ name
  | configuration text => "Improperly configured: " ++ text
  | driver text => "Driver error: " ++ text
  | doesNotExist text => "Record does not exist: " ++ text
  | value fault => "Serialization error: " ++ fault.text
  | io text => text

/-- Whether the caller's input is at fault. -/
def isValidation : Error → Bool
  | argument _ | state _ | guarded _ | notFillable _ | undefinedValue _ => true
  | _ => false

/-- Whether a payload broke the rules of mass assignment. -/
def isMassAssignment : Error → Bool
  | guarded _ | notFillable _ | undefinedValue _ => true
  | _ => false

def isDriver : Error → Bool
  | driver _ => true
  | _ => false

end Error

end FluentSql
