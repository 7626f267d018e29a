import FluentSql.Model.Basic
import FluentSql.Query.State

/-!
# Write and read guards

The mass assignment guard refuses payload columns that are guarded, not fillable or
without a value, in this order for each column. The read guard of a soft-delete model
asks for an unset marker.
-/

namespace FluentSql

namespace Model

/-- The column that marks a row as deleted. -/
def markerColumn : String := "deleted_at"

/-- Whether a payload may name the column; the marker is open on soft-delete models. -/
def isFillable (m : Model) (column : String) : Bool :=
  m.fillable.contains column || (m.softDelete && column == markerColumn)

/-- What is wrong with an entry of a payload. -/
def entryFault? (m : Model) (entry : String × Option Value) : Option Error :=
  if m.guarded.contains entry.1 then some (.guarded entry.1)
  else if !m.isFillable entry.1 then some (.notFillable entry.1)
  else if entry.2.isNone then some (.undefinedValue entry.1)
  else none

/-- Checks the entries of the records in turn, up to the first fault. -/
def validate (m : Model) (records : List Record) : Except Error Unit :=
  match (records.flatMap (·.entries)).findSome? m.entryFault? with
  | some e => .error e
  | none => .ok ()

/-- The predicate that holds of rows that are not deleted. -/
def liveRows : Predicate :=
  .isNull markerColumn false

/-- The payload that deletes rows at a time. -/
def deletion (now : DateTime) : Record :=
  Record.empty.set markerColumn (.dateTime now)

end Model

namespace QueryState

/-- Asks for rows that are not deleted, unless the query does already. -/
def guardReads (q : QueryState) : QueryState :=
  if q.conditions.contains Model.liveRows then q
  else { q with conditions := q.conditions.addAnd Model.liveRows 0 }

end QueryState

end FluentSql
