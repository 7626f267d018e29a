import FluentSql.Document.Source
import FluentSql.Number.Fixed
import FluentSql.PostgreSql.Slot
import FluentSql.Value.Basic

/-!
# Data on the wire

A datum is what a slot or a column carries when it is not NULL. A server keeps time in
whole microseconds and zero without sign or places; a document travels as text and is
read again, which may move the last digit of a number. `Datum.settle` is what it holds
after a datum arrived.
-/

namespace FluentSql

namespace DateTime

/-- The first moment of the year 2000, from which servers count. -/
def epoch : DateTime :=
  ⟨.millennium, .midnight⟩

/-- The date and time cut to whole microseconds towards the epoch. -/
def toMicroseconds (t : DateTime) : DateTime :=
  let micros := Int.tdiv (t.nanoCount - epoch.nanoCount) 1000
  (ofNanoCount? (epoch.nanoCount + micros * 1000)).getD t

end DateTime

/-- The time of day cut to whole microseconds; a leap second is the start of the day. -/
def Time.toMicroseconds (t : Time) : Time :=
  (Time.ofNanoOfDay? (t.nanoOfDay / 1000 * 1000)).getD t

namespace PostgreSql

inductive Datum where
  | bool (b : Bool)
  | int16 (i : Int16)
  | int32 (i : Int32)
  | int64 (i : Int64)
  /-- A single precision number, held in double precision. -/
  | single (x : Binary64)
  | double (x : Binary64)
  | decimal (d : FixedDecimal)
  | bytes (b : List UInt8)
  | date (d : Date)
  | timestamp (t : DateTime)
  | instant (t : Instant)
  | time (t : Time)
  | uuid (u : Uuid)
  | json (d : OrderedDocument)
  | text (s : String)

namespace Datum

def carrier : Datum → Carrier
  | bool _ => .bool
  | int16 _ => .int16
  | int32 _ => .int32
  | int64 _ => .int64
  | single _ => .single
  | double _ => .double
  | decimal _ => .decimal
  | bytes _ => .bytes
  | date _ => .date
  | timestamp _ => .timestamp
  | instant _ => .instant
  | time _ => .time
  | uuid _ => .uuid
  | json _ => .json
  | text _ => .text

/-- The datum as the server holds it. -/
def settle : Datum → Datum
  | decimal d => .decimal d.stored
  | timestamp t => .timestamp t.toMicroseconds
  | instant t => .instant ⟨t.utc.toMicroseconds⟩
  | time t => .time t.toMicroseconds
  | json d => .json ((OrderedDocument.read? d.tree.write).getD d)
  | x => x

/-- The value of a column; a decimal keeps its digits as text. -/
def toValue : Datum → Value
  | bool b => .bool b
  | int16 i => .int i.toInt64
  | int32 i => .int i.toInt64
  | int64 i => .int i
  | single x => .float x
  | double x => .float x
  | decimal d => .string d.toText
  | bytes b => .bytes b
  | date d => .date d
  | timestamp t => .dateTime t
  | instant t => .instant t
  | time t => .time t
  | uuid u => .uuid u
  | json d => .json d
  | text s => .string s

end Datum

end PostgreSql

end FluentSql
