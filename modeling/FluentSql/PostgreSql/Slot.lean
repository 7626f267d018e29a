/-!
# Types of slots and columns

Every parameter slot and every result column of a PostgreSQL statement has a type. A
carrier is a shape in which data travel; a slot accepts exactly one carrier, text if its
type is one of an extension that travels so, and the foreign types accept none.
-/

namespace FluentSql.PostgreSql

inductive SlotType where
  | bool
  | int2 | int4 | int8
  | float4 | float8
  | numeric
  | bytea
  | date | timestamp | timestamptz | time
  | uuid
  | json | jsonb
  | text | varchar | bpchar
  /-- An identifier of the server; it travels as text. -/
  | identifier
  /-- A text whose type the server has not settled. -/
  | unknown
  /-- A type that the server does not always have, or one without a carrier of its own. -/
  | other (name : String)
  deriving DecidableEq

/-- A shape in which data travel. -/
inductive Carrier where
  | bool
  | int16 | int32 | int64
  | single | double
  | decimal
  | bytes
  | date | timestamp | instant | time
  | uuid
  | json
  | text
  deriving DecidableEq

namespace SlotType

def name : SlotType → String
  | bool => "bool"
  | int2 => "int2"
  | int4 => "int4"
  | int8 => "int8"
  | float4 => "float4"
  | float8 => "float8"
  | numeric => "numeric"
  | bytea => "bytea"
  | date => "date"
  | timestamp => "timestamp"
  | timestamptz => "timestamptz"
  | time => "time"
  | uuid => "uuid"
  | json => "json"
  | jsonb => "jsonb"
  | text => "text"
  | varchar => "varchar"
  | bpchar => "bpchar"
  | identifier => "name"
  | unknown => "unknown"
  | other name => name

/-- The types that have a carrier. -/
def native : List SlotType :=
  [bool, int2, int4, int8, float4, float8, numeric, bytea, date, timestamp, timestamptz, time,
    uuid, json, jsonb, text, varchar, bpchar, identifier, unknown]

/-- The type of that name. -/
def ofName (s : String) : SlotType :=
  (native.find? fun t => t.name == s).getD (other s)

/-- The carrier tried for a type; a type without one of its own is tried as text. -/
def carrier : SlotType → Carrier
  | bool => .bool
  | int2 => .int16
  | int4 => .int32
  | int8 => .int64
  | float4 => .single
  | float8 => .double
  | numeric => .decimal
  | bytea => .bytes
  | date => .date
  | timestamp => .timestamp
  | timestamptz => .instant
  | time => .time
  | uuid => .uuid
  | json | jsonb => .json
  | text | varchar | bpchar | identifier | unknown | other _ => .text

/-- The types of extensions that travel as text. -/
def textual : List String :=
  ["citext", "ltree", "lquery", "ltxtquery"]

/-- Whether data of the type do not travel in any carrier. -/
def isForeign : SlotType → Bool
  | other name => !textual.contains name
  | _ => false

/-- Whether data in a carrier fit a slot or a column of the type. -/
def accepts (t : SlotType) (c : Carrier) : Bool :=
  !t.isForeign && t.carrier == c

/-- Whether a slot is one of the integer types. -/
def isInteger : SlotType → Bool
  | int2 | int4 | int8 => true
  | _ => false

end SlotType

end FluentSql.PostgreSql
