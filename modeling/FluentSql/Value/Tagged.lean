import FluentSql.Value.Basic

/-!
# Tagged values

The JSON form of a value that keeps its kind: an object with a `type` and a `value`.
Reading takes the two fields in either order, or an array of the two, and ignores
other fields.
-/

namespace FluentSql.Value

inductive Kind where
  | null | bool | int | float | string | bytes | date | dateTime | instant | time | uuid | json
  deriving DecidableEq

namespace Kind

def name : Kind → String
  | .null => "Null"
  | .bool => "Bool"
  | .int => "Int"
  | .float => "Float"
  | .string => "String"
  | .bytes => "Bytes"
  | .date => "Date"
  | .dateTime => "DateTime"
  | .instant => "DateTimeTz"
  | .time => "Time"
  | .uuid => "Uuid"
  | .json => "Json"

def all : List Kind :=
  [.null, .bool, .int, .float, .string, .bytes, .date, .dateTime, .instant, .time, .uuid, .json]

def ofName? (name : String) : Option Kind :=
  all.find? fun k => k.name == name

end Kind

def kind : Value → Kind
  | .null => .null
  | .bool _ => .bool
  | .int _ => .int
  | .float _ => .float
  | .string _ => .string
  | .bytes _ => .bytes
  | .date _ => .date
  | .dateTime _ => .dateTime
  | .instant _ => .instant
  | .time _ => .time
  | .uuid _ => .uuid
  | .json _ => .json

/-- What stands in the `value` field. -/
def content : Value → Option Document
  | .null => none
  | .bool b => some (.bool b)
  | .int i => some (Document.ofInt64 i)
  | .float x => some (Document.ofFloat x)
  | .string s => some (.string s)
  | .bytes b => some (bytesDocument b)
  | .date d => some (.string d.toText)
  | .dateTime t => some (.string t.toStamp)
  | .instant t => some (.string t.toStamp)
  | .time t => some (.string t.toText)
  | .uuid u => some (.string u.toText)
  | .json d => some d.tree

/-- The tagged form. -/
def tagged (v : Value) : Document :=
  let tag := ("type", Document.string v.kind.name)
  match v.content with
  | none => .object [tag]
  | some d => .object [tag, ("value", d)]

def byte? : Source → Option UInt8
  | .number n => n.integer?.bind fun i =>
    if 0 ≤ i ∧ i < 256 then some (UInt8.ofNat i.toNat) else none
  | _ => none

def float? : Source → Option Binary64
  | .number n =>
    match n.integer? with
    | some i => some (Binary64.ofInt i)
    | none => n.float?
  | _ => none

def int? : Source → Option Int64
  | .number n => n.integer?.bind fun i =>
    if -0x8000000000000000 ≤ i ∧ i < 0x8000000000000000 then some (Int64.ofInt i) else none
  | _ => none

def text? : Source → Option String
  | .string s => s
  | _ => none

/-- Reads the content of a value of the kind. Nesting counts from inside the tagged
object. -/
def ofContent? (kind : Kind) (source : Source) : Option Value :=
  match kind with
  | .null => match source with
    | .null => some .null
    | _ => none
  | .bool => match source with
    | .bool b => some (.bool b)
    | _ => none
  | .int => (int? source).map .int
  | .float => (float? source).map .float
  | .string => (text? source).map .string
  | .bytes => match source with
    | .array items => (items.mapM byte?).map .bytes
    | _ => none
  | .date => ((text? source).bind Date.read?).map .date
  | .dateTime => ((text? source).bind DateTime.readStamp?).map .dateTime
  | .instant => ((text? source).bind Instant.read?).map .instant
  | .time => ((text? source).bind Time.read?).map .time
  | .uuid => ((text? source).bind Uuid.read?).map .uuid
  | .json => (source.document? (Source.nestingLimit - 1)).map fun d =>
    .json (OrderedDocument.ofDocument d)

/-- A tag is the name of a kind, or an object whose only field has that name and is
null. -/
def tag? : Source → Option Kind
  | .string (some s) => Kind.ofName? s
  | .object [(some s, .null)] => Kind.ofName? s
  | _ => none

/-- The fields that matter, each `true` for the tag; `none` when a key is no text. -/
def tagFields? : List (Option String × Source) → Option (List (Bool × Source))
  | [] => some []
  | (none, _) :: _ => none
  | (some key, x) :: rest =>
    if key = "type" then (tagFields? rest).map ((true, x) :: ·)
    else if key = "value" then (tagFields? rest).map ((false, x) :: ·)
    else tagFields? rest

/-- Reads the tagged form. Content that stands before its tag has to make up a
document of its own. -/
def ofSource? : Source → Option Value
  | .array [tag, x] => (tag? tag).bind fun k => ofContent? k x
  | .object fields =>
    match tagFields? fields with
    | some [(true, tag)] => if tag? tag = some .null then some .null else none
    | some [(true, tag), (false, x)] => (tag? tag).bind fun k => ofContent? k x
    | some [(false, x), (true, tag)] =>
      match x.document? (Source.nestingLimit - 1) with
      | some _ => (tag? tag).bind fun k => ofContent? k x
      | none => none
    | _ => none
  | _ => none

/-- Reads the text of a tagged value. -/
def readTagged? (text : String) : Option Value :=
  (Source.read? text).bind ofSource?

end FluentSql.Value
