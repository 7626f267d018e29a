import FluentSql.Document.Source
import FluentSql.Number.Integer
import FluentSql.PostgreSql.Datum

/-!
# Parameters

A value becomes a parameter in view of the slot it is meant for: numbers are converted
to the type of the slot where they fit it, and what does not fit is left as it is, so
that the slot refuses it.
-/

namespace FluentSql.PostgreSql

inductive Parameter where
  | null (carrier : Carrier)
  | datum (x : Datum)

namespace Parameter

def carrier : Parameter → Carrier
  | null c => c
  | datum x => x.carrier

/-- Whether the slot takes the parameter. -/
def fits (p : Parameter) (t : SlotType) : Bool :=
  t.accepts p.carrier

/-- What a slot holds after the parameter arrived. -/
def arrival : Parameter → Option Datum
  | null _ => none
  | datum x => some x.settle

/-- An integer; one out of range of its slot stays wide. -/
def ofInt (t : SlotType) (i : Int64) : Datum :=
  match t with
  | .int2 => if -0x8000 ≤ i.toInt ∧ i.toInt < 0x8000 then .int16 i.toInt16 else .int64 i
  | .int4 => if -0x80000000 ≤ i.toInt ∧ i.toInt < 0x80000000 then .int32 i.toInt32 else .int64 i
  | .float4 => .single (Binary64.ofIntSingle i.toInt)
  | .float8 => .double (Binary64.ofInt i.toInt)
  | .numeric => .decimal (FixedDecimal.ofInt i.toInt)
  | .bool => .bool (i != 0)
  | .text | .varchar | .bpchar => .text (Value.intText i)
  | _ => .int64 i

/-- A truth value; integer slots take it as one or zero. -/
def ofBool (t : SlotType) (b : Bool) : Datum :=
  if t.isInteger then ofInt t (if b then 1 else 0) else .bool b

/-- A floating point number; one without a decimal stays binary. -/
def ofFloat (t : SlotType) (x : Binary64) : Datum :=
  match t with
  | .float4 => .single x.toSingle
  | .numeric =>
    match FixedDecimal.ofBinary? x with
    | some d => .decimal d
    | none => .double x
  | .text | .varchar | .bpchar => .text (NumberLayout.plain.write x)
  | _ => .double x

/-- A text that an integer slot takes as a number, if it is one. -/
def ofDigits (t : SlotType) (s : String) : Datum :=
  match Integer.read64? (Text.trim s) with
  | some i => ofInt t i
  | none => .text s

/-- A text, read as what the slot takes where that can be read. -/
def ofText (t : SlotType) (s : String) : Datum :=
  match t with
  | .int2 | .int4 | .int8 => ofDigits t s
  | .numeric =>
    match FixedDecimal.read? (Text.trim s) with
    | some d => .decimal d
    | none => .text s
  | .json | .jsonb => .json ((OrderedDocument.read? s).getD (.ofDocument (.string s)))
  | _ => .text s

def ofDate (t : SlotType) (d : Date) : Datum :=
  match t with
  | .text | .varchar => .text d.toText
  | _ => .date d

def ofDateTime (t : SlotType) (x : DateTime) : Datum :=
  match t with
  | .timestamptz => .instant ⟨x⟩
  | .text | .varchar => .text x.toText
  | _ => .timestamp x

def ofInstant (t : SlotType) (x : Instant) : Datum :=
  match t with
  | .timestamp => .timestamp x.utc
  | .text | .varchar => .text x.toText
  | _ => .instant x

def ofUuid (t : SlotType) (u : Uuid) : Datum :=
  match t with
  | .text | .varchar | .bpchar => .text u.toText
  | _ => .uuid u

def ofJson (t : SlotType) (d : OrderedDocument) : Datum :=
  match t with
  | .text | .varchar => .text d.tree.write
  | _ => .json d

/-- The parameter of a value for a slot. -/
def ofValue (t : SlotType) : Value → Parameter
  | .null => .null t.carrier
  | .bool b => .datum (ofBool t b)
  | .int i => .datum (ofInt t i)
  | .float x => .datum (ofFloat t x)
  | .string s => .datum (ofText t s)
  | .bytes b => .datum (.bytes b)
  | .date d => .datum (ofDate t d)
  | .dateTime x => .datum (ofDateTime t x)
  | .instant x => .datum (ofInstant t x)
  | .time x => .datum (.time x)
  | .uuid u => .datum (ofUuid t u)
  | .json d => .datum (ofJson t d)

end Parameter

end FluentSql.PostgreSql
