import FluentSql.Document.Printer
import FluentSql.Settings.Basic

/-!
# Settings from documents

A document is read field by field, in the order of its keys, over a base that keeps
its value where a field is missing. Unknown fields are passed over. An array stands
for the fields in their declared order.
-/

namespace FluentSql

/-- Why a document does not fit the settings. -/
inductive DecodeFault where
  | wrongType (found : Document) (expected : String)
  | outOfRange (found : Int) (expected : String)
  | tooManyItems (count : Nat)

namespace DecodeFault

/-- How a document is named in a diagnostic. -/
def describe : Document → String
  | .null => "null"
  | .bool b => if b then "boolean \x60true\x60" else "boolean \x60false\x60"
  | .integer i => "integer \x60" ++ String.ofList (Document.intChars i.val) ++ "\x60"
  | .float x => "floating point \x60" ++ NumberLayout.document.write x ++ "\x60"
  | .string s => "string " ++ Text.quoted s
  | .array _ => "sequence"
  | .object _ => "map"

def text : DecodeFault → String
  | wrongType found expected => "invalid type: " ++ describe found ++ ", expected " ++ expected
  | outOfRange found expected =>
    "invalid value: " ++ "integer \x60" ++ String.ofList (Document.intChars found) ++
      "\x60, expected " ++ expected
  | tooManyItems count =>
    "invalid length " ++ natText count ++ ", expected fewer elements in array"

end DecodeFault

abbrev Decoded (α : Type) := Except DecodeFault α

namespace Document

def decodeBool : Document → Decoded Bool
  | .bool b => .ok b
  | d => .error (.wrongType d "a boolean")

def decodeString : Document → Decoded String
  | .string s => .ok s
  | d => .error (.wrongType d "a string")

def decodePath : Document → Decoded FilePath
  | .string s => .ok ⟨s⟩
  | d => .error (.wrongType d "path string")

def decodePort : Document → Decoded UInt16
  | .integer i =>
    if 0 ≤ i.val ∧ i.val < 0x10000 then .ok (UInt16.ofNat i.val.toNat)
    else .error (.outOfRange i.val "u16")
  | d => .error (.wrongType d "u16")

def decodeSize : Document → Decoded UInt64
  | .integer i =>
    if 0 ≤ i.val then .ok (UInt64.ofNat i.val.toNat) else .error (.outOfRange i.val "usize")
  | d => .error (.wrongType d "usize")

/-- Null is no value. -/
def decodeOption {α : Type} (decode : Document → Decoded α) : Document → Decoded (Option α)
  | .null => .ok none
  | d => (decode d).map some

/-- Fields laid one after the other over a base. -/
def decodeFields {α : Type} (set : String → Document → α → Decoded α) (base : α)
    (fields : List (String × Document)) : Decoded α :=
  fields.foldlM (fun a field => set field.1 field.2 a) base

/-- A record from an object, or from an array in the given order of its fields. -/
def decodeRecord {α : Type} (name : String) (order : List String)
    (set : String → Document → α → Decoded α) (base : α) : Document → Decoded α
  | .object fields => decodeFields set base fields
  | .array items => do
    let a ← decodeFields set base (order.zip items)
    if order.length < items.length then .error (.tooManyItems items.length) else .ok a
  | d => .error (.wrongType d ("struct " ++ name))

end Document

namespace ServerSettings

def setField (key : String) (d : Document) (s : ServerSettings) : Decoded ServerSettings :=
  match key with
  | "host" => d.decodeString.map fun host => { s with host }
  | "port" => d.decodePort.map fun port => { s with port }
  | "user" => d.decodeString.map fun user => { s with user }
  | "password" => d.decodeString.map fun password => { s with password }
  | "database" => d.decodeString.map fun database => { s with database }
  | "charset" => (d.decodeOption Document.decodeString).map fun charset => { s with charset }
  | "connection_limit" =>
    (d.decodeOption Document.decodeSize).map fun connectionLimit => { s with connectionLimit }
  | _ => .ok s

def fieldOrder : List String :=
  ["host", "port", "user", "password", "database", "charset", "connection_limit"]

/-- Missing fields have the defaults of a MySQL server. -/
def ofDocument (d : Document) : Decoded ServerSettings :=
  d.decodeRecord "ServerSettings" fieldOrder setField .mySql

end ServerSettings

namespace SqliteSettings

def setField (key : String) (d : Document) (s : SqliteSettings) : Decoded SqliteSettings :=
  match key with
  | "path" => d.decodePath.map fun path => { s with path }
  | _ => .ok s

def ofDocument (d : Document) : Decoded SqliteSettings :=
  d.decodeRecord "SqliteSettings" ["path"] setField .usual

end SqliteSettings

namespace DatabaseSettings

def setField (key : String) (d : Document) (s : DatabaseSettings) : Decoded DatabaseSettings :=
  match key with
  | "dialect" => d.decodeString.map fun dialect => { s with dialect }
  | "query_trace" => d.decodeBool.map fun queryTrace => { s with queryTrace }
  | "mysql" => (ServerSettings.ofDocument d).map fun mySql => { s with mySql }
  | "postgresql" => (ServerSettings.ofDocument d).map fun postgreSql => { s with postgreSql }
  | "sqlite" => (SqliteSettings.ofDocument d).map fun sqlite => { s with sqlite }
  | _ => .ok s

def ofDocument (d : Document) : Decoded DatabaseSettings :=
  d.decodeRecord "DatabaseSettings" ["dialect", "query_trace", "mysql", "postgresql", "sqlite"]
    setField .usual

end DatabaseSettings

namespace Settings

def setField (key : String) (d : Document) (s : Settings) : Decoded Settings :=
  match key with
  | "debug" => d.decodeBool.map fun debug => { s with debug }
  | "log_level" => d.decodeString.map fun logLevel => { s with logLevel }
  | "database" => (DatabaseSettings.ofDocument d).map fun database => { s with database }
  | _ => .ok s

def ofDocument (d : Document) : Decoded Settings :=
  d.decodeRecord "Settings" ["debug", "log_level", "database"] setField .usual

end Settings

end FluentSql
