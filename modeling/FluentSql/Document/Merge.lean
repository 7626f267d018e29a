import FluentSql.Document.Basic

/-!
# Merging documents

An overlay is laid over a base: where both hold an object their fields are merged key
by key, and anywhere else the overlay wins.
-/

namespace FluentSql.Document

mutual

def merge (base : Document) : Document → Document
  | .object overlay => match base with
    | .object fields => .object (mergeFields fields overlay)
    | _ => .object overlay
  | .null => .null
  | .bool b => .bool b
  | .integer i => .integer i
  | .float x => .float x
  | .string s => .string s
  | .array items => .array items

/-- The fields of an overlay over the fields of a base with ascending keys. -/
def mergeFields (base : List (String × Document)) :
    List (String × Document) → List (String × Document)
  | [] => base
  | (key, value) :: rest =>
    let merged := match field? key base with
      | some old => merge old value
      | none => value
    mergeFields (putField key merged base) rest

end

end FluentSql.Document
