import FluentSql.Document.Basic

/-!
# Tables in TOML

A table is opened by a header, or comes about on the way to another one, or is
reached through a dotted key. A header may open a table only once, dotted keys extend
only tables that dotted keys made, and nothing extends a finished value.
-/

namespace FluentSql.Toml

/-- How a table came about. -/
inductive Origin where
  /-- Opened by a header of its own. -/
  | header
  /-- On the way to a table with a header. -/
  | implied
  /-- On the way of a dotted key. -/
  | dotted
  deriving DecidableEq

inductive Item where
  | value (d : Document)
  | table (origin : Origin) (entries : List (String × Item))
  /-- The tables of one repeated header. -/
  | tables (elements : List (List (String × Item)))

abbrev Entries := List (String × Item)

namespace Entries

def find? (key : String) : Entries → Option Item
  | [] => none
  | (k, x) :: rest => if k = key then some x else find? key rest

/-- Puts an item in place of the one with the same key, or at the end. -/
def put (key : String) (x : Item) : Entries → Entries
  | [] => [(key, x)]
  | (k, y) :: rest => if k = key then (k, x) :: rest else (k, y) :: put key x rest

/-- Changes the table at the end of a path, from a table of the given origin on. -/
def within (dotted : Bool) (change : Origin → Entries → Option Entries) :
    List String → Origin → Entries → Option Entries
  | [], origin, es => change origin es
  | key :: path, _, es =>
    match find? key es with
    | none =>
      let origin : Origin := if dotted then .dotted else .implied
      (within dotted change path origin []).map fun sub => put key (.table origin sub) es
    | some (.value _) => none
    | some (.table origin sub) =>
      if dotted ∧ origin = .header then none
      else (within dotted change path origin sub).map fun sub => put key (.table origin sub) es
    | some (.tables elements) =>
      match elements.getLast? with
      | none => none
      | some last => (within dotted change path .header last).map fun last =>
        put key (.tables (elements.dropLast ++ [last])) es

/-- Adds a value under a dotted key. -/
def insert (path : List String) (key : String) (d : Document) (origin : Origin)
    (es : Entries) : Option Entries :=
  within true (fun origin es =>
    if (origin = .dotted) = (path = []) then none
    else if (find? key es).isSome then none
    else some (put key (.value d) es)) path origin es

/-- Opens the table of a header; one that was implied so far comes to stand last. -/
def openTable (path : List String) (key : String) (es : Entries) : Option Entries :=
  within false (fun _ es =>
    match find? key es with
    | none => some (put key (.table .header []) es)
    | some (.table .implied sub) => some (es.filter (·.1 != key) ++ [(key, .table .header sub)])
    | some _ => none) path .header es

/-- Opens one more table of a repeated header. -/
def openElement (path : List String) (key : String) (es : Entries) : Option Entries :=
  within false (fun _ es =>
    match find? key es with
    | none => some (put key (.tables [[]]) es)
    | some (.tables elements) => some (put key (.tables (elements ++ [[]])) es)
    | some _ => none) path .header es

end Entries

mutual

def Item.toDocument : Item → Document
  | .value d => d
  | .table _ es => .object (entryFields es)
  | .tables elements => .array (elementObjects elements)

def entryFields : List (String × Item) → List (String × Document)
  | [] => []
  | (k, x) :: rest => (k, x.toDocument) :: entryFields rest

def elementObjects : List (List (String × Item)) → List Document
  | [] => []
  | es :: rest => .object (entryFields es) :: elementObjects rest

end

end FluentSql.Toml
