import FluentSql.Toml.Scalar
import FluentSql.Toml.Table

/-!
# Reading TOML

A text is a sequence of lines: headers that open a table, and keys with values that go
into the table opened last. The result is a document whose objects are the tables, with
the moments resolved.
-/

namespace FluentSql.Toml

/-- How many parts a key may have. -/
def keyLimit : Nat := 79

/-- How deep arrays and inline tables may nest, plus one. -/
def nestingLimit : Nat := 80

/-- The last part of a key and the parts before it. -/
def splitKey (key : List String) : Option (List String × String) :=
  key.getLast?.map fun last => (key.dropLast, last)

/-- A word that stands at the front. -/
def readWord (word : String) (d : Document) (cs : List Char) : Option (Document × List Char) :=
  let n := word.length
  if cs.take n = word.toList then some (d, cs.drop n) else none

mutual

/-- Reads one value; arrays and inline tables may nest less than `depth` deep. -/
def readValue : Nat → Nat → List Char → Option (Document × List Char)
  | 0, _, _ => none
  | fuel + 1, depth, cs =>
    match cs with
    | [] => none
    | c :: rest =>
      if c = '"' ∨ c = '\'' then (readString c rest).map fun (s, rest) => (.string s, rest)
      else if c = '[' then
        if depth ≤ 1 then none
        else (readItems fuel (depth - 1) rest).map fun (items, rest) => (.array items, rest)
      else if c = '\x7b' then
        if depth ≤ 1 then none
        else match skipGap rest with
          | '\x7d' :: rest => some (.object [], rest)
          | rest => (readPairs fuel (depth - 1) [] rest).map fun (es, rest) =>
            ((Item.table .header es).toDocument, rest)
      else if c = 't' then readWord "true" (.bool true) cs
      else if c = 'f' then readWord "false" (.bool false) cs
      else readNumeric cs

/-- Reads items up to the closing bracket; a comma may follow the last one. -/
def readItems : Nat → Nat → List Char → Option (List Document × List Char)
  | 0, _, _ => none
  | fuel + 1, depth, cs =>
    match skipLines false cs with
    | ']' :: rest => some ([], rest)
    | rest =>
      match readValue fuel depth rest with
      | none => none
      | some (d, rest) =>
        match skipLines false rest with
        | ']' :: rest => some ([d], rest)
        | ',' :: rest => (readItems fuel depth rest).map fun (ds, rest) => (d :: ds, rest)
        | _ => none

/-- Reads at least one key with its value up to the closing brace. -/
def readPairs : Nat → Nat → Entries → List Char → Option (Entries × List Char)
  | 0, _, _, _ => none
  | fuel + 1, depth, es, cs =>
    match readKey keyLimit cs with
    | some (key, '=' :: rest) =>
      match splitKey key, readValue fuel depth (skipGap rest) with
      | some (path, last), some (d, rest) =>
        match es.insert path last d .header with
        | none => none
        | some es =>
          match skipGap rest with
          | '\x7d' :: rest => some (es, rest)
          | ',' :: rest => readPairs fuel depth es rest
          | _ => none
      | _, _ => none
    | _ => none

end

/-- All tables so far and the path of the one opened last. -/
structure Draft where
  root : Entries
  current : List String

namespace Draft

/-- Opens the table of a header. -/
def openWith (start : List String → String → Entries → Option Entries) (key : List String)
    (s : Draft) : Option Draft := do
  let (path, last) ← splitKey key
  let root ← start path last s.root
  return ⟨root, key⟩

/-- Adds a value to the table opened last. -/
def add (key : List String) (d : Document) (s : Draft) : Option Draft := do
  let (path, last) ← splitKey key
  let root ← s.root.within false (fun _ es => es.insert path last d .header) s.current .header
  return { s with root }

end Draft

/-- A key with its value, up to the end of the line. -/
def readPair (fuel : Nat) (s : Draft) (cs : List Char) : Option (Draft × List Char) := do
  let (key, rest) ← readKey keyLimit cs
  let rest ← expect? '=' rest
  let (d, rest) ← readValue fuel nestingLimit (skipGap rest)
  let rest ← endLine? rest
  return (← s.add key d, rest)

/-- A header behind its opening bracket, up to the end of the line. -/
def readHeader (s : Draft) (cs : List Char) : Option (Draft × List Char) := do
  match cs with
  | '[' :: cs =>
    let (key, rest) ← readKey keyLimit cs
    let rest ← expect? ']' rest
    let rest ← expect? ']' rest
    let rest ← endLine? rest
    return (← s.openWith Entries.openElement key, rest)
  | cs =>
    let (key, rest) ← readKey keyLimit cs
    let rest ← expect? ']' rest
    let rest ← endLine? rest
    return (← s.openWith Entries.openTable key, rest)

/-- Reads line after line. -/
def readLines : Nat → Draft → List Char → Option Draft
  | 0, _, _ => none
  | fuel + 1, s, cs =>
    match skipGap cs with
    | [] => some s
    | c :: rest =>
      let step := if c = '[' then readHeader s rest
        else if c = '#' ∨ c = '\n' ∨ c = '\r' then (endLine? (c :: rest)).map fun rest => (s, rest)
        else readPair (2 * rest.length + 4) s (c :: rest)
      match step with
      | some (s, rest) => readLines fuel s rest
      | none => none

/-- Reads a whole text as a document with ordered keys. A byte order mark may stand at
its front. -/
def read? (text : String) : Option OrderedDocument :=
  let cs := match text.toList with
    | '\uFEFF' :: cs => cs
    | cs => cs
  (readLines (cs.length + 1) ⟨[], []⟩ cs).bind fun s =>
    (resolve (Item.table .header s.root).toDocument).map .ofDocument

end FluentSql.Toml
