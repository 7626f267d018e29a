import FluentSql.Calendar.Basic
import FluentSql.Document.Basic
import FluentSql.Number.Integer
import FluentSql.Text.Blank

/-!
# Dates and times in TOML

A moment is a date, a time of day, or both with or without a distance from UTC. It
becomes text in its usual form. While a text is read a moment is an object with one key,
so that a table that starts with this key is a moment too; `resolve` brings the texts
in.
-/

namespace FluentSql.Toml

/-- Exactly `count` digits. -/
def fixedDigits? (count : Nat) (cs : List Char) : Option (List Char × List Char) :=
  let ds := cs.take count
  if ds.length = count ∧ ds.all Integer.isDigit then some (ds, cs.drop count) else none

/-- Exactly two digits that write a number up to `high`. -/
def twoDigits? (high : Nat) (cs : List Char) : Option (List Char × List Char) := do
  let (ds, rest) ← fixedDigits? 2 cs
  if Integer.natOfDigits 0 ds ≤ high then some (ds, rest) else none

/-- A character that has to stand at the front. -/
def expect? (c : Char) : List Char → Option (List Char)
  | d :: cs => if d = c then some cs else none
  | [] => none

def readDate (cs : List Char) : Option (List Char × List Char) := do
  let (year, rest) ← fixedDigits? 4 cs
  let rest ← expect? '-' rest
  let (month, rest) ← fixedDigits? 2 rest
  let rest ← expect? '-' rest
  let (day, rest) ← fixedDigits? 2 rest
  let number := Integer.natOfDigits 0
  if isDate (number year) (number month) (number day) then
    some (year ++ '-' :: month ++ '-' :: day, rest)
  else none

/-- A fraction of a second: nine places at most, without zeros at the end. -/
def secondFraction (places : List Char) : List Char :=
  match Text.dropTail (· == '0') (places.take 9) with
  | [] => []
  | kept => '.' :: kept

def readTime (cs : List Char) : Option (List Char × List Char) := do
  let (hour, rest) ← twoDigits? 23 cs
  let rest ← expect? ':' rest
  let (minute, rest) ← twoDigits? 59 rest
  let rest ← expect? ':' rest
  let (second, rest) ← twoDigits? 60 rest
  let clock := hour ++ ':' :: minute ++ ':' :: second
  match rest with
  | '.' :: after =>
    let places := after.takeWhile Integer.isDigit
    if places = [] then none
    else some (clock ++ secondFraction places, after.dropWhile Integer.isDigit)
  | _ => some (clock, rest)

/-- The distance from UTC, if it is given. An offset of zero is never negative. -/
def readOffset (cs : List Char) : Option (List Char × List Char) :=
  match cs with
  | [] => some ([], [])
  | c :: rest =>
    if c = 'Z' ∨ c = 'z' then some (['Z'], rest)
    else if c = '+' ∨ c = '-' then do
      let (hour, rest) ← twoDigits? 23 rest
      let rest ← expect? ':' rest
      let (minute, rest) ← twoDigits? 59 rest
      let sign := if (hour ++ minute).all (· == '0') then '+' else c
      return (sign :: hour ++ ':' :: minute, rest)
    else some ([], cs)

/-- What may follow a date: a time, behind a letter or a blank, and an offset. -/
def readClock (cs : List Char) : Option (List Char × List Char) :=
  match cs with
  | c :: rest =>
    if c = 'T' ∨ c = 't' ∨ c = ' ' then do
      let (time, rest) ← readTime rest
      let (offset, rest) ← readOffset rest
      return ('T' :: time ++ offset, rest)
    else none
  | [] => none

/-- A date, a time, or a date with a time. -/
def readMoment (cs : List Char) : Option (List Char × List Char) :=
  match readDate cs with
  | some (date, rest) =>
    let (clock, rest) := (readClock rest).getD ([], rest)
    some (date ++ clock, rest)
  | none => readTime cs

/-- The usual form of a text that is a moment from its first character to its last. -/
def moment? (text : String) : Option String :=
  match readMoment text.toList with
  | some (moment, []) => some (String.ofList moment)
  | _ => none

/-- The key that marks an object as a moment. -/
def momentKey : String := "$__toml_private_datetime"

/-- A moment among the values of a text that is being read. -/
def documentOfMoment (moment : List Char) : Document :=
  .object [(momentKey, .string (String.ofList moment))]

mutual

/-- Puts its text in the place of each object whose first key marks it as a moment;
there is no result if one of them holds no moment. What follows that key is dropped. -/
def resolve : Document → Option Document
  | .array items => (resolveItems items).map .array
  | .object fields =>
    match fields with
    | [] => some (.object [])
    | (key, content) :: rest =>
      if key = momentKey then
        match content with
        | .string text => (moment? text).map .string
        | _ => none
      else do
        let content ← resolve content
        return .object ((key, content) :: (← resolveFields rest))
  | .null => some .null
  | .bool b => some (.bool b)
  | .integer i => some (.integer i)
  | .float x => some (.float x)
  | .string s => some (.string s)

def resolveItems : List Document → Option (List Document)
  | [] => some []
  | d :: rest => do
    let d ← resolve d
    return d :: (← resolveItems rest)

def resolveFields : List (String × Document) → Option (List (String × Document))
  | [] => some []
  | (key, d) :: rest => do
    let d ← resolve d
    return (key, d) :: (← resolveFields rest)

end

end FluentSql.Toml
