import FluentSql.Number.Power
import FluentSql.Calendar.Basic
import FluentSql.Number.Integer
import FluentSql.Text.Blank

/-!
# Dates and times as text

Writing: dates as `2024-01-15`, years outside 0 to 9999 with a sign and at least four
digits; times with a fraction of no, three, six or nine digits, the shortest exact
one; a leap second as second 60. Reading allows blanks before numbers and any number
of fraction digits, of which nine count.
-/

namespace FluentSql

namespace Calendar

/-- Decimal digits, padded with zeros to `width`. -/
def padded (width n : Nat) : List Char :=
  let digits := Nat.toDigits 10 n
  List.replicate (width - digits.length) '0' ++ digits

def yearChars (year : Int) : List Char :=
  if 0 ≤ year ∧ year ≤ 9999 then padded 4 year.toNat
  else (if year < 0 then '-' else '+') :: padded 4 year.natAbs

def dateChars (d : Date) : List Char :=
  yearChars d.year ++ '-' :: padded 2 d.month ++ '-' :: padded 2 d.day

/-- The shortest exact fraction of three, six or nine digits. -/
def fractionChars (nano : Nat) : List Char :=
  if nano = 0 then []
  else if nano % 1000000 = 0 then '.' :: padded 3 (nano / 1000000)
  else if nano % 1000 = 0 then '.' :: padded 6 (nano / 1000)
  else '.' :: padded 9 nano

def timeChars (t : Time) : List Char :=
  padded 2 t.hour ++ ':' :: padded 2 t.minute ++
    ':' :: padded 2 (t.second + t.nano / 1000000000) ++ fractionChars (t.nano % 1000000000)

def dateTimeChars (separator : Char) (t : DateTime) : List Char :=
  dateChars t.date ++ separator :: timeChars t.time

/-- A number of one digit or more, of `limit` digits at most. -/
def readNumber (limit : Option Nat) (cs : List Char) : Option (Nat × List Char) :=
  let run := match limit with
    | some n => (cs.take n).takeWhile Integer.isDigit
    | none => cs.takeWhile Integer.isDigit
  if run = [] then none else some (Integer.natOfDigits 0 run, cs.drop run.length)

def skipBlanks (cs : List Char) : List Char :=
  cs.dropWhile Text.isBlank

/-- A number behind blanks. -/
def readField (width : Nat) (cs : List Char) : Option (Nat × List Char) :=
  readNumber (some width) (skipBlanks cs)

/-- A year behind blanks: four digits at most, or a sign and any number of digits. -/
def readYear (cs : List Char) : Option (Int × List Char) :=
  match skipBlanks cs with
  | '-' :: cs => (readNumber none cs).map fun (n, cs) => (-(n : Int), cs)
  | '+' :: cs => (readNumber none cs).map fun (n, cs) => ((n : Int), cs)
  | cs => (readNumber (some 4) cs).map fun (n, cs) => ((n : Int), cs)

def expect (c : Char) : List Char → Option (List Char)
  | d :: cs => if d = c then some cs else none
  | [] => none

/-- A separator, with blanks before it where `loose`. -/
def separator (loose : Bool) (c : Char) (cs : List Char) : Option (List Char) :=
  expect c (if loose then skipBlanks cs else cs)

def readDate (loose : Bool) (cs : List Char) : Option ((Int × Nat × Nat) × List Char) := do
  let (year, cs) ← readYear cs
  let cs ← separator loose '-' cs
  let (month, cs) ← readField 2 cs
  let cs ← separator loose '-' cs
  let (day, cs) ← readField 2 cs
  return ((year, month, day), cs)

/-- Digits after the point as nanoseconds; those past the ninth are skipped. -/
def readFraction : List Char → Option (Nat × List Char)
  | '.' :: cs => do
    let (n, rest) ← readNumber (some 9) cs
    let nano := n * tenTo (9 - (cs.length - rest.length))
    return (nano, rest.dropWhile Integer.isDigit)
  | cs => some (0, cs)

def readSeconds (loose : Bool) (cs : List Char) : Option ((Nat × Nat) × List Char) := do
  let cs ← separator loose ':' cs
  let (second, cs) ← readField 2 cs
  let (nano, cs) ← readFraction cs
  return ((second, nano), cs)

def readMinutes (loose : Bool) (cs : List Char) : Option ((Nat × Nat) × List Char) := do
  let (hour, cs) ← readField 2 cs
  let cs ← separator loose ':' cs
  let (minute, cs) ← readField 2 cs
  return ((hour, minute), cs)

/-- A time as written, second 60 standing for a leap second. -/
def clock? (hour minute second nano : Nat) : Option Time :=
  if second = 60 then Time.of? hour minute 59 (1000000000 + nano)
  else if nano < 1000000000 then Time.of? hour minute second nano
  else none

def readTime (loose : Bool) (cs : List Char) : Option (Time × List Char) := do
  let ((hour, minute), cs) ← readMinutes loose cs
  let ((second, nano), cs) ← readSeconds loose cs
  let time ← clock? hour minute second nano
  return (time, cs)

/-- An offset from UTC in seconds: `Z`, `UTC`, or a sign with hours and minutes. -/
def readOffset (cs : List Char) : Option (Int × List Char) :=
  match cs with
  | 'Z' :: cs => some (0, cs)
  | 'z' :: cs => some (0, cs)
  | sign :: cs' =>
    if (cs.take 3).map Char.toUpper = ['U', 'T', 'C'] then some (0, cs.drop 3)
    else if sign ≠ '+' ∧ sign ≠ '-' ∧ sign ≠ '\u2212' then none
    else match cs' with
      | h1 :: h2 :: cs =>
        if !(Integer.isDigit h1 && Integer.isDigit h2) then none
        else match cs.dropWhile fun c => c == ':' || Text.isBlank c with
          | m1 :: m2 :: cs =>
            if '0' ≤ m1 ∧ m1 ≤ '5' ∧ Integer.isDigit m2 then
              let seconds : Int := Integer.natOfDigits 0 [h1, h2] * 3600 +
                Integer.natOfDigits 0 [m1, m2] * 60
              some (if sign = '+' then seconds else -seconds, cs)
            else none
          | _ => none
      | _ => none
  | [] => none

end Calendar

open Calendar

namespace Date

def toText (d : Date) : String := String.ofList (dateChars d)

/-- A date and nothing but blanks behind it. -/
def read? (s : String) : Option Date := do
  let ((year, month, day), rest) ← readDate true s.toList
  if skipBlanks rest = [] then of? year month day else none

end Date

namespace Time

def toText (t : Time) : String := String.ofList (timeChars t)

/-- Hours and minutes, and perhaps seconds, with nothing but blanks behind them. -/
def read? (s : String) : Option Time := do
  let ((hour, minute), cs) ← readMinutes true s.toList
  let ((second, nano), rest) := (readSeconds true cs).getD ((0, 0), cs)
  if skipBlanks rest = [] then clock? hour minute second nano else none

end Time

namespace DateTime

/-- Date and time with a blank between them. -/
def toText (t : DateTime) : String := String.ofList (dateTimeChars ' ' t)

/-- Date and time with a `T` between them. -/
def toStamp (t : DateTime) : String := String.ofList (dateTimeChars 'T' t)

/-- Reads `toStamp`, blanks allowed around the parts. -/
def readStamp? (s : String) : Option DateTime := do
  let ((year, month, day), cs) ← readDate true s.toList
  let cs ← separator true 'T' cs
  let (time, rest) ← readTime true cs
  let date ← Date.of? year month day
  if skipBlanks rest = [] then some ⟨date, time⟩ else none

/-- Reads `toText`; nothing may follow. -/
def read? (s : String) : Option DateTime := do
  let ((year, month, day), cs) ← readDate false s.toList
  let (time, rest) ← readTime false (skipBlanks cs)
  let date ← Date.of? year month day
  if rest = [] then some ⟨date, time⟩ else none

end DateTime

namespace Instant

/-- The stamp with the offset of UTC. -/
def toText (t : Instant) : String := t.utc.toStamp ++ "+00:00"

/-- The stamp with the letter that marks UTC. -/
def toStamp (t : Instant) : String := t.utc.toStamp ++ "Z"

/-- Reads a stamp with any offset of less than a day. -/
def read? (s : String) : Option Instant := do
  let ((year, month, day), cs) ← readDate true s.toList
  let cs ← match cs with
    | c :: cs => if c = 't' ∨ c = 'T' ∨ c = ' ' then some cs else none
    | [] => none
  let (time, cs) ← readTime true cs
  let (offset, rest) ← readOffset (skipBlanks cs)
  let date ← Date.of? year month day
  if skipBlanks rest ≠ [] ∨ 86400 ≤ offset.natAbs then none
  else (DateTime.shiftBack? ⟨date, time⟩ offset).map Instant.mk

end Instant

end FluentSql
