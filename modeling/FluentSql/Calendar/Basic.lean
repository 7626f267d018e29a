/-!
# Dates and times

Days of the proleptic Gregorian calendar from year -262143 to year 262142, times of
day to the nanosecond, and their combination with and without a time zone. A leap
second is second 59 with a billion nanoseconds or more.
-/

namespace FluentSql

def isLeapYear (year : Int) : Bool :=
  year % 4 == 0 && (year % 100 != 0 || year % 400 == 0)

def daysInMonth (year : Int) (month : Nat) : Nat :=
  if month = 2 then if isLeapYear year then 29 else 28
  else if month = 4 ∨ month = 6 ∨ month = 9 ∨ month = 11 then 30
  else 31

def isDate (year : Int) (month day : Nat) : Bool :=
  -262143 ≤ year && year ≤ 262142 && 1 ≤ month && month ≤ 12 && 1 ≤ day &&
    day ≤ daysInMonth year month

structure Date where
  year : Int
  month : Nat
  day : Nat
  valid : isDate year month day
  deriving DecidableEq

def isTime (hour minute second nano : Nat) : Bool :=
  hour < 24 && minute < 60 && second < 60 && nano < 2000000000 &&
    (nano < 1000000000 || second == 59)

structure Time where
  hour : Nat
  minute : Nat
  second : Nat
  nano : Nat
  valid : isTime hour minute second nano
  deriving DecidableEq

structure DateTime where
  date : Date
  time : Time
  deriving DecidableEq

/-- A point in time, by its date and time in UTC. -/
structure Instant where
  utc : DateTime
  deriving DecidableEq

namespace Date

/-- The first day of the year 2000. -/
def millennium : Date := ⟨2000, 1, 1, rfl⟩

instance : Inhabited Date := ⟨millennium⟩

def of? (year : Int) (month day : Nat) : Option Date :=
  if h : isDate year month day then some ⟨year, month, day, h⟩ else none

/-- Days since 1 March of year 0. -/
def dayNumber (d : Date) : Int :=
  let y := if d.month ≤ 2 then d.year - 1 else d.year
  let m := (d.month + 9) % 12
  365 * y + y / 4 - y / 100 + y / 400 + (153 * m + 2) / 5 + d.day - 1

/-- The date that lies `n` days after 1 March of year 0. -/
def ofDayNumber? (n : Int) : Option Date :=
  let era := n / 146097
  let dayOfEra := n % 146097
  let yearOfEra := (dayOfEra - dayOfEra / 1460 + dayOfEra / 36524 - dayOfEra / 146096) / 365
  let dayOfYear := dayOfEra - (365 * yearOfEra + yearOfEra / 4 - yearOfEra / 100)
  let m := (5 * dayOfYear + 2) / 153
  let day := dayOfYear - (153 * m + 2) / 5 + 1
  let month := if m < 10 then m + 3 else m - 9
  let year := yearOfEra + era * 400 + if month ≤ 2 then 1 else 0
  of? year month.toNat day.toNat

end Date

namespace Time

def midnight : Time := ⟨0, 0, 0, 0, rfl⟩

instance : Inhabited Time := ⟨midnight⟩

def of? (hour minute second nano : Nat) : Option Time :=
  if h : isTime hour minute second nano then some ⟨hour, minute, second, nano, h⟩ else none

/-- Seconds since midnight, the leap second counted as the one before it. -/
def secondOfDay (t : Time) : Nat :=
  (t.hour * 60 + t.minute) * 60 + t.second

/-- Nanoseconds since midnight. -/
def nanoOfDay (t : Time) : Nat :=
  t.secondOfDay * 1000000000 + t.nano

/-- The time that lies `n` nanoseconds after some midnight. -/
def ofNanoOfDay? (n : Nat) : Option Time :=
  let seconds := n / 1000000000 % 86400
  of? (seconds / 3600) (seconds / 60 % 60) (seconds % 60) (n % 1000000000)

end Time

namespace DateTime

instance : Inhabited DateTime := ⟨⟨default, default⟩⟩

/-- Nanoseconds since 1 March of year 0, leap seconds not counted apart. -/
def nanoCount (t : DateTime) : Int :=
  t.date.dayNumber * 86400000000000 + t.time.nanoOfDay

def ofNanoCount? (n : Int) : Option DateTime := do
  let date ← Date.ofDayNumber? (n / 86400000000000)
  let time ← Time.ofNanoOfDay? (n % 86400000000000).toNat
  return ⟨date, time⟩

/-- The date and time `seconds` earlier, with the same nanoseconds. -/
def shiftBack? (t : DateTime) (seconds : Int) : Option DateTime := do
  let at_ := (t.time.secondOfDay : Int) - seconds
  let date ← Date.ofDayNumber? (t.date.dayNumber + at_ / 86400)
  let rest := (at_ % 86400).toNat
  let time ← Time.of? (rest / 3600) (rest / 60 % 60) (rest % 60) t.time.nano
  return ⟨date, time⟩

end DateTime

instance : Inhabited Instant := ⟨⟨default⟩⟩

end FluentSql
