/-!
Wall clocks in the proleptic Gregorian calendar. A clock is read off a count of seconds since the
start of 1970; the offset of a place is added to the count first, so the clock there is the
universal clock of another instant.
-/
set_option autoImplicit false

namespace RemoteDevice

/-- The difference of a local clock from the universal one, in seconds. -/
structure Offset where
  seconds : Int
deriving DecidableEq, Repr

namespace Offset

def utc : Offset := ⟨0⟩

/-- The amount with the sign that a larger part has, unless that part is zero. -/
def withSignOf (larger amount : Int) : Int :=
  if larger = 0 then amount else larger.sign * amount.natAbs

/-- An offset from hours, minutes and seconds. The smaller parts take the sign of the first
larger part that is not zero. -/
def ofParts? (hours minutes seconds : Int) : Option Offset :=
  if hours.natAbs ≤ 25 ∧ minutes.natAbs ≤ 59 ∧ seconds.natAbs ≤ 59 then
    let minutes := withSignOf hours minutes
    let seconds := withSignOf (if hours = 0 then minutes else hours) seconds
    some ⟨hours * 3600 + minutes * 60 + seconds⟩
  else none

def hours (o : Offset) : Nat := o.seconds.natAbs / 3600

def minutes (o : Offset) : Nat := o.seconds.natAbs / 60 % 60

/-- The seconds beyond the full minute. -/
def rest (o : Offset) : Nat := o.seconds.natAbs % 60

end Offset

namespace Calendar

/-- The first and the last second of the calendar, which spans the years -9999 to 9999. -/
def firstSecond : Int := -377705116800

def lastSecond : Int := 253402300799

/-- Whether a count of seconds falls into a year of the calendar. -/
def covers (seconds : Int) : Bool := firstSecond ≤ seconds && seconds ≤ lastSecond

structure Date where
  year : Int
  /-- From 1 for January. -/
  month : Nat
  /-- From 1. -/
  day : Nat
  /-- The day of the year, from 1. -/
  ordinal : Nat
deriving DecidableEq, Repr

def isLeap (year : Int) : Bool := year % 4 = 0 && (year % 100 != 0 || year % 400 = 0)

/-- The days of the year before the first of a month. -/
def daysBefore (leap : Bool) (month : Nat) : Nat :=
  let common := [0, 31, 59, 90, 120, 151, 181, 212, 243, 273, 304, 334].getD (month - 1) 0
  if leap && 2 < month then common + 1 else common

/-- The date `days` after the first of January 1970. The years are counted from March, so that
the leap day is the last day of its year and four centuries are one period of 146097 days. -/
def dateOfDays (days : Int) : Date :=
  let shifted := days + 719468
  let era := shifted / 146097
  let dayOfEra := (shifted % 146097).toNat
  let yearOfEra := (dayOfEra - dayOfEra / 1460 + dayOfEra / 36524 - dayOfEra / 146096) / 365
  let dayOfYear := dayOfEra - (365 * yearOfEra + yearOfEra / 4 - yearOfEra / 100)
  let fromMarch := (5 * dayOfYear + 2) / 153
  let day := dayOfYear - (153 * fromMarch + 2) / 5 + 1
  let month := if fromMarch < 10 then fromMarch + 3 else fromMarch - 9
  let year := (yearOfEra : Int) + era * 400 + (if month ≤ 2 then 1 else 0)
  ⟨year, month, day, daysBefore (isLeap year) month + day⟩

/-- A date and a time of day. -/
structure Clock where
  date : Date
  /-- From 0 for Monday. -/
  weekday : Nat
  hour : Nat
  minute : Nat
  second : Nat
deriving DecidableEq, Repr

/-- The universal clock at a count of seconds. The first of January 1970 was a Thursday. -/
def clockAt (seconds : Int) : Clock :=
  let days := seconds / 86400
  let time := (seconds % 86400).toNat
  { date := dateOfDays days
    weekday := ((days + 3) % 7).toNat
    hour := time / 3600
    minute := time / 60 % 60
    second := time % 60 }

/-- The number of weeks in a year of weeks that start on Monday: 53 if the year starts on a
Thursday, or on a Wednesday and is a leap year. -/
def isoWeeksInYear (year : Int) : Nat :=
  let before := year - 1
  let firstWeekday := (before + before / 4 - before / 100 + before / 400) % 7
  if firstWeekday = 3 ∨ (firstWeekday = 2 ∧ isLeap year = true) then 53 else 52

namespace Clock

/-- The week number and the year it belongs to; the first week is the one with the year's first
Thursday. -/
def isoYearWeek (c : Clock) : Int × Nat :=
  let year := c.date.year
  let week := (c.date.ordinal + 9 - c.weekday) / 7
  if week = 0 then (year - 1, isoWeeksInYear (year - 1))
  else if week = 53 && isoWeeksInYear year = 52 then (year + 1, 1)
  else (year, week)

/-- The number of days since the last Sunday. -/
def daysFromSunday (c : Clock) : Nat := (c.weekday + 1) % 7

/-- Weeks of the year that start on Sunday; days before the first of them are in week 0. -/
def sundayWeek (c : Clock) : Nat := (c.date.ordinal + 6 - c.daysFromSunday) / 7

/-- Weeks of the year that start on Monday. -/
def mondayWeek (c : Clock) : Nat := (c.date.ordinal + 6 - c.weekday) / 7

end Clock

end Calendar

end RemoteDevice
