import RemoteDevice.Calendar.Clock
import RemoteDevice.Calendar.Pattern

/-!
Writing an instant by a pattern: each component is read off the wall clock of the place, except
the offset, which is the place's own, and the timestamp, which is the same everywhere.
-/
set_option autoImplicit false

namespace RemoteDevice.Calendar

/-- An instant in whole seconds, seen at a place. -/
structure Moment where
  seconds : Int
  offset : Offset
deriving DecidableEq, Repr

/-- The wall clock at the place. -/
def Moment.clock (m : Moment) : Clock := clockAt (m.seconds + m.offset.seconds)

/-- A number filled up to its width. -/
def Padding.write (p : Padding) (width n : Nat) : List Char :=
  let digits := Nat.toDigits 10 n
  match p with
  | .zero => List.replicate (width - digits.length) '0' ++ digits
  | .space => List.replicate (width - digits.length) ' ' ++ digits
  | .none => digits

def monthNames : List String :=
  ["January", "February", "March", "April", "May", "June", "July", "August", "September",
    "October", "November", "December"]

/-- From Monday on. -/
def weekdayNames : List String :=
  ["Monday", "Tuesday", "Wednesday", "Thursday", "Friday", "Saturday", "Sunday"]

/-- The sign before a number: a minus where it is negative, a plus only if asked for. -/
def signText (negative mandatory : Bool) : List Char :=
  if negative then ['-'] else if mandatory then ['+'] else []

def MonthStyle.write (style : MonthStyle) (p : Padding) (month : Nat) : List Char :=
  let name := (monthNames.getD (month - 1) "").toList
  match style with
  | .numerical => p.write 2 month
  | .long => name
  | .short => name.take 3

def WeekdayStyle.write (style : WeekdayStyle) (oneIndexed : Bool) (c : Clock) : List Char :=
  let name := (weekdayNames.getD c.weekday "").toList
  let first := if oneIndexed then 1 else 0
  match style with
  | .long => name
  | .short => name.take 3
  | .fromSunday => Nat.toDigits 10 (c.daysFromSunday + first)
  | .fromMonday => Nat.toDigits 10 (c.weekday + first)

/-- The last two digits of a year never have a sign; the other styles have that of the year. -/
def YearStyle.write (style : YearStyle) (p : Padding) (signed : Bool) (year : Int) : List Char :=
  match style with
  | .full => signText (year < 0) signed ++ p.write 4 year.natAbs
  | .century => signText (year < 0) signed ++ p.write 2 (year.natAbs / 100)
  | .lastTwo => p.write 2 (year.natAbs % 100)

def hourOf (twelve : Bool) (hour : Nat) : Nat :=
  if twelve then (hour + 11) % 12 + 1 else hour

def Component.write (m : Moment) : Component → List Char
  | .day p => p.write 2 m.clock.date.day
  | .month p style => style.write p m.clock.date.month
  | .ordinal p => p.write 3 m.clock.date.ordinal
  | .weekday style oneIndexed => style.write oneIndexed m.clock
  | .weekNumber p .iso => p.write 2 m.clock.isoYearWeek.2
  | .weekNumber p .sunday => p.write 2 m.clock.sundayWeek
  | .weekNumber p .monday => p.write 2 m.clock.mondayWeek
  | .year p style ofWeek signed =>
    style.write p signed (if ofWeek then m.clock.isoYearWeek.1 else m.clock.date.year)
  | .hour p twelve => p.write 2 (hourOf twelve m.clock.hour)
  | .minute p => p.write 2 m.clock.minute
  | .second p => p.write 2 m.clock.second
  | .period upper =>
    match decide (m.clock.hour < 12), upper with
    | true, true => ['A', 'M']
    | true, false => ['a', 'm']
    | false, true => ['P', 'M']
    | false, false => ['p', 'm']
  | .subsecond digits => List.replicate (digits.getD 1) '0'
  | .offsetHour p signed => signText (m.offset.seconds < 0) signed ++ p.write 2 m.offset.hours
  | .offsetMinute p => p.write 2 m.offset.minutes
  | .offsetSecond p => p.write 2 m.offset.rest
  | .unixTimestamp places signed =>
    signText (m.seconds < 0) signed ++ Nat.toDigits 10 (m.seconds.natAbs * Nat.pow 10 places)
  | .ignore => []
  | .finish => []

def Item.write (m : Moment) : Item → List Char
  | .literal c => [c]
  | .component c => c.write m

/-- The text of an instant by a pattern. -/
def write (items : List Item) (m : Moment) : String :=
  String.ofList (items.flatMap (Item.write m))

end RemoteDevice.Calendar
