/-!
# Moments and the Calendar

Points in time and the two ways they are written. Predicate units carry the time of writing the
way mail headers do, and log lines carry it in the compact form that sorts as text. Both are in
universal time, so a moment is a number of seconds and a fraction and needs no zone.

The calendar is the Gregorian one, counted in eras of four hundred years that start on the first of
March: with the leap day at the end of a year, the day within an era determines year, month and day
by division alone.

## Main definitions

* `Moment`: Seconds since the start of 1970, and nanoseconds.
* `Moment.Date`: A day of the calendar.
* `Moment.dateOfDays`: The date of a day counted from the start of 1970.
* `Moment.daysOfDate`: The count of the day of a date.
* `Moment.mailText`: A moment in the form of mail headers.
* `Moment.logText`: A moment in the form of log lines.
-/

namespace Colloquy

/-- A point in time: whole seconds since the start of 1970 in universal time, and nanoseconds. -/
structure Moment where
  seconds : Nat
  nanoseconds : Nat := 0
  deriving DecidableEq, Repr, Inhabited

namespace Moment

/-- A day of the calendar. -/
structure Date where
  year : Nat
  month : Nat
  day : Nat
  deriving DecidableEq, Repr

/-- The date of a day, counted from the start of 1970. -/
def dateOfDays (days : Nat) : Date :=
  -- An era starts this many days before 1970.
  let shifted := days + 719468
  let era := shifted / 146097
  let dayOfEra := shifted % 146097
  let yearOfEra := (dayOfEra - dayOfEra / 1460 + dayOfEra / 36524 - dayOfEra / 146096) / 365
  let dayOfYear := dayOfEra - (365 * yearOfEra + yearOfEra / 4 - yearOfEra / 100)
  let monthFromMarch := (5 * dayOfYear + 2) / 153
  let month := if monthFromMarch < 10 then monthFromMarch + 3 else monthFromMarch - 9
  { year := yearOfEra + era * 400 + (if month ≤ 2 then 1 else 0)
    month := month
    day := dayOfYear - (153 * monthFromMarch + 2) / 5 + 1 }

/-- The days from the start of the calendar's first era to a date, an era starting in March. -/
def daysOfDate (date : Date) : Nat :=
  let year := if date.month ≤ 2 then date.year - 1 else date.year
  let monthFromMarch := if date.month > 2 then date.month - 3 else date.month + 9
  year / 400 * 146097 + year % 400 * 365 + year % 400 / 4 - year % 400 / 100 +
    (153 * monthFromMarch + 2) / 5 + date.day - 1

/-- Whether a year has a leap day. -/
def isLeapYear (year : Nat) : Bool :=
  (year % 4 == 0 && year % 100 != 0) || year % 400 == 0

/-- The number of days of a month. -/
def daysOfMonth (year month : Nat) : Nat :=
  if month = 2 then (if isLeapYear year then 29 else 28)
  else if month = 4 ∨ month = 6 ∨ month = 9 ∨ month = 11 then 30
  else 31

/-- Whether a date names a day that exists. -/
def Date.isReal (date : Date) : Bool :=
  1 ≤ date.month && date.month ≤ 12 && 1 ≤ date.day &&
    date.day ≤ daysOfMonth date.year date.month

/-- The names of the months. -/
def monthNames : List String :=
  ["Jan", "Feb", "Mar", "Apr", "May", "Jun", "Jul", "Aug", "Sep", "Oct", "Nov", "Dec"]

/-- The names of the days of the week. -/
def dayNames : List String := ["Sun", "Mon", "Tue", "Wed", "Thu", "Fri", "Sat"]

/-- The day of the week of a date, counted from Sunday. An era has a whole number of weeks, so the
    date is looked up an era later, where the months before the first March have a year. -/
def dayOfWeek (date : Date) : Nat := (daysOfDate { date with year := date.year + 400 } + 3) % 7

/-- A number with zeros in front, up to a width. -/
def padded (width n : Nat) : String :=
  let digits := toString n
  String.ofList (List.replicate (width - digits.length) '0') ++ digits

/-- The day of a moment. -/
def date (moment : Moment) : Date := dateOfDays (moment.seconds / 86400)

/-- The time of day of a moment. -/
def clockText (moment : Moment) : String :=
  padded 2 (moment.seconds / 3600 % 24) ++ ":" ++ padded 2 (moment.seconds / 60 % 60) ++ ":" ++
    padded 2 (moment.seconds % 60)

/-- The fraction of a second, in thousandths, millionths or billionths as it needs. -/
def fractionText (nanoseconds : Nat) : String :=
  if nanoseconds = 0 then ""
  else if nanoseconds % 1000000 = 0 then "." ++ padded 3 (nanoseconds / 1000000)
  else if nanoseconds % 1000 = 0 then "." ++ padded 6 (nanoseconds / 1000)
  else "." ++ padded 9 nanoseconds

/-- A moment in the form of mail headers. -/
def mailText (moment : Moment) : String :=
  let date := moment.date
  dayNames.getD (dayOfWeek date) "" ++ ", " ++ toString date.day ++ " " ++
    monthNames.getD (date.month - 1) "" ++ " " ++ padded 4 date.year ++ " " ++
    moment.clockText ++ " +0000"

/-- A moment in the form of log lines. -/
def logText (moment : Moment) : String :=
  let date := moment.date
  padded 4 date.year ++ "-" ++ padded 2 date.month ++ "-" ++ padded 2 date.day ++ "T" ++
    moment.clockText ++ fractionText moment.nanoseconds ++ "+00:00"

end Moment

end Colloquy
