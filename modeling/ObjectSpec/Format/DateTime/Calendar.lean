/-!
# Dates and times of day

Dates are those of the Gregorian calendar, extended to all years; year zero is a
leap year. Years are limited to the range from -262143 to 262142. A minute may
have a leap second.
-/

namespace ObjectSpec
namespace Format

/-- Whether a year has 366 days. -/
def isLeapYear (year : Int) : Bool :=
  year % 4 = 0 && (year % 100 ≠ 0 || year % 400 = 0)

/-- The number of days of a year. -/
def daysInYear (year : Int) : Nat :=
  if isLeapYear year then 366 else 365

/-- The number of days of a month, by its number from 1. -/
def daysInMonth (year : Int) (month : Nat) : Nat :=
  if month = 2 then if isLeapYear year then 29 else 28
  else if month = 4 ∨ month = 6 ∨ month = 9 ∨ month = 11 then 30
  else 31

/-- The components of a date and a time of day, as they are written. -/
structure Moment where
  /-- The year, of either sign. -/
  year : Int
  /-- The month, from 1. -/
  month : Nat
  /-- The day of the month, from 1. -/
  day : Nat
  /-- The day of the year, from 1. -/
  dayOfYear : Nat
  /-- The hour of the day. -/
  hour : Nat
  /-- The minute of the hour. -/
  minute : Nat
  /-- The second of the minute. -/
  second : Nat
  deriving DecidableEq, Repr

namespace Moment

/-- The first moment of year zero, which stands in for components that are not
written. -/
def first : Moment := ⟨0, 1, 1, 1, 0, 0, 0⟩

/-- Whether the year is within the limits. -/
def hasYear (moment : Moment) : Bool :=
  -262143 ≤ moment.year && moment.year ≤ 262142

/-- Whether month and day of the month exist in the year. -/
def hasDay (moment : Moment) : Bool :=
  1 ≤ moment.month && moment.month ≤ 12 && 1 ≤ moment.day &&
    moment.day ≤ daysInMonth moment.year moment.month

/-- Whether the day of the year exists in the year. -/
def hasDayOfYear (moment : Moment) : Bool :=
  1 ≤ moment.dayOfYear && moment.dayOfYear ≤ daysInYear moment.year

/-- Whether the time of day exists, leap seconds included. -/
def hasTime (moment : Moment) : Bool :=
  moment.hour ≤ 23 && moment.minute ≤ 59 && moment.second ≤ 60

/-- Whether the moment exists. -/
def isReal (moment : Moment) : Bool :=
  moment.hasYear && moment.hasDay && moment.hasDayOfYear && moment.hasTime

end Moment
end Format
end ObjectSpec
