import AlarmServer.Text.Numeral

/-!
# Instants and calendar dates

An instant counts seconds of universal time from the start of 1970. Calendar dates are those of the
Gregorian calendar, extended to all years; `Date.dayNumber` and `Date.ofDayNumber` translate between
dates and days, by cycles of four hundred years whose year starts in March.
-/

namespace AlarmServer

/-- A calendar date. -/
structure Date where
  /-- Astronomical year: the year before 1 is 0. -/
  year : Int
  /-- Month, from 1. -/
  month : Nat
  /-- Day of the month, from 1. -/
  day : Nat
  deriving DecidableEq

namespace Date

/-- Does the year have a 29th of February? -/
def isLeapYear (y : Int) : Bool := (y % 4 = 0 && y % 100 ≠ 0) || y % 400 = 0

/-- Number of days in a month. -/
def daysInMonth (y : Int) (m : Nat) : Nat :=
  if m = 2 then (if isLeapYear y then 29 else 28)
  else if m = 4 ∨ m = 6 ∨ m = 9 ∨ m = 11 then 30 else 31

/-- Is this a date of the calendar? -/
def isValid (d : Date) : Bool :=
  1 ≤ d.month && d.month ≤ 12 && 1 ≤ d.day && d.day ≤ daysInMonth d.year d.month

/-- Days from the first day of 1970. -/
def dayNumber (d : Date) : Int :=
  let y : Int := if d.month ≤ 2 then d.year - 1 else d.year
  let cycle := y / 400
  let yearOfCycle := y % 400
  let marchMonth : Int := (d.month + 9) % 12
  let dayOfYear : Int := (153 * marchMonth + 2) / 5 + d.day - 1
  let dayOfCycle := yearOfCycle * 365 + yearOfCycle / 4 - yearOfCycle / 100 + dayOfYear
  cycle * 146097 + dayOfCycle - 719468

/-- The date that many days from the first day of 1970. -/
def ofDayNumber (n : Int) : Date :=
  let z := n + 719468
  let cycle := z / 146097
  let dayOfCycle := z % 146097
  let yearOfCycle :=
    (dayOfCycle - dayOfCycle / 1460 + dayOfCycle / 36524 - dayOfCycle / 146096) / 365
  let dayOfYear := dayOfCycle - (365 * yearOfCycle + yearOfCycle / 4 - yearOfCycle / 100)
  let marchMonth := (5 * dayOfYear + 2) / 153
  let day := dayOfYear - (153 * marchMonth + 2) / 5 + 1
  let month := if marchMonth < 10 then marchMonth + 3 else marchMonth - 9
  let year := yearOfCycle + cycle * 400
  ⟨if month ≤ 2 then year + 1 else year, month.toNat, day.toNat⟩

example : ofDayNumber 0 = ⟨1970, 1, 1⟩ ∧ ofDayNumber 11016 = ⟨2000, 2, 29⟩ ∧
    dayNumber ⟨1601, 1, 1⟩ = -134774 := by decide +kernel

end Date

/-- A point of universal time. A nanosecond count from one thousand million on lies inside a leap
second, which follows the given second. -/
structure Instant where
  /-- Seconds from the start of 1970, leap seconds not counted. -/
  second : Int
  /-- Nanoseconds within the second. -/
  nanosecond : Nat
  deriving DecidableEq

end AlarmServer
