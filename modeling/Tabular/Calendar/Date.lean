/-!
# Calendar dates

Dates of the proleptic Gregorian calendar, counted in days from 1970-01-01. Years start with March
in the arithmetic, so that the leap day comes last, and 400 years have 146097 days.

Only dates of the years `minYear … maxYear` take part in the library; a day count outside them
names no date.
-/

namespace Tabular.Calendar

/-- The first year with dates. -/
def minYear : Int := -262143

/-- The last year with dates. -/
def maxYear : Int := 262142

/-- A year, month and day of the month. -/
structure Civil where
  year : Int
  month : Nat
  day : Nat
deriving DecidableEq, Repr

/-- Leap years have a 29th of February. -/
def isLeapYear (y : Int) : Bool := y % 4 = 0 && (y % 100 ≠ 0 || y % 400 = 0)

/-- The number of days of a month. -/
def monthLength (y : Int) (m : Nat) : Nat :=
  match m with
  | 2 => if isLeapYear y then 29 else 28
  | 4 | 6 | 9 | 11 => 30
  | _ => 31

/-- The day count of a date. -/
def daysOfCivil (c : Civil) : Int :=
  let y := if c.month ≤ 2 then c.year - 1 else c.year
  let era := y.fdiv 400
  let yearOfEra := y - era * 400
  let monthFromMarch : Int := if c.month ≤ 2 then c.month + 9 else (c.month : Int) - 3
  let dayOfYear := (153 * monthFromMarch + 2).fdiv 5 + c.day - 1
  let dayOfEra := yearOfEra * 365 + yearOfEra.fdiv 4 - yearOfEra.fdiv 100 + dayOfYear
  era * 146097 + dayOfEra - 719468

/-- The date of a day count. -/
def civilOfDays (days : Int) : Civil :=
  let z := days + 719468
  let era := z.fdiv 146097
  let dayOfEra := z - era * 146097
  let yearOfEra :=
    (dayOfEra - dayOfEra.fdiv 1460 + dayOfEra.fdiv 36524 - dayOfEra.fdiv 146096).fdiv 365
  let dayOfYear := dayOfEra - (365 * yearOfEra + yearOfEra.fdiv 4 - yearOfEra.fdiv 100)
  let monthFromMarch := (5 * dayOfYear + 2).fdiv 153
  let day := dayOfYear - (153 * monthFromMarch + 2).fdiv 5 + 1
  let month := if monthFromMarch < 10 then monthFromMarch + 3 else monthFromMarch - 9
  let year := yearOfEra + era * 400
  ⟨if month ≤ 2 then year + 1 else year, month.toNat, day.toNat⟩

/-- The year, if it has dates. -/
def yearInRange (y : Int) : Bool := minYear ≤ y && y ≤ maxYear

/-- The day count of year, month and day, if they name a date. -/
def daysOfYmd? (year : Int) (month day : Nat) : Option Int :=
  if yearInRange year && 1 ≤ month && month ≤ 12 && 1 ≤ day && day ≤ monthLength year month then
    some (daysOfCivil ⟨year, month, day⟩)
  else none

/-- The day count of a day of a year, if they name a date. -/
def daysOfYearDay? (year : Int) (ordinal : Nat) : Option Int :=
  if yearInRange year && 1 ≤ ordinal && ordinal ≤ (if isLeapYear year then 366 else 365) then
    some (daysOfCivil ⟨year, 1, 1⟩ + ordinal - 1)
  else none

/-- Whether a day count names a date. -/
def dateInRange (days : Int) : Bool :=
  daysOfCivil ⟨minYear, 1, 1⟩ ≤ days && days ≤ daysOfCivil ⟨maxYear, 12, 31⟩

/-- The day of the week, counted from Monday as 0. -/
def weekday (days : Int) : Nat := ((days + 3) % 7).toNat

/-- The day of the year, counted from 1. -/
def yearDay (days : Int) : Nat := (days - daysOfCivil ⟨(civilOfDays days).year, 1, 1⟩ + 1).toNat

/-- The week of the year when weeks start on `first` (counted from Monday); the days before the
first such day are in week 0. -/
def weekOfYear (first : Nat) (days : Int) : Nat :=
  let sinceStart := (weekday days + 7 - first) % 7
  (yearDay days + 6 - sinceStart) / 7

/-- The year and week that a date has when weeks start on Monday and belong to the year of their
Thursday. -/
def isoWeek (days : Int) : Int × Nat :=
  let thursday := days - weekday days + 3
  ((civilOfDays thursday).year, (yearDay thursday - 1) / 7 + 1)

/-- The day count of a day of such a week, if they name a date. -/
def daysOfIsoWeek? (year : Int) (week weekday' : Nat) : Option Int :=
  let fourth := daysOfCivil ⟨year, 1, 4⟩
  let days := fourth - weekday fourth + 7 * ((week : Int) - 1) + weekday'
  if isoWeek days = (year, week) && dateInRange days then some days else none

/-- Seconds in a day. -/
def secondsPerDay : Int := 86400

/-- A date and a time of day. A leap second is the 59th second with a billion nanoseconds more. -/
structure DateTime where
  /-- Days since 1970-01-01. -/
  days : Int
  /-- Seconds since midnight. -/
  seconds : Nat
  /-- Nanoseconds of the second. -/
  nanos : Nat
deriving DecidableEq, Repr

namespace DateTime

/-- Seconds since 1970-01-01T00:00:00. -/
def timestamp (t : DateTime) : Int := t.days * secondsPerDay + t.seconds

/-- The date and time at a number of ticks, `perSecond` to the second, if it has a date. -/
def ofTicks? (perSecond : Nat) (ticks : Int) : Option DateTime :=
  let total := ticks.fdiv perSecond
  let days := total.fdiv secondsPerDay
  if dateInRange days then
    some ⟨days, (total - days * secondsPerDay).toNat,
      ((ticks - total * perSecond) * (1000000000 / perSecond : Nat)).toNat⟩
  else none

/-- The time `seconds` later, if it has a date. -/
def shift? (t : DateTime) (seconds : Int) : Option DateTime :=
  let total := t.timestamp + seconds
  let days := total.fdiv secondsPerDay
  if dateInRange days then some ⟨days, (total - days * secondsPerDay).toNat, t.nanos⟩ else none

/-- The number of ticks since 1970-01-01T00:00:00, fractions of a tick dropped. A leap second is
held as more than a second's nanoseconds, so whole seconds do not count it and finer ticks do. -/
def toTicks (perSecond : Nat) (t : DateTime) : Int :=
  t.timestamp * perSecond +
    if perSecond = 1 then 0 else (t.nanos / (1000000000 / perSecond) : Nat)

/-- The hour of the day. -/
def hour (t : DateTime) : Nat := t.seconds / 3600

/-- The minute of the hour. -/
def minute (t : DateTime) : Nat := t.seconds / 60 % 60

/-- The second of the minute. -/
def second (t : DateTime) : Nat := t.seconds % 60

end DateTime

end Tabular.Calendar
