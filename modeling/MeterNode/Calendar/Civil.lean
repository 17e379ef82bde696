/-!
# Civil dates

Days are counted from 1970-01-01 in the Gregorian calendar, extended to all years.  The
calculation starts its year in March, so that the leap day comes last and the months follow one
linear rule, and works in eras of 400 years, each of which has 146097 days.  `civilDate` reads a
day count, `dayNumber` counts the days before a date, and `civilTime` splits a second count into a
date, a time of day and a weekday.  Division here rounds down, so days before 1970 need no case of
their own.
-/

namespace MeterNode.Calendar

/-- Seconds in a day. -/
def secondsPerDay : Int := 86400

/-- A date. -/
structure Date where
  year : Int
  /-- From one to twelve. -/
  month : Int
  /-- From one. -/
  day : Int
deriving DecidableEq

/-- A date with a time of day and a weekday. -/
structure CivilTime where
  date : Date
  hour : Int
  minute : Int
  second : Int
  /-- Zero is Sunday. -/
  weekday : Int
deriving DecidableEq

/-- The date a number of days after 1970-01-01. -/
def civilDate (days : Int) : Date :=
  let z := days + 719468
  let era := z / 146097
  let dayOfEra := z % 146097
  let yearOfEra := (dayOfEra - dayOfEra / 1460 + dayOfEra / 36524 - dayOfEra / 146096) / 365
  let dayOfYear := dayOfEra - (365 * yearOfEra + yearOfEra / 4 - yearOfEra / 100)
  let shifted := (5 * dayOfYear + 2) / 153
  let month := if shifted < 10 then shifted + 3 else shifted - 9
  { year := yearOfEra + era * 400 + if month ≤ 2 then 1 else 0
    month := month
    day := dayOfYear - (153 * shifted + 2) / 5 + 1 }

/-- The number of days from 1970-01-01 to a date. -/
def dayNumber (d : Date) : Int :=
  let year := if d.month ≤ 2 then d.year - 1 else d.year
  let era := year / 400
  let yearOfEra := year % 400
  let shifted := if d.month > 2 then d.month - 3 else d.month + 9
  let dayOfYear := (153 * shifted + 2) / 5 + d.day - 1
  era * 146097 + (yearOfEra * 365 + yearOfEra / 4 - yearOfEra / 100 + dayOfYear) - 719468

/-- The weekday of a day; 1970-01-01 was a Thursday. -/
def weekday (days : Int) : Int := (days + 4) % 7

/-- The date and time a number of seconds after the start of 1970. -/
def civilTime (seconds : Int) : CivilTime :=
  let days := seconds / secondsPerDay
  let rest := seconds % secondsPerDay
  { date := civilDate days
    hour := rest / 3600
    minute := rest % 3600 / 60
    second := rest % 60
    weekday := weekday days }

/-- A leap day. -/
example : civilTime 1709210096 = ⟨⟨2024, 2, 29⟩, 12, 34, 56, 4⟩ := by decide
example : dayNumber ⟨1969, 12, 31⟩ = -1 := by decide

end MeterNode.Calendar
