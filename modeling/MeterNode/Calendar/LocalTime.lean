import MeterNode.Calendar.Civil
import MeterNode.Text.Fixed

/-!
# Local time

Local time is UTC moved by a fixed offset, and by one more hour while summer time is in force at the
UTC instant.  Log lines carry it as `[Mon DD HH:MM:SS]`.

In the European Union summer time runs from the last Sunday of March to the last Sunday of
October, and both changes happen at 01:00 UTC.  March and October have thirty-one days, so the
last Sunday is found by going back from the thirty-first by its weekday.
-/

namespace MeterNode.Calendar

open MeterNode.Text

/-! ## Summer time -/

/-- The UTC second at which clocks change in a month with thirty-one days. -/
def clockChange (year month : Int) : Int :=
  let last := dayNumber ⟨year, month, 31⟩
  (last - weekday last) * secondsPerDay + 3600

/-- Whether summer time is in force at a UTC second. -/
def isSummerTime (utc : Int) : Bool :=
  let year := (civilTime utc).date.year
  clockChange year 3 ≤ utc && utc < clockChange year 10

/-- 2024: the last seconds before each change, and the changes. -/
example : [1711846799, 1711846800, 1729990799, 1729990800].map isSummerTime
    = [false, true, true, false] := by decide

/-! ## Stamps -/

/-- The short name of a month. -/
def monthName (month : Int) : String :=
  ["Jan", "Feb", "Mar", "Apr", "May", "Jun", "Jul", "Aug", "Sep", "Oct", "Nov",
    "Dec"].getD (month - 1).toNat ""

/-- The largest second a signed 64-bit clock counts to. -/
def secondMax : Nat := UInt64.size / 2 - 1

/-- A UTC second as the calendar takes it: one past the end of the clock counts as its middle. -/
def clockSecond (utc : Nat) : Int := if utc ≤ secondMax then utc else (secondMax / 2 : Nat)

/-- The local second at a UTC second. -/
def localSecond (utc : Int) (offsetMinutes : Int) : Int :=
  utc + offsetMinutes * 60 + if isSummerTime utc then 3600 else 0

/-- A time as `[Mon DD HH:MM:SS]`. -/
def CivilTime.stamp (t : CivilTime) : String :=
  let two (n : Int) := twoDigits n.toNat
  "[" ++ monthName t.date.month ++ " " ++ two t.date.day ++ " " ++ two t.hour ++ ":" ++
    two t.minute ++ ":" ++ two t.second ++ "]"

/-- The local stamp of a UTC second. -/
def localStamp (utc : Nat) (offsetMinutes : Int) : String :=
  (civilTime (localSecond (clockSecond utc) offsetMinutes)).stamp

end MeterNode.Calendar
