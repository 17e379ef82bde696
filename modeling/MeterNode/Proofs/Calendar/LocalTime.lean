import MeterNode.Proofs.Calendar.SummerTime
import MeterNode.Time.Sync

/-!
# Local time

`Shows` says how a text shows a time as `[Mon DD HH:MM:SS]`, letter by letter, and `CivilTime.next`
how a clock goes on by one second, with a carry from each place to the next.  The stamp of a UTC
second shows the calendar time that is some minutes from it, and one more hour in summer time
(`localSecond_eq`).  Whether it is summer is a matter of the UTC second alone (`Summer`).  As long
as summer time neither begins nor ends, the stamp of the next second shows the next reading of the
clock (`civilTime_succ`).

`Word.localStamp` calculates the stamp in signed 64-bit arithmetic, and looks up the month in the
table of the names, which has no name for a place that is not in it.  On every second that the node
can take for the time, and for every offset of 32 bits, it comes to the same stamp
(`Word.localStamp_of`).
-/

namespace MeterNode.Calendar

open MeterNode.Text

variable {t : Int} {utc : Nat} {offset : Int} {c : CivilTime} {text : String}

/-! ## Readings of a clock -/

/-- What the clock reads one second later. -/
def CivilTime.next (c : CivilTime) : CivilTime :=
  if c.second < 59 then { c with second := c.second + 1 }
  else if c.minute < 59 then { c with minute := c.minute + 1, second := 0 }
  else if c.hour < 23 then { c with hour := c.hour + 1, minute := 0, second := 0 }
  else ⟨c.date.next, 0, 0, 0, (c.weekday + 1) % 7⟩

/-- The end of a leap day. -/
example : CivilTime.next ⟨⟨2024, 2, 29⟩, 23, 59, 59, 4⟩ = ⟨⟨2024, 3, 1⟩, 0, 0, 0, 5⟩ := by decide

theorem civilTime_succ (t : Int) : civilTime (t + 1) = (civilTime t).next := by
  by_cases hday : t % 86400 = 86399
  · have hdays : (t + 1) / 86400 = t / 86400 + 1 := by omega
    have hrest : (t + 1) % 86400 = 0 := by omega
    have hweekday : (t / 86400 + 1 + 4) % 7 = ((t / 86400 + 4) % 7 + 1) % 7 := by omega
    simp only [civilTime, secondsPerDay, hdays, hrest, weekday, civilDate_succ, hweekday,
      CivilTime.next, hday]
    rfl
  · obtain ⟨s, hs⟩ : ∃ s, s = t % 86400 := ⟨_, rfl⟩
    have hdays : (t + 1) / 86400 = t / 86400 := by omega
    have hrest : (t + 1) % 86400 = s + 1 := by omega
    simp only [civilTime, secondsPerDay, hdays, hrest, ← hs, CivilTime.next]
    split_ifs <;> simp only [CivilTime.mk.injEq, true_and, and_true] <;> omega

/-! ## Stamps -/

/-- The names of the months, in order. -/
def monthNames : List String :=
  ["Jan", "Feb", "Mar", "Apr", "May", "Jun", "Jul", "Aug", "Sep", "Oct", "Nov", "Dec"]

/-- A number with two digits. -/
def twoPlaces (n : Int) : List Char := [(n.toNat / 10).digitChar, (n.toNat % 10).digitChar]

/-- The text shows the month, the day and the time of day as `[Mon DD HH:MM:SS]`. -/
def Shows (text : String) (c : CivilTime) : Prop :=
  ∃ name, monthNames[(c.date.month - 1).toNat]? = some name ∧
    text.toList = ['['] ++ name.toList ++ [' '] ++ twoPlaces c.date.day ++ [' '] ++
      twoPlaces c.hour ++ [':'] ++ twoPlaces c.minute ++ [':'] ++ twoPlaces c.second ++ [']']

theorem Shows.length_eq (h : Shows text c) : text.length = 17 := by
  obtain ⟨name, hname, htext⟩ := h
  have hthree : ∀ name ∈ monthNames, name.toList.length = 3 := by decide
  rw [← String.length_toList, htext]
  simp [hthree name (List.mem_of_getElem? hname), twoPlaces]

theorem twoDigits_toList {n : Int} (hlow : 0 ≤ n) (hhigh : n < 100) :
    (twoDigits n.toNat).toList = twoPlaces n := by
  obtain ⟨k, rfl⟩ := Int.eq_ofNat_of_zero_le hlow
  unfold twoDigits twoPlaces
  rw [Int.toNat_natCast]
  split
  next hone =>
    rw [String.toList_append, Nat.toList_repr, Nat.toDigits_of_lt_base hone,
      Nat.div_eq_of_lt hone, Nat.mod_eq_of_lt hone]
    rfl
  next htwo =>
    rw [Nat.toList_repr, Nat.toDigits_of_base_le (by decide) (Nat.not_lt.1 htwo),
      Nat.toDigits_of_lt_base (by omega)]
    rfl

/-- Every month of a valid date has a name. -/
theorem monthNames_getElem? {month : Int} (hjanuary : 1 ≤ month) (hdecember : month ≤ 12) :
    monthNames[(month - 1).toNat]? = some (monthName month) := by
  have hplace : (month - 1).toNat < monthNames.length := by
    simp only [monthNames, List.length_cons, List.length_nil]
    omega
  rw [List.getElem?_eq_getElem hplace, List.getElem_eq_getD ""]
  rfl

theorem CivilTime.Valid.stamp_shows (h : c.Valid) : Shows c.stamp c := by
  obtain ⟨⟨hjanuary, hdecember, hfirst, hlast⟩, hhour, hminute, hsecond, -⟩ := h
  have hmonth : c.date.day ≤ 31 := by
    unfold monthLength at hlast
    omega
  refine ⟨monthName c.date.month, monthNames_getElem? hjanuary hdecember, ?_⟩
  simp only [CivilTime.stamp, String.toList_append]
  rw [twoDigits_toList (by omega) (by omega), twoDigits_toList hhour.1 (by omega),
    twoDigits_toList hminute.1 (by omega), twoDigits_toList hsecond.1 (by omega)]
  rfl

/-! ## Summer time of a second -/

/-- The second is between 01:00 UTC of the last Sunday of some March and 01:00 UTC of the last
Sunday of the October behind it. -/
def Summer (t : Int) : Prop :=
  ∃ y march october, Date.LastSunday ⟨y, 3, march⟩ ∧ Date.LastSunday ⟨y, 10, october⟩ ∧
    dayNumber ⟨y, 3, march⟩ * 86400 + 3600 ≤ t ∧ t < dayNumber ⟨y, 10, october⟩ * 86400 + 3600

theorem summer_iff : Summer t ↔ isSummerTime t = true := by
  constructor
  · rintro ⟨y, march, october, hmarch, hoctober, hstart, hend⟩
    rw [← hmarch.clockChange_eq] at hstart
    rw [← hoctober.clockChange_eq] at hend
    exact ((isSummerTime_iff hmarch hoctober).2 ⟨hstart, hend⟩).2
  · intro h
    obtain ⟨march, hmarch⟩ := exists_lastSunday (civilTime t).date.year 3
    obtain ⟨october, hoctober⟩ := exists_lastSunday (civilTime t).date.year 10
    have hspring := (hmarch march).2 rfl
    have hautumn := (hoctober october).2 rfl
    obtain ⟨hstart, hend⟩ := (isSummerTime_iff hspring hautumn).1 ⟨rfl, h⟩
    rw [hspring.clockChange_eq] at hstart
    rw [hautumn.clockChange_eq] at hend
    exact ⟨_, march, october, hspring, hautumn, hstart, hend⟩

instance : Decidable (Summer t) := decidable_of_iff _ summer_iff.symm

theorem localSecond_eq (t offset : Int) :
    localSecond t offset = t + 60 * offset + if Summer t then 3600 else 0 := by
  simp only [localSecond, summer_iff]
  omega

/-- Up to half of its range, the clock is taken as it is. -/
theorem localStamp_eq (hutc : utc < 2 ^ 62) (offset : Int) :
    localStamp utc offset = (civilTime (localSecond utc offset)).stamp := by
  have hmax : utc ≤ secondMax := by
    rw [show secondMax = 2 ^ 63 - 1 from rfl]
    omega
  rw [localStamp, clockSecond, if_pos hmax]

/-! ## In 64-bit arithmetic -/

namespace Word

/-- `Calendar.clockSecond` of a word without a sign. -/
def clockSecond (utc : Nat) : Word := if Fits utc then of utc else of (2 ^ 63 - 1) / 2

/-- `Calendar.localSecond` on words. -/
def localSecond (utc : Word) (offset : Int) : Word :=
  let moved := utc + of offset * 60
  match isSummerTime utc with
  | some true => moved + 3600
  | some false => moved
  | none => none

/-- The name of a month, if its place is in the table. -/
def monthName (month : Int) : Option String := do
  let place : Int ← (of month - 1).byte
  monthNames[place.toNat]?

/-- `Calendar.localStamp` on words. -/
def localStamp (utc : Nat) (offset : Int) : Option String := do
  let c ← civilTime (localSecond (clockSecond utc) offset)
  let name ← monthName c.date.month
  let two (n : Int) := twoDigits n.toNat
  return "[" ++ name ++ " " ++ two c.date.day ++ " " ++ two c.hour ++ ":" ++ two c.minute ++ ":" ++
    two c.second ++ "]"

theorem monthName_of {month : Int} (hjanuary : 1 ≤ month) (hdecember : month ≤ 12) :
    monthName month = some (Calendar.monthName month) := by
  have hplace : (of month - 1).byte = of (month - 1) := by
    rw [one_eq, of_sub (by omega) (by omega), byte_of (by omega) (by omega)]
  rw [monthName, hplace]
  exact monthNames_getElem? hjanuary hdecember

theorem localSecond_of (hlow : -2 ^ 62 ≤ t) (hhigh : t < 2 ^ 62) (hoffset : -2 ^ 31 ≤ offset)
    (hoffset' : offset < 2 ^ 31) : localSecond (of t) offset = of (Calendar.localSecond t offset) ∧
    Fits (Calendar.localSecond t offset) := by
  have hmoved : of t + of offset * 60 = of (t + offset * 60) := by
    simp (disch := omega) only [ofNat_eq, of_mul, of_add]
  unfold localSecond Calendar.localSecond
  rw [isSummerTime_of ⟨by omega, by omega⟩, hmoved]
  cases Calendar.isSummerTime t with
  | true =>
    have hlate : Fits (t + offset * 60 + 3600) := ⟨by omega, by omega⟩
    exact ⟨of_add hlate.1 hlate.2, hlate⟩
  | false =>
    have hsame : Fits (t + offset * 60) := ⟨by omega, by omega⟩
    simp only [Bool.false_eq_true, if_false, Int.add_zero]
    exact ⟨trivial, hsame⟩

theorem localStamp_of (hutc : utc < 2 ^ 62) (hoffset : -2 ^ 31 ≤ offset)
    (hoffset' : offset < 2 ^ 31) :
    localStamp utc offset = some (Calendar.localStamp utc offset) := by
  have hclock : clockSecond utc = of utc := if_pos ⟨by omega, by omega⟩
  obtain ⟨hlocal, hfits⟩ := localSecond_of (t := utc) (by omega) (by omega) hoffset hoffset'
  obtain ⟨hjanuary, hdecember, -, -⟩ := (civilTime_valid (Calendar.localSecond utc offset)).date
  rw [localStamp, hclock, hlocal, civilTime_of hfits, localStamp_eq hutc]
  simp only [Option.bind_eq_bind, Option.bind_some, monthName_of hjanuary hdecember]
  rfl

end Word

/-! ## The time of the node -/

/-- The last second that the node can take for the time. -/
def nodeSecondMax : Nat := (2 ^ 63 - 1) / 1000

/-- The milliseconds of the time are a signed 64-bit number. -/
theorem utcSeconds_le {s : TimeSync} {now : Instant}
    (h : Word.Fits (s.offsetMs + localMillis now)) : s.utcSeconds now ≤ nodeSecondMax := by
  obtain ⟨-, hhigh⟩ := h
  unfold TimeSync.utcSeconds TimeSync.utcMs nodeSecondMax
  omega

/-- For every second that the node can take for the time, of which the last is `nodeSecondMax`, and
for every offset of 32 bits, the stamp is calculated without an overflow and without a month that
has no name.  It has 17 characters and shows date and time of day so many minutes later, and one
more hour later if the second itself is in summer time.  If the next second is on the same side of
a change of the clocks, its stamp shows what the clock reads next. -/
theorem localStamp_shows :
    (∀ (s : TimeSync) (now : Instant), Word.Fits (s.offsetMs + localMillis now) →
      s.utcSeconds now ≤ nodeSecondMax) ∧
    (∃ utc now s, TimeSync.initial utc now = some s ∧ s.utcSeconds now = nodeSecondMax) ∧
    ∀ (utc : Nat) (offset : Int), utc ≤ nodeSecondMax → -2 ^ 31 ≤ offset → offset < 2 ^ 31 →
      ∃ text c, Word.localStamp utc offset = some text ∧ text = localStamp utc offset ∧
        Shows text c ∧ text.length = 17 ∧ c.Valid ∧
        dayNumber c.date * 86400 + 3600 * c.hour + 60 * c.minute + c.second =
          utc + 60 * offset + (if Summer utc then 3600 else 0) ∧
        ((Summer (utc + 1) ↔ Summer utc) →
          ∃ text', Word.localStamp (utc + 1) offset = some text' ∧ Shows text' c.next) := by
  refine ⟨fun s now => utcSeconds_le, ⟨2 ^ 63, 0, _, rfl, by decide⟩,
    fun utc offset hutc hlow hhigh => ?_⟩
  unfold nodeSecondMax at hutc
  have hvalid := civilTime_valid (localSecond utc offset)
  have hshows : Shows (localStamp utc offset) (civilTime (localSecond utc offset)) := by
    rw [localStamp_eq (by omega)]
    exact hvalid.stamp_shows
  refine ⟨_, _, Word.localStamp_of (by omega) hlow hhigh, rfl, hshows, hshows.length_eq, hvalid, ?_,
    fun hsame => ⟨_, Word.localStamp_of (by omega) hlow hhigh, ?_⟩⟩
  · rw [civilTime_second, localSecond_eq]
  · have hnext : localSecond (utc + 1) offset = localSecond utc offset + 1 := by
      simp only [localSecond_eq, hsame]
      omega
    rw [← civilTime_succ, ← hnext, localStamp_eq (by omega)]
    exact (civilTime_valid _).stamp_shows

/-- The last second of a day far before 1970, which the lowest offset makes of one of summer. -/
theorem stamps_of_lowest_offset :
    (1711847279 ≤ nodeSecondMax ∧ Summer 1711847279 ∧ Summer 1711847280) ∧
    Word.localStamp 1711847279 (-2 ^ 31) = some "[Mar 08 23:59:59]" ∧
    ∃ c, Shows "[Mar 08 23:59:59]" c ∧ c.Valid ∧
      dayNumber c.date * 86400 + 3600 * c.hour + 60 * c.minute + c.second = -127137168001 ∧
      ∃ text, Word.localStamp 1711847280 (-2 ^ 31) = some text ∧ Shows text c.next := by
  have hsecond : 1711847279 ≤ nodeSecondMax := by decide
  have hsummer : Summer 1711847279 ∧ Summer 1711847280 := by decide
  have htext : localStamp 1711847279 (-2 ^ 31) = "[Mar 08 23:59:59]" := by decide +kernel
  obtain ⟨-, -, hstamp⟩ := localStamp_shows
  obtain ⟨text, c, hword, hsame, hshows, -, hvalid, hlocal, hnext⟩ :=
    hstamp 1711847279 (-2 ^ 31) hsecond (by decide) (by decide)
  obtain rfl : text = "[Mar 08 23:59:59]" := hsame.trans htext
  refine ⟨⟨hsecond, hsummer⟩, hword, c, hshows, hvalid, ?_, hnext (iff_of_true hsummer.2 hsummer.1)⟩
  rw [hlocal]
  decide

end MeterNode.Calendar
