import MeterNode.Calendar.LocalTime
import MeterNode.Proofs.Calendar.Words

/-!
# Summer time

Clocks change at 01:00 UTC of a Sunday.  A month of thirty-one days has one Sunday among the last
seven, and the weekday of the thirty-first leads back to it without leaving the month
(`lastSunday_iff`).  March to October lie in the same year whether it begins in January or in March,
so summer time begins and ends in the year of every second between its two ends
(`year_of_march_october`).

`Word.isSummerTime` is the same calculation in signed 64-bit arithmetic.  In the first year of a
64-bit clock and in its last one both changes are still seconds of that clock, so nothing overflows
(`Word.isSummerTime_of`).
-/

namespace MeterNode.Calendar

variable {y t n day : Int} {d : Date}

/-! ## Sundays -/

/-- A Sunday among the last seven days of a month of thirty-one. -/
structure Date.LastSunday (d : Date) : Prop where
  twentyfifth_le : 25 ≤ d.day
  le_thirtyfirst : d.day ≤ 31
  sunday : weekday (dayNumber d) = 0

theorem dayNumber_thirtyfirst (d : Date) :
    dayNumber d = dayNumber { d with day := 31 } - (31 - d.day) := by
  simp only [dayNumber]
  omega

/-- The last Sunday is as many days ahead of the thirty-first as the weekday of that says. -/
theorem lastSunday_iff : d.LastSunday ↔ d.day = 31 - weekday (dayNumber { d with day := 31 }) := by
  have hday := dayNumber_thirtyfirst d
  unfold weekday
  constructor
  · rintro ⟨hlow, hhigh, hsunday⟩
    unfold weekday at hsunday
    omega
  · intro h
    exact ⟨by omega, by omega, by unfold weekday; omega⟩

theorem exists_lastSunday (year month : Int) :
    ∃ last, ∀ day, Date.LastSunday ⟨year, month, day⟩ ↔ day = last :=
  ⟨31 - weekday (dayNumber ⟨year, month, 31⟩), fun _ => lastSunday_iff⟩

/-- Clocks change at one o'clock of the last Sunday. -/
theorem Date.LastSunday.clockChange_eq (h : d.LastSunday) :
    clockChange d.year d.month = dayNumber d * 86400 + 3600 := by
  have hday := dayNumber_thirtyfirst d
  have hsunday := lastSunday_iff.1 h
  simp only [clockChange, secondsPerDay]
  omega

theorem Date.LastSunday.valid (h : d.LastSunday) (hmonth : d.month = 3 ∨ d.month = 10) :
    d.Valid := by
  obtain ⟨hlow, hhigh, -⟩ := h
  have hlength : monthLength d.year d.month = 31 := by
    unfold monthLength
    omega
  exact ⟨by omega, by omega, by omega, by omega⟩

/-- The time at one o'clock of the last Sunday. -/
theorem Date.LastSunday.civilTime_clockChange (h : d.LastSunday)
    (hmonth : d.month = 3 ∨ d.month = 10) :
    civilTime (clockChange d.year d.month) = ⟨d, 1, 0, 0, 0⟩ := by
  have hdays : (dayNumber d * 86400 + 3600) / 86400 = dayNumber d := by omega
  have hrest : (dayNumber d * 86400 + 3600) % 86400 = 3600 := by omega
  rw [h.clockChange_eq]
  simp only [civilTime, secondsPerDay, hdays, hrest, h.sunday, civilDate_dayNumber (h.valid hmonth)]
  rfl

/-! ## Years -/

theorem dayNumber_march : dayNumber ⟨y, 3, day⟩ = yearStart y + day - 719469 := by
  have hmonth : monthStart (Date.marchMonth ⟨y, 3, day⟩) = 0 := rfl
  rw [dayNumber_eq, hmonth, show Date.marchYear ⟨y, 3, day⟩ = y from rfl]
  simp only
  omega

theorem dayNumber_october : dayNumber ⟨y, 10, day⟩ = yearStart y + 214 + day - 719469 := by
  have hmonth : monthStart (Date.marchMonth ⟨y, 10, day⟩) = 214 := rfl
  rw [dayNumber_eq, hmonth, show Date.marchYear ⟨y, 10, day⟩ = y from rfl]
  simp only
  omega

/-- All days from the first of March to the end of October lie in the year of these. -/
theorem year_of_march_october (hmarch : dayNumber ⟨y, 3, 1⟩ ≤ n)
    (hoctober : n ≤ dayNumber ⟨y, 10, 31⟩) : (civilDate n).year = y := by
  rw [dayNumber_march] at hmarch
  rw [dayNumber_october] at hoctober
  obtain ⟨y', m, ⟨hzero, -, hstart, -, hnext⟩, hjanuary, hdecember, hyear, hmonth, -⟩ :=
    civilDate_inMonth n
  have hlength := monthLength_two (y + 1)
  have hsucc := yearStart_succ y
  have hsame : y' = y := by
    unfold monthStart at hstart
    rcases Int.lt_trichotomy y' y with hlt | heq | hlt
    · have hle := yearStart_mono (Int.add_one_le_of_lt hlt)
      omega
    · exact heq
    · have hle := yearStart_mono (Int.add_one_le_of_lt hlt)
      omega
  subst hsame
  unfold monthStart at hstart
  unfold Date.marchYear at hyear
  unfold Date.marchMonth at hmonth
  omega

/-! ## In 64-bit arithmetic -/

/-- The first and the last year of a 64-bit clock, and all between them. -/
def Word.ClockYear (year : Int) : Prop := -292277022657 ≤ year ∧ year ≤ 292277026596

theorem Word.Fits.clockYear (h : Word.Fits t) :
    Word.ClockYear (Calendar.civilTime t).date.year := by
  obtain ⟨hlow, hhigh⟩ := h
  obtain ⟨y', m, ⟨hzero, hlast, hstart, hend, -⟩, hjanuary, hdecember, hyear, hmonth, -⟩ :=
    civilDate_inMonth (t / 86400)
  simp only [Calendar.civilTime, secondsPerDay]
  unfold yearStart monthStart at *
  unfold Date.marchYear at hyear
  unfold Date.marchMonth at hmonth
  unfold Word.ClockYear
  omega

/-- Both changes of the year of a 64-bit clock are seconds of that clock. -/
theorem Word.ClockYear.fits {month : Int} (h : Word.ClockYear y) (hmonth : month = 3 ∨ month = 10) :
    Word.Fits (clockChange y month) := by
  obtain ⟨hlow, hhigh⟩ := h
  have hfirst := yearStart_mono hlow
  have hlast := yearStart_mono hhigh
  have hstarts : yearStart (-292277022657) = -106751991167268 + 719468 ∧
      yearStart 292277026596 = 106751991167022 + 719468 := by decide
  unfold Word.Fits
  simp only [clockChange, secondsPerDay, weekday]
  rcases hmonth with rfl | rfl
  · rw [dayNumber_march]
    omega
  · rw [dayNumber_october]
    omega

namespace Word

/-- `Calendar.clockChange` on words. -/
def clockChange (year month : Int) : Word :=
  let last := dayNumber ⟨year, month, 31⟩
  (last - (last + 4).floorMod 7) * 86400 + 3600

/-- `Calendar.isSummerTime` on words. -/
def isSummerTime (utc : Word) : Option Bool := do
  let year := (← civilTime utc).date.year
  let start ← clockChange year 3
  let finish ← clockChange year 10
  let second ← utc
  return start ≤ second && second < finish

theorem clockChange_of {month : Int} (h : ClockYear y) (hmonth : month = 3 ∨ month = 10) :
    clockChange y month = of (Calendar.clockChange y month) := by
  have hfits := h.fits hmonth
  obtain ⟨hlow, hhigh⟩ := h
  have hvalid : Date.Valid ⟨y, month, 31⟩ := by
    have hlength : monthLength y month = 31 := by
      unfold monthLength
      omega
    exact ⟨by simp only; omega, by simp only; omega, by simp, by simp [hlength]⟩
  have hnumber : dayNumber ⟨y, month, 31⟩ = of (Calendar.dayNumber ⟨y, month, 31⟩) :=
    dayNumber_of hvalid (by unfold dayMax; simp only; omega) (by unfold dayMax; simp only; omega)
  simp only [clockChange, hnumber]
  unfold Fits at hfits
  simp only [Calendar.clockChange, secondsPerDay, weekday] at hfits ⊢
  simp (disch := omega) only [ofNat_eq, of_add, floorMod_of, of_sub, of_mul]

theorem isSummerTime_of (h : Fits t) :
    isSummerTime (of t) = some (Calendar.isSummerTime t) := by
  have hyear := h.clockYear
  have hstart := clockChange_of hyear (Or.inl rfl)
  have hfinish := clockChange_of hyear (Or.inr rfl)
  simp only [isSummerTime, civilTime_of h, Option.bind_eq_bind, Option.bind_some, hstart, hfinish]
  rfl

end Word

/-! ## Summer time of a year -/

/-- A second of a year is one of summer time if it is between the changes of that year, and no other
second is between them. -/
theorem isSummerTime_iff {march october : Int} (hmarch : Date.LastSunday ⟨y, 3, march⟩)
    (hoctober : Date.LastSunday ⟨y, 10, october⟩) :
    (civilTime t).date.year = y ∧ isSummerTime t = true ↔
      clockChange y 3 ≤ t ∧ t < clockChange y 10 := by
  have hsummer (hyear : (civilTime t).date.year = y) :
      isSummerTime t = true ↔ clockChange y 3 ≤ t ∧ t < clockChange y 10 := by
    simp only [isSummerTime, hyear, Bool.and_eq_true, decide_eq_true_eq]
  constructor
  · rintro ⟨hyear, h⟩
    exact (hsummer hyear).1 h
  · intro h
    have hstart := hmarch.clockChange_eq
    have hfinish := hoctober.clockChange_eq
    obtain ⟨hfirst, -, -⟩ := hmarch
    obtain ⟨-, hlast, -⟩ := hoctober
    simp only [dayNumber_march, dayNumber_october] at hstart hfinish hfirst hlast
    have hyear : (civilTime t).date.year = y := by
      refine year_of_march_october ?_ ?_
      · rw [dayNumber_march, secondsPerDay]
        omega
      · rw [dayNumber_october, secondsPerDay]
        omega
    exact ⟨hyear, (hsummer hyear).2 h⟩

/-- Every March and every October has one Sunday among its last seven days, and summer time lasts
from 01:00 UTC of the one to 01:00 UTC of the other: of all seconds, those between these two are the
ones that lie in this year and in summer time.  On a 64-bit clock summer time is calculated without
an overflow, and the clock shows both changes of each of its years. -/
theorem isSummerTime_of_year (y : Int) : ∃ march october start finish : Int,
    (∀ day, Date.LastSunday ⟨y, 3, day⟩ ↔ day = march) ∧
    (∀ day, Date.LastSunday ⟨y, 10, day⟩ ↔ day = october) ∧
    civilTime start = ⟨⟨y, 3, march⟩, 1, 0, 0, 0⟩ ∧
    civilTime finish = ⟨⟨y, 10, october⟩, 1, 0, 0, 0⟩ ∧ start < finish ∧
    (∀ t, (civilTime t).date.year = y ∧ isSummerTime t = true ↔ start ≤ t ∧ t < finish) ∧
    ∀ t, Word.Fits t → (civilTime t).date.year = y →
      Word.isSummerTime (.of t) = some (isSummerTime t) ∧ Word.Fits start ∧ Word.Fits finish := by
  obtain ⟨march, hmarch⟩ := exists_lastSunday y 3
  obtain ⟨october, hoctober⟩ := exists_lastSunday y 10
  have hspring := (hmarch march).2 rfl
  have hautumn := (hoctober october).2 rfl
  have hlasts : clockChange y 3 < clockChange y 10 := by
    have hstart := hspring.clockChange_eq
    have hfinish := hautumn.clockChange_eq
    obtain ⟨-, hlast, -⟩ := hspring
    obtain ⟨hfirst, -, -⟩ := hautumn
    simp only [dayNumber_march, dayNumber_october] at hstart hfinish hfirst hlast
    omega
  refine ⟨march, october, clockChange y 3, clockChange y 10, hmarch, hoctober,
    hspring.civilTime_clockChange (Or.inl rfl), hautumn.civilTime_clockChange (Or.inr rfl), hlasts,
    fun t => isSummerTime_iff hspring hautumn, fun t ht hyear => ?_⟩
  have hclock := ht.clockYear
  rw [hyear] at hclock
  exact ⟨Word.isSummerTime_of ht, hclock.fits (Or.inl rfl), hclock.fits (Or.inr rfl)⟩

/-- The first second of a 64-bit clock is in a January, and that year has a summer. -/
theorem isSummerTime_of_first_year :
    Word.Fits (-2 ^ 63) ∧ (civilTime (-2 ^ 63)).date.year = -292277022657 ∧
    Word.isSummerTime (.of (-2 ^ 63)) = some false ∧
    ∃ start finish, civilTime start = ⟨⟨-292277022657, 3, 31⟩, 1, 0, 0, 0⟩ ∧
      civilTime finish = ⟨⟨-292277022657, 10, 27⟩, 1, 0, 0, 0⟩ ∧
      Word.Fits start ∧ Word.Fits finish ∧ isSummerTime start = true := by
  have hfits : Word.Fits (-2 ^ 63) := by decide
  have hyear : (civilTime (-2 ^ 63)).date.year = -292277022657 := by decide
  obtain ⟨march, october, start, finish, hmarch, hoctober, hstart, hfinish, hlasts, hsummer,
    hclock⟩ := isSummerTime_of_year (-292277022657)
  obtain ⟨hword, hfits₁, hfits₂⟩ := hclock _ hfits hyear
  obtain rfl : 31 = march := (hmarch 31).1 ⟨by decide, by decide, by decide⟩
  obtain rfl : 27 = october := (hoctober 27).1 ⟨by decide, by decide, by decide⟩
  have hwinter : isSummerTime (-2 ^ 63) = false := by decide
  rw [hwinter] at hword
  exact ⟨hfits, hyear, hword, start, finish, hstart, hfinish, hfits₁, hfits₂,
    ((hsummer start).2 ⟨Int.le_refl _, hlasts⟩).2⟩

end MeterNode.Calendar
