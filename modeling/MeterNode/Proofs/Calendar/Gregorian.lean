import Mathlib.Tactic.IntervalCases
import Mathlib.Tactic.SplitIfs
import MeterNode.Calendar.Civil

/-!
# The calendar

The Gregorian calendar, as it is told: months have their lengths (`monthLength`), February has a day
more in leap years, and behind every date comes the next (`Date.next`).  The day count of
`Calendar/Civil` is this calendar.  Behind the date of a day comes the date of the next day
(`civilDate_succ`), and a valid date comes back from its day number (`civilDate_dayNumber`).

The calculation begins its years in March.  Then February comes last, so all months have fixed
places in the year and only the end of the year moves.  `InMonth` says where a day is in these
terms.  There is only one such place (`InMonth.unique`).  The calculation of a date finds it
(`civilDate_inMonth`), and a date is valid if its day number is there (`Date.valid_iff`).
-/

namespace MeterNode.Calendar

variable {y m z n : Int} {d e : Date}

/-! ## The calendar -/

/-- A year with a leap day. -/
def isLeap (year : Int) : Bool := year % 4 = 0 && (year % 100 ≠ 0 || year % 400 = 0)

/-- The number of days of a month. -/
def monthLength (year month : Int) : Int :=
  if month = 2 then if isLeap year then 29 else 28
  else if month = 4 ∨ month = 6 ∨ month = 9 ∨ month = 11 then 30
  else 31

theorem monthLength_two (year : Int) : monthLength year 2 = 28 ∨ monthLength year 2 = 29 := by
  rw [monthLength, if_pos rfl]
  omega

theorem one_le_monthLength (year month : Int) : 1 ≤ monthLength year month := by
  unfold monthLength
  omega

namespace Date

/-- The calendar has this date. -/
structure Valid (d : Date) : Prop where
  one_le_month : 1 ≤ d.month
  month_le : d.month ≤ 12
  one_le_day : 1 ≤ d.day
  day_le : d.day ≤ monthLength d.year d.month

instance : Decidable d.Valid :=
  decidable_of_iff (1 ≤ d.month ∧ d.month ≤ 12 ∧ 1 ≤ d.day ∧ d.day ≤ monthLength d.year d.month)
    ⟨fun ⟨h₁, h₂, h₃, h₄⟩ => ⟨h₁, h₂, h₃, h₄⟩, fun ⟨h₁, h₂, h₃, h₄⟩ => ⟨h₁, h₂, h₃, h₄⟩⟩

/-- The date of the next day. -/
def next (d : Date) : Date :=
  if d.day < monthLength d.year d.month then { d with day := d.day + 1 }
  else if d.month < 12 then ⟨d.year, d.month + 1, 1⟩
  else ⟨d.year + 1, 1, 1⟩

theorem Valid.next (h : d.Valid) : d.next.Valid := by
  obtain ⟨hjanuary, hdecember, hfirst, -⟩ := h
  unfold Date.next
  split
  next hday => exact ⟨hjanuary, hdecember, by simp only; omega, hday⟩
  next =>
    split
    next hmonth =>
      exact ⟨by simp only; omega, hmonth, Int.le_refl 1, one_le_monthLength _ _⟩
    next => exact ⟨Int.le_refl 1, by simp, Int.le_refl 1, one_le_monthLength _ _⟩

/-- The year of a date, if years begin in March. -/
def marchYear (d : Date) : Int := if d.month ≤ 2 then d.year - 1 else d.year

/-- The month of a date, counted from March. -/
def marchMonth (d : Date) : Int := if d.month > 2 then d.month - 3 else d.month + 9

end Date

/-- The end of the year 2000, which is a leap year, and of the February of 1900, which is not. -/
example : Date.next ⟨2000, 12, 31⟩ = ⟨2001, 1, 1⟩ ∧ Date.next ⟨1900, 2, 28⟩ = ⟨1900, 3, 1⟩ := by
  decide

/-! ## Years from March to February -/

/-- The days from March of the year zero to March of a year. -/
def yearStart (y : Int) : Int := 365 * y + y / 4 - y / 100 + y / 400

/-- The days from the first of March to the first of a month, counted from March. -/
def monthStart (m : Int) : Int := (153 * m + 2) / 5

theorem yearStart_mono {y₁ y₂ : Int} (h : y₁ ≤ y₂) : yearStart y₁ ≤ yearStart y₂ := by
  unfold yearStart
  omega

theorem yearStart_add_era (y era : Int) :
    yearStart (y + era * 400) = yearStart y + era * 146097 := by
  unfold yearStart
  omega

/-- A year ends with February, 337 days behind its beginning. -/
theorem yearStart_succ (y : Int) :
    yearStart (y + 1) = yearStart y + 337 + monthLength (y + 1) 2 := by
  simp only [yearStart, monthLength, isLeap, Bool.and_eq_true, Bool.or_eq_true, decide_eq_true_eq,
    if_true]
  omega

/-- The other months have fixed lengths. -/
theorem monthStart_succ (hjanuary : 1 ≤ d.month) (hdecember : d.month ≤ 12) (h : d.month ≠ 2) :
    0 ≤ d.marchMonth ∧ d.marchMonth ≤ 10 ∧
      monthStart (d.marchMonth + 1) = monthStart d.marchMonth + monthLength d.year d.month := by
  obtain ⟨year, month, day⟩ := d
  simp only at hjanuary hdecember h
  interval_cases month
  case «2» => exact absurd rfl h
  all_goals simp [Date.marchMonth, monthStart, monthLength]

theorem february (h : d.month = 2) : d.marchMonth = 11 ∧ d.marchYear + 1 = d.year := by
  simp [Date.marchMonth, Date.marchYear, h]

/-! ## Places of days -/

/-- Where a day is that is counted from March of the year zero: its year and its month. -/
structure InMonth (z y m : Int) : Prop where
  zero_le : 0 ≤ m
  le : m ≤ 11
  month_start : yearStart y + monthStart m ≤ z
  month_end : z < yearStart y + monthStart (m + 1)
  year_end : z < yearStart (y + 1)

theorem InMonth.unique {y' m' : Int} (h : InMonth z y m) (h' : InMonth z y' m') :
    y = y' ∧ m = m' := by
  obtain ⟨hzero, hlast, hstart, hend, hyear⟩ := h
  obtain ⟨hzero', hlast', hstart', hend', hyear'⟩ := h'
  have hsame : y = y' := by
    unfold monthStart at hstart hstart'
    rcases Int.lt_trichotomy y y' with hlt | heq | hlt
    · have hle := yearStart_mono (Int.add_one_le_of_lt hlt)
      omega
    · exact heq
    · have hle := yearStart_mono (Int.add_one_le_of_lt hlt)
      omega
  subst hsame
  unfold monthStart at hstart hstart' hend hend'
  exact ⟨rfl, by omega⟩

theorem dayNumber_eq :
    dayNumber d = yearStart d.marchYear + monthStart d.marchMonth + d.day - 1 - 719468 := by
  have hera (y : Int) : y / 400 * 146097 + (y % 400 * 365 + y % 400 / 4 - y % 400 / 100) =
      yearStart y := by
    unfold yearStart
    omega
  rw [← hera]
  simp only [dayNumber, Date.marchYear, Date.marchMonth, monthStart]
  omega

/-- A date is valid if its day number is in its month. -/
theorem Date.valid_iff (hjanuary : 1 ≤ d.month) (hdecember : d.month ≤ 12) :
    d.Valid ↔ InMonth (dayNumber d + 719468) d.marchYear d.marchMonth := by
  have hdays : d.Valid ↔ 1 ≤ d.day ∧ d.day ≤ monthLength d.year d.month :=
    ⟨fun h => ⟨h.one_le_day, h.day_le⟩, fun h => ⟨hjanuary, hdecember, h.1, h.2⟩⟩
  have hyear := yearStart_succ d.marchYear
  have hfebruary := monthLength_two (d.marchYear + 1)
  rw [hdays, dayNumber_eq]
  by_cases hmonth : d.month = 2
  · obtain ⟨hlast, hnext⟩ := february hmonth
    have hstart : monthStart 11 = 337 ∧ monthStart (11 + 1) = 367 := by decide
    rw [hmonth, hlast, ← hnext]
    constructor
    · rintro ⟨hfirst, hday⟩
      constructor <;> omega
    · rintro ⟨-, -, hfirst, -, hday⟩
      omega
  · obtain ⟨hzero, hten, hnext⟩ := monthStart_succ hjanuary hdecember hmonth
    have hstart : monthStart (d.marchMonth + 1) ≤ 337 := by
      rw [monthStart]
      omega
    constructor
    · rintro ⟨hfirst, hday⟩
      constructor <;> omega
    · rintro ⟨-, -, hfirst, hday, -⟩
      omega

/-- Valid dates on the same day are the same. -/
theorem Date.Valid.ext (hd : d.Valid) (he : e.Valid) (h : dayNumber d = dayNumber e) : d = e := by
  have hind := (Date.valid_iff hd.one_le_month hd.month_le).1 hd
  have hine := (Date.valid_iff he.one_le_month he.month_le).1 he
  rw [h] at hind
  obtain ⟨hyear, hmonth⟩ := hind.unique hine
  rw [dayNumber_eq, dayNumber_eq, hyear, hmonth] at h
  obtain ⟨year, month, day⟩ := d
  obtain ⟨year', month', day'⟩ := e
  obtain ⟨hjanuary, hdecember, -, -⟩ := hd
  obtain ⟨hjanuary', hdecember', -, -⟩ := he
  simp only [marchYear, marchMonth, Date.mk.injEq] at *
  omega

/-! ## The date of a day -/

/-- The year of a day of an era.  The divisions take the leap days off, of which at the end of a
century one too many has been counted. -/
theorem yearStart_of_dayOfEra {z : Int} (hzero : 0 ≤ z) (hera : z < 146097)
    (hy : y = (z - z / 1460 + z / 36524 - z / 146096) / 365) :
    0 ≤ y ∧ y < 400 ∧ yearStart y ≤ z ∧ z < yearStart (y + 1) := by
  unfold yearStart
  have hyears : 0 ≤ y ∧ y < 400 := by omega
  have hlow : y / 4 ≤ z / 1460 := by omega
  have hhigh : z / 1460 ≤ (y + 1) / 4 := by omega
  have hcentury : y / 100 ≤ z / 36524 := by omega
  refine ⟨hyears.1, hyears.2, ?_, ?_⟩
  · by_cases hsame : z / 36524 = y / 100
    · omega
    · omega
  · have hleaps : 25 * ((y + 1) / 100) ≤ (y + 1) / 4 := by omega
    by_cases hsame : (y + 1) / 100 ≤ z / 36524
    · omega
    · omega

/-- What the date of a day is calculated by: the day of the era, the year of the era, the day of the
year and the month. -/
structure Located (z dayOfEra y dayOfYear m : Int) : Prop where
  dayOfEra_eq : dayOfEra = z % 146097
  year_eq : y = (dayOfEra - dayOfEra / 1460 + dayOfEra / 36524 - dayOfEra / 146096) / 365
  dayOfYear_eq : dayOfYear = dayOfEra - (365 * y + y / 4 - y / 100)
  month_eq : m = (5 * dayOfYear + 2) / 153

theorem exists_located (z : Int) : ∃ dayOfEra y dayOfYear m, Located z dayOfEra y dayOfYear m :=
  ⟨_, _, _, _, rfl, rfl, rfl, rfl⟩

namespace Located

variable {dayOfEra dayOfYear : Int}

theorem year (h : Located z dayOfEra y dayOfYear m) : 0 ≤ y ∧ y < 400 ∧
    dayOfYear = dayOfEra - yearStart y ∧ 0 ≤ dayOfYear ∧ dayOfEra < yearStart (y + 1) := by
  obtain ⟨hera, hyear, hday, -⟩ := h
  obtain ⟨hzero, hlt, hstart, hend⟩ := yearStart_of_dayOfEra (by omega) (by omega) hyear
  have hsame : dayOfYear = dayOfEra - yearStart y := by
    rw [hday, yearStart]
    omega
  exact ⟨hzero, hlt, hsame, by omega, hend⟩

theorem month (h : Located z dayOfEra y dayOfYear m) :
    0 ≤ m ∧ m ≤ 11 ∧ monthStart m ≤ dayOfYear ∧ dayOfYear < monthStart (m + 1) := by
  obtain ⟨-, -, hsame, hday, hend⟩ := h.year
  have hmonth := h.month_eq
  have hyear := yearStart_succ y
  have hfebruary := monthLength_two (y + 1)
  unfold monthStart
  omega

theorem civilDate_eq (h : Located (n + 719468) dayOfEra y dayOfYear m) : civilDate n =
    ⟨y + (n + 719468) / 146097 * 400 + if (if m < 10 then m + 3 else m - 9) ≤ 2 then 1 else 0,
      if m < 10 then m + 3 else m - 9, dayOfYear - (153 * m + 2) / 5 + 1⟩ := by
  obtain ⟨rfl, rfl, rfl, rfl⟩ := h
  rfl

end Located

/-- The date of a day has the place of the day. -/
theorem civilDate_inMonth (n : Int) : ∃ y m, InMonth (n + 719468) y m ∧
    1 ≤ (civilDate n).month ∧ (civilDate n).month ≤ 12 ∧
    (civilDate n).marchYear = y ∧ (civilDate n).marchMonth = m ∧
    (civilDate n).day = n + 719468 - (yearStart y + monthStart m) + 1 := by
  obtain ⟨dayOfEra, y, dayOfYear, m, h⟩ := exists_located (n + 719468)
  obtain ⟨-, -, hday, -, hend⟩ := h.year
  obtain ⟨hmarch, hfebruary, hstart, hnext⟩ := h.month
  have hera := h.dayOfEra_eq
  have hyear := yearStart_add_era y ((n + 719468) / 146097)
  have hyear' := yearStart_add_era (y + 1) ((n + 719468) / 146097)
  rw [Int.add_right_comm] at hyear'
  refine ⟨y + (n + 719468) / 146097 * 400, m, ⟨hmarch, hfebruary, ?_, ?_, ?_⟩, ?_⟩
  · omega
  · omega
  · omega
  · rw [h.civilDate_eq, ← monthStart]
    simp only [Date.marchYear, Date.marchMonth]
    omega

theorem civilDate_valid (n : Int) : (civilDate n).Valid ∧ dayNumber (civilDate n) = n := by
  obtain ⟨y, m, hin, hjanuary, hdecember, rfl, rfl, hday⟩ := civilDate_inMonth n
  have hnumber : dayNumber (civilDate n) = n := by
    rw [dayNumber_eq, hday]
    omega
  refine ⟨(Date.valid_iff hjanuary hdecember).2 ?_, hnumber⟩
  rwa [hnumber]

/-- A valid date comes back from its day number. -/
theorem civilDate_dayNumber (h : d.Valid) : civilDate (dayNumber d) = d :=
  (civilDate_valid _).1.ext h (civilDate_valid _).2

/-! ## The next day -/

theorem dayNumber_next (h : d.Valid) : dayNumber d.next = dayNumber d + 1 := by
  obtain ⟨hjanuary, hdecember, -, hday⟩ := h
  simp only [dayNumber_eq]
  unfold Date.next
  split
  next =>
    simp only [Date.marchYear, Date.marchMonth]
    omega
  next hlast =>
    have hend : d.day = monthLength d.year d.month := Int.le_antisymm hday (Int.not_lt.1 hlast)
    by_cases hmonth : d.month = 2
    · have hyear := yearStart_succ d.marchYear
      obtain ⟨hfebruary, hnext⟩ := february hmonth
      have hmarch : Date.marchMonth ⟨d.year, 2 + 1, 1⟩ = 0 ∧
          Date.marchYear ⟨d.year, 2 + 1, 1⟩ = d.year := ⟨rfl, rfl⟩
      have hstart : monthStart 0 = 0 ∧ monthStart 11 = 337 := by decide
      rw [hnext] at hyear
      rw [if_pos (by omega), hend, hfebruary, hmonth, hmarch.1, hmarch.2]
      simp only
      omega
    · obtain ⟨-, -, hnext⟩ := monthStart_succ hjanuary hdecember hmonth
      obtain ⟨first, hfirst, hday, hmarch, hyear⟩ : ∃ first : Date,
          (if d.month < 12 then (⟨d.year, d.month + 1, 1⟩ : Date) else ⟨d.year + 1, 1, 1⟩) = first ∧
          first.day = 1 ∧ first.marchMonth = d.marchMonth + 1 ∧ first.marchYear = d.marchYear := by
        refine ⟨_, rfl, ?_⟩
        split
        all_goals
          refine ⟨rfl, ?_⟩
          simp only [Date.marchMonth, Date.marchYear]
          split_ifs <;> omega
      rw [hfirst, hday, hmarch, hyear, hnext, hend]
      omega

/-- Behind the date of a day comes the date of the next day. -/
theorem civilDate_succ (n : Int) : civilDate (n + 1) = (civilDate n).next := by
  obtain ⟨hvalid, hnumber⟩ := civilDate_valid n
  have hnext := dayNumber_next hvalid
  rw [hnumber] at hnext
  rw [← hnext, civilDate_dayNumber hvalid.next]

end MeterNode.Calendar
