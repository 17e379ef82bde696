import MeterNode.Proofs.Calendar.Gregorian

/-!
# The calendar in 64-bit arithmetic

The calendar is calculated with whole numbers of any size.  Here every operation of that calculation
is done on signed 64-bit numbers and comes to nothing if its result is none, and so does everything
that goes on from there (`Word`).  Division cuts towards zero where it is not said to round down,
and the parts of a date and of a time of day, the year apart, have to fit into a byte.

On every second of a signed 64-bit clock this comes to the same date and time (`civilTime_of`), so
no operation overflows, and it makes no difference how the divisions round.  With what is known of
the calendar this gives the main result, `civilTime_gregorian`.
-/

namespace MeterNode.Calendar

/-! ## Words -/

/-- What a calculation with signed 64-bit numbers has come to: nothing, if it has overflowed. -/
def Word : Type := Option Int

namespace Word

variable {a b n : Int}

/-- The number is a signed 64-bit number. -/
def Fits (n : Int) : Prop := -2 ^ 63 ≤ n ∧ n < 2 ^ 63

instance : Decidable (Fits n) := inferInstanceAs (Decidable (_ ∧ _))

/-- A number that is at hand. -/
def of (n : Int) : Word := some n

/-- An operation, whose result has to fit. -/
def operate (op : Int → Int → Int) : Word → Word → Word
  | some a, some b => if Fits (op a b) then of (op a b) else none
  | _, _ => none

instance : Add Word := ⟨operate (· + ·)⟩

instance : Sub Word := ⟨operate (· - ·)⟩

instance : Mul Word := ⟨operate (· * ·)⟩

/-- Division cuts towards zero. -/
instance : Div Word := ⟨operate Int.tdiv⟩

/-- The remainder of a division that cuts towards zero. -/
instance : Mod Word := ⟨operate Int.tmod⟩

instance (n : Nat) : OfNat Word n := ⟨of n⟩

/-- Division that rounds down. -/
def floorDiv : Word → Word → Word := operate (· / ·)

/-- The remainder of a division that rounds down. -/
def floorMod : Word → Word → Word := operate (· % ·)

/-- The number as a byte, in which it has to fit. -/
def byte : Word → Word
  | some n => if 0 ≤ n ∧ n < 256 then of n else none
  | none => none

/-- The number is at most some limit. -/
def atMost (w : Word) (limit : Int) : Bool := Option.any (fun n => decide (n ≤ limit)) w

/-! ### Operations that fit -/

theorem ofNat_eq {n : Nat} [n.AtLeastTwo] : (OfNat.ofNat n : Word) = of (OfNat.ofNat n) := rfl

theorem zero_eq : (0 : Word) = of 0 := rfl

theorem one_eq : (1 : Word) = of 1 := rfl

theorem of_add (hlow : -2 ^ 63 ≤ a + b) (hhigh : a + b < 2 ^ 63) : of a + of b = of (a + b) :=
  if_pos ⟨hlow, hhigh⟩

theorem of_sub (hlow : -2 ^ 63 ≤ a - b) (hhigh : a - b < 2 ^ 63) : of a - of b = of (a - b) :=
  if_pos ⟨hlow, hhigh⟩

theorem of_mul (hlow : -2 ^ 63 ≤ a * b) (hhigh : a * b < 2 ^ 63) : of a * of b = of (a * b) :=
  if_pos ⟨hlow, hhigh⟩

theorem floorDiv_of (hlow : -2 ^ 63 ≤ a / b) (hhigh : a / b < 2 ^ 63) :
    floorDiv (of a) (of b) = of (a / b) :=
  if_pos ⟨hlow, hhigh⟩

theorem floorMod_of (hlow : -2 ^ 63 ≤ a % b) (hhigh : a % b < 2 ^ 63) :
    floorMod (of a) (of b) = of (a % b) :=
  if_pos ⟨hlow, hhigh⟩

/-- Cutting towards zero is rounding down where there is nothing negative. -/
theorem of_div (hzero : 0 ≤ a) (hlow : -2 ^ 63 ≤ a / b) (hhigh : a / b < 2 ^ 63) :
    of a / of b = of (a / b) := by
  rw [← Int.tdiv_eq_ediv_of_nonneg hzero] at hlow hhigh ⊢
  exact if_pos ⟨hlow, hhigh⟩

theorem of_mod (hzero : 0 ≤ a) (hlow : -2 ^ 63 ≤ a % b) (hhigh : a % b < 2 ^ 63) :
    of a % of b = of (a % b) := by
  rw [← Int.tmod_eq_emod_of_nonneg hzero] at hlow hhigh ⊢
  exact if_pos ⟨hlow, hhigh⟩

theorem byte_of (hlow : 0 ≤ n) (hhigh : n < 256) : byte (of n) = of n := if_pos ⟨hlow, hhigh⟩

theorem atMost_of : (of a).atMost b = decide (a ≤ b) := rfl

/-! ## The calculations -/

/-- `Calendar.civilDate` on words. -/
def civilDate (days : Word) : Option Date := do
  let z := days + 719468
  let era := z.floorDiv 146097
  let dayOfEra := z.floorMod 146097
  let yearOfEra := (dayOfEra - dayOfEra / 1460 + dayOfEra / 36524 - dayOfEra / 146096) / 365
  let dayOfYear := dayOfEra - (365 * yearOfEra + yearOfEra / 4 - yearOfEra / 100)
  let shifted := (5 * dayOfYear + 2) / 153
  let day := (dayOfYear - (153 * shifted + 2) / 5 + 1).byte
  let month := (if shifted.atMost 9 then shifted + 3 else shifted - 9).byte
  let year := yearOfEra + era * 400 + if month.atMost 2 then 1 else 0
  return ⟨← year, ← month, ← day⟩

/-- `Calendar.dayNumber` on words. -/
def dayNumber (d : Date) : Word :=
  let year := if d.month ≤ 2 then of d.year - 1 else of d.year
  let era := year.floorDiv 400
  let yearOfEra := year.floorMod 400
  let shifted := if d.month > 2 then of d.month - 3 else of d.month + 9
  let dayOfYear := (153 * shifted + 2) / 5 + of d.day - 1
  let dayOfEra := yearOfEra * 365 + yearOfEra / 4 - yearOfEra / 100 + dayOfYear
  era * 146097 + dayOfEra - 719468

/-- `Calendar.civilTime` on words. -/
def civilTime (seconds : Word) : Option CivilTime := do
  let days := seconds.floorDiv 86400
  let rest := seconds.floorMod 86400
  let hour := (rest / 3600).byte
  let minute := (rest % 3600 / 60).byte
  let second := (rest % 60).byte
  let weekday := ((days + 4).floorMod 7).byte
  return ⟨← civilDate days, ← hour, ← minute, ← second, ← weekday⟩

/-- The farthest day that is looked at.  The seconds of its beginning are no 64-bit number. -/
def dayMax : Int := 10 ^ 15

theorem civilDate_of (hlow : -dayMax ≤ n) (hhigh : n ≤ dayMax) :
    civilDate (of n) = some (Calendar.civilDate n) := by
  obtain ⟨dayOfEra, y, dayOfYear, m, h⟩ := exists_located (n + 719468)
  obtain ⟨hy, hy', -, hday, -⟩ := h.year
  obtain ⟨hm, hm', hstart, hend⟩ := h.month
  rw [h.civilDate_eq]
  obtain ⟨hera, hyear, hdays, hmonth⟩ := h
  have hdays' : dayOfYear < 367 := by
    unfold monthStart at hend
    omega
  unfold monthStart at hstart hend
  unfold dayMax at hlow hhigh
  simp (disch := omega) only [civilDate, ofNat_eq, one_eq, of_add, floorDiv_of, floorMod_of, ← hera,
    of_div, of_sub, of_mul, ← hyear, ← hdays, ← hmonth, atMost_of, decide_eq_true_eq]
  -- the month, with its two cases in one word
  have hshifted : (if m ≤ 9 then of (m + 3) else of (m - 9)) =
      of (if m < 10 then m + 3 else m - 9) := by
    rw [← apply_ite of, if_congr Int.lt_add_one_iff.symm rfl rfl]
    rfl
  obtain ⟨month, hmonths⟩ : ∃ month, month = if m < 10 then m + 3 else m - 9 := ⟨_, rfl⟩
  have hrange : 1 ≤ month ∧ month ≤ 12 := by omega
  have hbump : (if month ≤ 2 then of 1 else of 0) = of (if month ≤ 2 then 1 else 0) := by
    split_ifs <;> rfl
  rw [hshifted, ← hmonths]
  simp (disch := omega) only [byte_of, atMost_of, zero_eq, decide_eq_true_eq, hbump, of_add]
  rfl

theorem civilDate_year_le (hlow : -dayMax ≤ n) (hhigh : n ≤ dayMax) :
    -dayMax ≤ (Calendar.civilDate n).year ∧ (Calendar.civilDate n).year ≤ dayMax := by
  obtain ⟨dayOfEra, y, dayOfYear, m, h⟩ := exists_located (n + 719468)
  obtain ⟨hy, hy', -, -, -⟩ := h.year
  rw [h.civilDate_eq]
  unfold dayMax at *
  simp only
  omega

theorem dayNumber_of {d : Date} (hvalid : d.Valid) (hlow : -dayMax ≤ d.year)
    (hhigh : d.year ≤ dayMax) : dayNumber d = of (Calendar.dayNumber d) := by
  obtain ⟨hjanuary, hdecember, hfirst, hlast⟩ := hvalid
  have hday : d.day ≤ 31 := by
    unfold monthLength at hlast
    omega
  obtain ⟨year, hyear⟩ : ∃ year, year = if d.month ≤ 2 then d.year - 1 else d.year := ⟨_, rfl⟩
  obtain ⟨m, hm⟩ : ∃ m, m = if d.month > 2 then d.month - 3 else d.month + 9 := ⟨_, rfl⟩
  unfold dayMax at hlow hhigh
  have hyears : (if d.month ≤ 2 then of d.year - 1 else of d.year) = of year := by
    rw [hyear]
    split_ifs
    · simp (disch := omega) only [one_eq, of_sub]
    · rfl
  have hmonths : (if d.month > 2 then of d.month - 3 else of d.month + 9) = of m := by
    rw [hm]
    split_ifs <;> simp (disch := omega) only [ofNat_eq, of_sub, of_add]
  simp only [dayNumber, hyears, hmonths, Calendar.dayNumber, ← hyear, ← hm]
  simp (disch := omega) only [ofNat_eq, one_eq, floorDiv_of, floorMod_of, of_mul, of_add, of_sub,
    of_div]

theorem civilTime_of (h : Fits n) : civilTime (of n) = some (Calendar.civilTime n) := by
  obtain ⟨hlow, hhigh⟩ := h
  have hdate : civilDate (of (n / 86400)) = some (Calendar.civilDate (n / 86400)) := by
    refine civilDate_of ?_ ?_ <;> unfold dayMax <;> omega
  simp (disch := omega) only [civilTime, ofNat_eq, floorDiv_of, floorMod_of, of_add, of_div, of_mod,
    byte_of, hdate]
  rfl

end Word

/-! ## Dates and times of seconds -/

/-- The calendar has this date, and the day this time. -/
structure CivilTime.Valid (c : CivilTime) : Prop where
  date : c.date.Valid
  hour : 0 ≤ c.hour ∧ c.hour < 24
  minute : 0 ≤ c.minute ∧ c.minute < 60
  second : 0 ≤ c.second ∧ c.second < 60
  weekday : 0 ≤ c.weekday ∧ c.weekday < 7

theorem civilTime_valid (t : Int) : (civilTime t).Valid where
  date := (civilDate_valid _).1
  hour := by simp only [civilTime, secondsPerDay]; omega
  minute := by simp only [civilTime, secondsPerDay]; omega
  second := by simp only [civilTime, secondsPerDay]; omega
  weekday := by simp only [civilTime, weekday]; omega

/-- The time comes back from its parts. -/
theorem civilTime_second (t : Int) : dayNumber (civilTime t).date * 86400 +
    3600 * (civilTime t).hour + 60 * (civilTime t).minute + (civilTime t).second = t := by
  simp only [civilTime, (civilDate_valid _).2, secondsPerDay]
  omega

/-- The dates are those of the Gregorian calendar: the count begins with the first of January of
1970, behind every date comes the next, and every valid date comes back from its day number.  For
every second of a signed 64-bit clock, date and time are calculated without an overflow, in both
directions.  They are valid, the weekday goes on from the Thursday on which the count begins, and
the second comes back from the parts. -/
theorem civilTime_gregorian :
    civilDate 0 = ⟨1970, 1, 1⟩ ∧ (∀ n, civilDate (n + 1) = (civilDate n).next) ∧
    (∀ d : Date, d.Valid → civilDate (dayNumber d) = d) ∧
    ∀ t, Word.Fits t → ∃ c, Word.civilTime (.of t) = some c ∧ c = civilTime t ∧ c.Valid ∧
      c.date = civilDate (t / 86400) ∧ c.weekday = (4 + t / 86400) % 7 ∧
      dayNumber c.date * 86400 + 3600 * c.hour + 60 * c.minute + c.second = t ∧
      Word.dayNumber c.date = .of (dayNumber c.date) ∧
      (Word.dayNumber c.date).civilDate = some c.date := by
  refine ⟨by decide, civilDate_succ, fun d => civilDate_dayNumber, fun t ht => ?_⟩
  obtain ⟨hvalid, hnumber⟩ := civilDate_valid (t / 86400)
  have hdays : -Word.dayMax ≤ t / 86400 ∧ t / 86400 ≤ Word.dayMax := by
    unfold Word.Fits at ht
    unfold Word.dayMax
    omega
  obtain ⟨hlow, hhigh⟩ := Word.civilDate_year_le hdays.1 hdays.2
  have hwords : Word.dayNumber (civilDate (t / 86400)) = .of (t / 86400) := by
    rw [Word.dayNumber_of hvalid hlow hhigh, hnumber]
  refine ⟨civilTime t, Word.civilTime_of ht, rfl, civilTime_valid t, rfl, ?_, civilTime_second t,
    ?_, ?_⟩
  · exact congrArg (· % 7) (Int.add_comm _ _)
  · exact hwords.trans (congrArg Word.of hnumber.symm)
  · exact (congrArg Word.civilDate hwords).trans (Word.civilDate_of hdays.1 hdays.2)

/-- The leap day of a year far before 1970, and the first second of the clock. -/
theorem gregorian_of_first_second :
    (Date.Valid ⟨-400, 2, 29⟩ ∧ civilDate (dayNumber ⟨-400, 2, 29⟩) = ⟨-400, 2, 29⟩) ∧
    Word.Fits (-2 ^ 63) ∧ ∃ c, Word.civilTime (.of (-2 ^ 63)) = some c ∧ c.Valid ∧
      c.weekday = (4 + -2 ^ 63 / 86400) % 7 := by
  have hvalid : Date.Valid ⟨-400, 2, 29⟩ := by decide
  have hfits : Word.Fits (-2 ^ 63) := by decide
  obtain ⟨-, -, hback, htime⟩ := civilTime_gregorian
  obtain ⟨c, hwords, -, hc, -, hweekday, -⟩ := htime _ hfits
  exact ⟨⟨hvalid, hback _ hvalid⟩, hfits, c, hwords, hc, hweekday⟩

end MeterNode.Calendar
