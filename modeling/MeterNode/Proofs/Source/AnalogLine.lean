import Mathlib.Algebra.Order.BigOperators.Group.List
import Mathlib.Algebra.Order.Ring.Nat
import Mathlib.Data.Finset.Max
import Mathlib.Data.List.TakeDrop
import MeterNode.Source.Adc

/-!
# The input of an analog meter

`AnalogLine` is an analog input whose conversions come from a queue, with a pin that always works.
It keeps what was asked of it.  `AnalogLine.plugged` puts it into any surroundings, and the lemmas
`..._run` say what the programs of a meter come to there, each from those it is made of.

`Converted` says how the conversions of a read end, read off the queue: with the first one that
fails, or when there are enough.  A sensor is powered around them, so the line is left as
`AnalogLine.bracketed` says, whichever way they end.

The node adds the conversions in 32 bits.  `AdcMeter.average32` has no value when an addition
overflows; raw counts have 16 bits, so it always has one (`average32_run`).
-/

namespace MeterNode

/-! ## Calls of the input -/

/-- What a conversion comes to: a raw count, or a failure. -/
abbrev Conversion : Type := Except MeterError UInt16

/-- A call of a meter's input, with its answer. -/
abbrev MeterCall.Done : Type := (call : MeterCall) × call.Answer

namespace MeterCall.Done

/-- A conversion is taken. -/
def convert (x : Conversion) : MeterCall.Done := ⟨.convert, x.map UInt16.toNat⟩

/-- The pin is driven, and that works. -/
def drive (high : Bool) : MeterCall.Done := ⟨.drive high, true⟩

/-- The sensor is given time to settle. -/
def settle (us : Nat) : MeterCall.Done := ⟨.settle us, ()⟩

/-- The level that a call drives the pin to. -/
def level? : MeterCall.Done → Option Bool
  | ⟨.drive high, _⟩ => some high
  | _ => none

/-- The conversion that a call takes. -/
def conversion? : MeterCall.Done → Option (Except MeterError Nat)
  | ⟨.convert, x⟩ => some x
  | _ => none

end MeterCall.Done

/-- The input of an analog meter, with a pin that always works. -/
structure AnalogLine where
  /-- What the next conversions come to. -/
  queue : List Conversion
  /-- What a conversion comes to when the queue is empty. -/
  dry : MeterError
  /-- What was asked so far, in order. -/
  past : List MeterCall.Done := []

namespace AnalogLine

/-- The next conversions. -/
def upcoming (l : AnalogLine) (n : Nat) : List Conversion := l.queue.takeD n (.error l.dry)

/-- The line after some calls that are no conversions. -/
def noted (l : AnalogLine) (calls : List MeterCall.Done) : AnalogLine :=
  { l with past := l.past ++ calls }

/-- The line after some conversions. -/
def converted (l : AnalogLine) (n : Nat) : AnalogLine :=
  { l with queue := l.queue.drop n, past := l.past ++ (l.upcoming n).map .convert }

/-- The line after some conversions with the sensor powered. -/
def bracketed (l : AnalogLine) (n : Nat) : AnalogLine :=
  ((l.noted [.drive true, .settle settleUs]).converted n).noted [.drive false]

/-- The level that the pin was driven to last. -/
def level (l : AnalogLine) : Option Bool := (l.past.filterMap MeterCall.Done.level?).getLast?

/-- The conversions that were taken. -/
def conversions (l : AnalogLine) : List (Except MeterError Nat) :=
  l.past.filterMap MeterCall.Done.conversion?

theorem upcoming_add (l : AnalogLine) (n m : Nat) :
    l.upcoming (n + m) = l.upcoming n ++ (l.converted n).upcoming m := by
  have htake (q : List Conversion) (x : Conversion) :
      q.takeD (n + m) x = q.takeD n x ++ (q.drop n).takeD m x := by
    induction n generalizing q with
    | zero => simp
    | succ n ih => simp [Nat.succ_add, ih]
  exact htake l.queue (.error l.dry)

theorem upcoming_succ (l : AnalogLine) (n : Nat) :
    l.upcoming (n + 1) = l.queue.headD (.error l.dry) :: (l.converted 1).upcoming n := by
  rw [Nat.add_comm, upcoming_add]
  rfl

theorem converted_add (l : AnalogLine) (n m : Nat) :
    l.converted (n + m) = (l.converted n).converted m := by
  have hpast : l.past ++ (l.upcoming (n + m)).map .convert =
      (l.converted n).past ++ ((l.converted n).upcoming m).map .convert := by
    rw [upcoming_add, List.map_append, ← List.append_assoc]
    rfl
  have hqueue : l.queue.drop (n + m) = (l.queue.drop n).drop m := List.drop_drop.symm
  rw [converted, hpast, hqueue]
  rfl

theorem level_noted_drive (l : AnalogLine) (high : Bool) :
    (l.noted [.drive high]).level = some high := by
  simp [level, noted, MeterCall.Done.level?, MeterCall.Done.drive]

/-- A powered read leaves the pin low. -/
theorem level_bracketed (l : AnalogLine) (n : Nat) : (l.bracketed n).level = some false :=
  level_noted_drive _ _

theorem conversions_noted_drive (l : AnalogLine) (high : Bool) :
    (l.noted [.drive high]).conversions = l.conversions := by
  simp [conversions, noted, MeterCall.Done.conversion?, MeterCall.Done.drive]

theorem conversions_converted (l : AnalogLine) (n : Nat) : (l.converted n).conversions =
    l.conversions ++ (l.upcoming n).map (·.map UInt16.toNat) := by
  simp [conversions, converted, MeterCall.Done.conversion?, MeterCall.Done.convert,
    List.filterMap_map, Function.comp_def]

theorem conversions_bracketed (l : AnalogLine) (n : Nat) : (l.bracketed n).conversions =
    l.conversions ++ (l.upcoming n).map (·.map UInt16.toNat) := by
  have hraised : (l.noted [.drive true, .settle settleUs]).conversions = l.conversions := by
    simp [conversions, noted, MeterCall.Done.conversion?, MeterCall.Done.drive,
      MeterCall.Done.settle]
  rw [bracketed, conversions_noted_drive, conversions_converted, hraised]
  rfl

/-! ## Surroundings -/

/-- Answer a call of an analog input. -/
def answer? (l : AnalogLine) : (call : MeterCall) → Option (call.Answer × AnalogLine)
  | .convert => some ((l.queue.headD (.error l.dry)).map UInt16.toNat, l.converted 1)
  | .drive high => some (true, l.noted [.drive high])
  | .settle us => some ((), l.noted [.settle us])
  | .openSource | .closeSource | .readSource .. | .memory => none

/-- Let other surroundings answer. -/
def others {σ : Type} (h : (op : Effect) → σ → op.Answer × σ) (op : Effect)
    (s : AnalogLine × σ) : op.Answer × (AnalogLine × σ) :=
  let (answer, rest) := h op s.2
  (answer, (s.1, rest))

/-- Surroundings with an analog input at a device; whatever is no call of it is for the others. -/
def plugged {σ : Type} (device : Nat) (h : (op : Effect) → σ → op.Answer × σ) :
    (op : Effect) → AnalogLine × σ → op.Answer × (AnalogLine × σ)
  | .meter d call, s =>
      match if d = device then s.1.answer? call else none with
      | some (answer, l) => (answer, (l, s.2))
      | none => others h (.meter d call) s
  | op, s => others h op s

end AnalogLine

section Runs

variable {σ α β : Type} {h : (op : Effect) → σ → op.Answer × σ} {s : σ}

theorem Act.run_bind {p : Act α} {next : α → Act β} :
    Prog.run h (p >>= next : Act β) s =
      Prog.run h (next (Prog.run h p s).1) (Prog.run h p s).2 :=
  Prog.run_bind h p next s

theorem Act.run_pure {a : α} : Prog.run h (pure a : Act α) s = (a, s) := rfl

theorem Act.run_discard {p : Act α} :
    Prog.run h (discard p : Act Unit) s = ((), (Prog.run h p s).2) :=
  Prog.run_bind h p _ s

theorem AnalogLine.plugged_meter {device : Nat} {call : MeterCall} {answer : call.Answer}
    {l l' : AnalogLine} (hanswer : l.answer? call = some (answer, l')) :
    Prog.run (plugged device h) (Act.meter device call) (l, s) = (answer, (l', s)) := by
  simp only [Act.meter, Prog.perform, Prog.run, plugged, if_true, hanswer]

end Runs

/-! ## Conversions -/

/-- How some conversions end, and how many of them are taken. -/
inductive Converted (l : AnalogLine) (most : Nat) :
    Nat → Except MeterError (List UInt16) → Prop where
  /-- The first one that fails is the last one. -/
  | failed {raws : List UInt16} {e : MeterError} : raws.length < most →
      l.upcoming (raws.length + 1) = raws.map .ok ++ [.error e] →
      Converted l most (raws.length + 1) (.error e)
  /-- All of them work. -/
  | worked {raws : List UInt16} : l.upcoming most = raws.map .ok → Converted l most most (.ok raws)

namespace Converted

variable {l : AnalogLine} {most n : Nat} {x : Except MeterError (List UInt16)} {raw : UInt16}
  {raws : List UInt16}

theorem le (hx : Converted l most n x) : n ≤ most := by
  cases hx with
  | failed hfew => exact hfew
  | worked => exact Nat.le_refl _

theorem length_eq (hx : Converted l most n (.ok raws)) : n = most ∧ raws.length = most := by
  cases hx with
  | worked hnext =>
    have hlength := congrArg List.length hnext
    rw [AnalogLine.upcoming, List.takeD_length, List.length_map] at hlength
    exact ⟨rfl, hlength.symm⟩

/-- What was noted before makes no difference. -/
theorem noted {calls : List MeterCall.Done} (hx : Converted (l.noted calls) most n x) :
    Converted l most n x := by
  cases hx with
  | failed hfew hnext => exact .failed hfew hnext
  | worked hnext => exact .worked hnext

/-- One more conversion, ahead of the others, works. -/
theorem cons (hfirst : l.queue.headD (.error l.dry) = .ok raw)
    (hx : Converted (l.converted 1) most n x) :
    Converted l (most + 1) (n + 1) (x.map (raw :: ·)) := by
  cases hx with
  | @failed raws e hfew hnext =>
    refine @failed _ _ (raw :: raws) e (Nat.succ_lt_succ hfew) ?_
    rw [List.length_cons, AnalogLine.upcoming_succ, hfirst, hnext]
    rfl
  | @worked raws hnext =>
    refine .worked ?_
    rw [AnalogLine.upcoming_succ, hfirst, hnext]
    rfl

end Converted

/-- The mean of the counts of one read, rounded down. -/
def meanOf (raws : List UInt16) : Nat := (raws.map UInt16.toNat).sum / conversionsPerRead

/-- The mean is short of the exact one by less than one. -/
theorem meanOf_floor (raws : List UInt16) :
    conversionsPerRead * meanOf raws ≤ (raws.map UInt16.toNat).sum ∧
      (raws.map UInt16.toNat).sum < conversionsPerRead * (meanOf raws + 1) :=
  ⟨Nat.mul_div_le _ _, Nat.lt_mul_div_succ _ (Nat.succ_pos _)⟩

/-- The mean is not below the least count and not above the greatest. -/
theorem meanOf_bounds {raws : List UInt16} (hlength : raws.length = conversionsPerRead) :
    ∃ low ∈ raws, ∃ high ∈ raws, (∀ raw ∈ raws, low ≤ raw ∧ raw ≤ high) ∧
      low.toNat ≤ meanOf raws ∧ meanOf raws ≤ high.toNat := by
  have hpositive : 0 < conversionsPerRead := by decide
  have hsome : raws.toFinset.Nonempty := by
    rw [List.toFinset_nonempty_iff]
    exact List.ne_nil_of_length_pos (by omega)
  obtain ⟨low, hlow, hleast⟩ := Finset.exists_min_image raws.toFinset UInt16.toNat hsome
  obtain ⟨high, hhigh, hgreatest⟩ := Finset.exists_max_image raws.toFinset UInt16.toNat hsome
  simp only [List.mem_toFinset] at hlow hleast hhigh hgreatest
  refine ⟨low, hlow, high, hhigh, fun raw hraw => ⟨hleast raw hraw, hgreatest raw hraw⟩, ?_, ?_⟩
  · have hsum := List.card_nsmul_le_sum (raws.map UInt16.toNat) low.toNat (by simpa using hleast)
    rw [List.length_map, hlength, Nat.nsmul_eq_mul, Nat.mul_comm] at hsum
    exact (Nat.le_div_iff_mul_le hpositive).2 hsum
  · have hsum := List.sum_le_card_nsmul (raws.map UInt16.toNat) high.toNat
      (by simpa using hgreatest)
    rw [List.length_map, hlength, Nat.nsmul_eq_mul] at hsum
    exact Nat.div_le_of_le_mul hsum

/-- The sum of two numbers, unless it takes more than 32 bits. -/
def add32? (a b : Nat) : Option Nat := if a + b < UInt32.size then some (a + b) else none

namespace AdcMeter

open AnalogLine

/-- Some more conversions, added to those before in 32 bits.  There is no value if a sum
overflows. -/
def convertMore32 (device : Nat) : Nat → Nat → Act (Option (Except MeterError Nat))
  | 0, sum => return some (.ok sum)
  | left + 1, sum => do
      match ← Act.meter device .convert with
      | .error e => return some (.error e)
      | .ok raw =>
          match add32? sum raw with
          | none => return none
          | some sum => convertMore32 device left sum

/-- The rounded-down mean of the conversions of one read, added in 32 bits. -/
def average32 (m : AdcMeter) : Act (Option (Except MeterError Nat)) := do
  return (← convertMore32 m.device conversionsPerRead 0).map (·.map (· / conversionsPerRead))

variable {σ : Type} {h : (op : Effect) → σ → op.Answer × σ} {s : σ} {l : AnalogLine}
  {m : AdcMeter} {device left sum most utcMs : Nat}

theorem convertMore_run (device left sum : Nat) (l : AnalogLine) (s : σ) :
    ∃ n x, Converted l left n x ∧
    Prog.run (plugged device h) (convertMore device left sum) (l, s) =
      (x.map fun raws => sum + (raws.map UInt16.toNat).sum, (l.converted n, s)) := by
  induction left generalizing sum l with
  | zero =>
    refine ⟨0, .ok [], .worked rfl, ?_⟩
    simp [convertMore, Act.run_pure, converted, upcoming, Except.map]
  | succ left ih =>
    rw [convertMore, Act.run_bind, plugged_meter rfl]
    cases hfirst : l.queue.headD (.error l.dry) with
    | error e =>
      refine ⟨1, .error e, @Converted.failed _ _ [] e (Nat.succ_pos _) ?_, rfl⟩
      rw [List.length_nil, upcoming_succ, hfirst]
      rfl
    | ok raw =>
      obtain ⟨n, x, hconverted, hrun⟩ := ih (sum + raw.toNat) (l.converted 1)
      refine ⟨n + 1, x.map (raw :: ·), hconverted.cons hfirst, hrun.trans ?_⟩
      rw [Nat.add_comm n, converted_add]
      cases x with
      | error e => rfl
      | ok raws => simp [Except.map, Nat.add_assoc]

theorem average_run (m : AdcMeter) (l : AnalogLine) (s : σ) :
    ∃ n x, Converted l conversionsPerRead n x ∧
    Prog.run (plugged m.device h) m.average (l, s) = (x.map meanOf, (l.converted n, s)) := by
  obtain ⟨n, x, hconverted, hrun⟩ := convertMore_run m.device conversionsPerRead 0 l s
  refine ⟨n, x, hconverted, ?_⟩
  rw [average, Act.run_bind, hrun, Act.run_pure]
  cases x with
  | error e => rfl
  | ok raws => simp [Except.map, meanOf]

/-- Counts of 16 bits that are few enough do not overflow the sum. -/
theorem convertMore32_run (hsum : sum + left * UInt16.size < UInt32.size) :
    Prog.run (plugged device h) (convertMore32 device left sum) (l, s) =
      let ran := Prog.run (plugged device h) (convertMore device left sum) (l, s)
      (some ran.1, ran.2) := by
  induction left generalizing sum l with
  | zero => rfl
  | succ left ih =>
    rw [convertMore, convertMore32, Act.run_bind, Act.run_bind, plugged_meter rfl]
    cases l.queue.headD (.error l.dry) with
    | error e => rfl
    | ok raw =>
      have hraw : raw.toNat < UInt16.size := raw.toNat_lt
      rw [Nat.succ_mul] at hsum
      have hadd : add32? sum raw.toNat = some (sum + raw.toNat) := if_pos (by omega)
      simp only [Except.map, hadd]
      exact ih (by omega)

/-- No addition of a read overflows. -/
theorem average32_run : Prog.run (plugged m.device h) m.average32 (l, s) =
    let ran := Prog.run (plugged m.device h) m.average (l, s)
    (some ran.1, ran.2) := by
  have hsum : 0 + conversionsPerRead * UInt16.size < UInt32.size := by decide
  rw [average32, average, Act.run_bind, Act.run_bind, convertMore32_run hsum]
  rfl

/-! ## Meters with a pin -/

theorem averagePowered_run (hpin : m.hasControl = true) (l : AnalogLine) (s : σ) :
    ∃ n x, Converted l conversionsPerRead n x ∧
    Prog.run (plugged m.device h) m.averagePowered (l, s) =
      (x.map meanOf, (l.bracketed n, s)) := by
  obtain ⟨n, x, hconverted, hrun⟩ := average_run m (l.noted [.drive true, .settle settleUs]) s
  refine ⟨n, x, hconverted.noted, ?_⟩
  have hsettled : (l.noted [.drive true]).noted [.settle settleUs] =
      l.noted [.drive true, .settle settleUs] := by
    simp [noted]
  simp only [averagePowered, hpin, if_true, Act.run_bind]
  rw [plugged_meter rfl]
  simp only [Bool.not_true, Bool.false_eq_true, if_false, Act.run_bind]
  rw [plugged_meter rfl, hsettled, hrun, Act.run_discard, plugged_meter rfl]
  rfl

theorem openMeter_run (hpin : m.hasControl = true) :
    Prog.run (plugged m.device h) m.openMeter (l, s) =
      ((.ok (), { m with isOpen := true }), (l.noted [.drive false], s)) := by
  simp only [openMeter, hpin, if_true, Act.run_bind]
  rw [plugged_meter rfl]
  rfl

theorem read_run_of_closed (hclosed : m.isOpen = false) :
    Prog.run (plugged m.device h) (m.read most utcMs) (l, s) =
      (⟨[], .error .notOpen⟩, (l, s)) := by
  simp only [read, hclosed]
  rfl

theorem read_run_of_zero (hopen : m.isOpen = true) :
    Prog.run (plugged m.device h) (m.read 0 utcMs) (l, s) = (⟨[], .ok 0⟩, (l, s)) := by
  simp only [read, hopen]
  rfl

/-- What a read comes to when its conversions have ended. -/
def outcomeOf (m : AdcMeter) (utcMs : Nat) : Except MeterError (List UInt16) → ReadOutcome
  | .error e => ⟨[], .error e⟩
  | .ok raws => ⟨[⟨none, utcMs, m.scale (meanOf raws)⟩], .ok 1⟩

theorem read_run (hpin : m.hasControl = true) (hopen : m.isOpen = true) (hmost : most ≠ 0)
    (utcMs : Nat) (l : AnalogLine) (s : σ) : ∃ n x rest, Converted l conversionsPerRead n x ∧
      Prog.run (plugged m.device h) (m.read most utcMs) (l, s) =
        (m.outcomeOf utcMs x, (l.bracketed n, rest)) ∧ (x.isOk = false → rest = s) := by
  obtain ⟨n, x, hconverted, haveraged⟩ := averagePowered_run (h := h) hpin l s
  simp only [read, hopen, hmost, Bool.not_true, Bool.false_eq_true, if_false, Act.run_bind,
    haveraged]
  cases x with
  | error e => exact ⟨n, .error e, s, hconverted, rfl, fun _ => rfl⟩
  | ok raws => exact ⟨n, .ok raws, _, hconverted, rfl, fun hfails => by cases hfails⟩

end AdcMeter

end MeterNode
