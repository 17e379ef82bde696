import MeterNode.Bench.World
import MeterNode.Proofs.Source.AnalogLine

/-!
# Runs of an analog meter

A meter is opened, closed and read in any order (`AdcCall`).  `AdcRig` puts it together with its
input and with the vector that its readings go to.

`Stepped` says what one call comes to.  A read that is not refused takes its conversions between
driving the pin high and driving it low, whether they work or not, and only if all of them work
there is a reading.  So the input and the vector can be followed through any number of calls
(`Ran`): the conversions are those of the queue, each taken once, and the pin is not left high.
-/

namespace MeterNode

/-- A call of an analog meter. -/
inductive AdcCall where
  | openMeter
  | closeMeter
  | read (most utcMs : Nat)

namespace AdcCall

/-- Make a call: what it answers, the meter behind it, and the readings that it gives. -/
def perform (m : AdcMeter) : AdcCall → Act (Except MeterError Nat × AdcMeter × List Reading)
  | openMeter => do
      let (result, m) ← m.openMeter
      return (result.map fun _ => 0, m, [])
  | closeMeter => return (.ok 0, m.closeMeter, [])
  | read most utcMs => do
      let outcome ← m.read most utcMs
      return (outcome.result, m, outcome.readings)

/-- Whether the meter is open behind a call. -/
def leavesOpen (isOpen : Bool) : AdcCall → Bool
  | openMeter => true
  | closeMeter => false
  | read .. => isOpen

end AdcCall

/-- An analog meter with its input, the vector that its readings go to, and other surroundings. -/
structure AdcRig (σ : Type) where
  meter : AdcMeter
  line : AnalogLine
  out : List Reading
  rest : σ

namespace AdcRig

open AnalogLine

variable {σ : Type} {h : (op : Effect) → σ → op.Answer × σ} {r r₁ r₂ : AdcRig σ}
  {call : AdcCall} {calls calls' : List AdcCall} {result : Except MeterError Nat}
  {results results' : List (Except MeterError Nat)}

/-- Make a call. -/
def step (h : (op : Effect) → σ → op.Answer × σ) (r : AdcRig σ) (call : AdcCall) :
    Except MeterError Nat × AdcRig σ :=
  let ((result, meter, readings), (line, rest)) :=
    Prog.run (S := Node) (plugged r.meter.device h) (call.perform r.meter) (r.line, r.rest)
  (result, { meter, line, out := r.out ++ readings, rest })

/-- Make some calls, one after the other. -/
def run (h : (op : Effect) → σ → op.Answer × σ) (r : AdcRig σ) :
    List AdcCall → List (Except MeterError Nat) × AdcRig σ
  | [] => ([], r)
  | call :: calls =>
      let (result, r₁) := r.step h call
      let (results, r₂) := r₁.run h calls
      (result :: results, r₂)

/-! ## One call -/

/-- What a call of a meter with a pin comes to. -/
inductive Stepped (r : AdcRig σ) : AdcCall → Except MeterError Nat → AdcRig σ → Prop where
  /-- A meter is opened with the sensor off. -/
  | opened : Stepped r .openMeter (.ok 0)
      { r with meter := { r.meter with isOpen := true }, line := r.line.noted [.drive false] }
  | closed : Stepped r .closeMeter (.ok 0) { r with meter := { r.meter with isOpen := false } }
  /-- A meter that is closed is not read. -/
  | refused {most utcMs : Nat} : r.meter.isOpen = false →
      Stepped r (.read most utcMs) (.error .notOpen) r
  /-- Nothing is asked for. -/
  | nothing {utcMs : Nat} : r.meter.isOpen = true → Stepped r (.read 0 utcMs) (.ok 0) r
  /-- A conversion fails, and there is no reading. -/
  | failed {most utcMs n : Nat} {e : MeterError} : r.meter.isOpen = true → most ≠ 0 →
      Converted r.line conversionsPerRead n (.error e) →
      Stepped r (.read most utcMs) (.error e) { r with line := r.line.bracketed n }
  /-- All conversions work, and their mean gives a reading. -/
  | averaged {most utcMs n : Nat} {raws : List UInt16} {rest : σ} : r.meter.isOpen = true →
      most ≠ 0 → Converted r.line conversionsPerRead n (.ok raws) →
      Stepped r (.read most utcMs) (.ok 1)
        { r with
          line := r.line.bracketed n
          out := r.out ++ [⟨none, utcMs, r.meter.scale (meanOf raws)⟩]
          rest }

theorem step_read {most utcMs : Nat} {outcome : ReadOutcome} {line : AnalogLine} {rest : σ}
    (hrun : Prog.run (plugged r.meter.device h) (r.meter.read most utcMs) (r.line, r.rest) =
      (outcome, (line, rest))) :
    r.step h (.read most utcMs) =
      (outcome.result, { r with line, out := r.out ++ outcome.readings, rest }) := by
  simp only [step, AdcCall.perform, Act.run_bind, hrun]
  rfl

theorem step_stepped (hpin : r.meter.hasControl = true) (call : AdcCall) :
    r.Stepped call (r.step h call).1 (r.step h call).2 := by
  cases call with
  | openMeter =>
    simp only [step, AdcCall.perform, Act.run_bind, AdcMeter.openMeter_run hpin, Act.run_pure,
      Except.map, List.append_nil]
    exact .opened
  | closeMeter =>
    simp only [step, AdcCall.perform, Act.run_pure, List.append_nil]
    exact .closed
  | read most utcMs =>
    cases hopen : r.meter.isOpen with
    | false =>
      rw [step_read (AdcMeter.read_run_of_closed hopen), List.append_nil]
      exact .refused hopen
    | true =>
      by_cases hmost : most = 0
      · subst hmost
        rw [step_read (AdcMeter.read_run_of_zero hopen), List.append_nil]
        exact .nothing hopen
      · obtain ⟨n, x, rest, hconverted, hrun, hrest⟩ :=
          AdcMeter.read_run (h := h) hpin hopen hmost utcMs r.line r.rest
        rw [step_read hrun]
        cases x with
        | error e =>
          rw [hrest rfl, AdcMeter.outcomeOf, List.append_nil]
          exact .failed hopen hmost hconverted
        | ok raws => exact .averaged hopen hmost hconverted

/-! ## Any number of calls -/

/-- What some calls of a meter with a pin come to. -/
structure Ran (r : AdcRig σ) (calls : List AdcCall) (results : List (Except MeterError Nat))
    (r₁ : AdcRig σ) : Prop where
  meter_eq : r₁.meter = { r.meter with isOpen := calls.foldl AdcCall.leavesOpen r.meter.isOpen }
  dry_eq : r₁.line.dry = r.line.dry
  /-- The conversions are taken from the front of the queue, each one once. -/
  line_eq : ∃ n, r₁.line.queue = r.line.queue.drop n ∧ r₁.line.conversions =
    r.line.conversions ++ (r.line.upcoming n).map (·.map UInt16.toNat)
  /-- The pin is not left high. -/
  level_ne : r.line.level ≠ some true → r₁.line.level ≠ some true
  /-- As many readings are appended as the calls report. -/
  out_eq : ∃ readings, r₁.out = r.out ++ readings ∧
    readings.length = (results.map fun result => result.toOption.getD 0).sum

theorem Ran.refl (r : AdcRig σ) : r.Ran [] [] r where
  meter_eq := rfl
  dry_eq := rfl
  line_eq := ⟨0, rfl, (List.append_nil _).symm⟩
  level_ne := id
  out_eq := ⟨[], (List.append_nil _).symm, rfl⟩

theorem Ran.trans (h₁ : r.Ran calls results r₁) (h₂ : r₁.Ran calls' results' r₂) :
    r.Ran (calls ++ calls') (results ++ results') r₂ := by
  obtain ⟨hmeter, hdry, ⟨n, hqueue, hconversions⟩, hlevel, ⟨readings, hout, hlength⟩⟩ := h₁
  obtain ⟨hmeter', hdry', ⟨n', hqueue', hconversions'⟩, hlevel', ⟨readings', hout', hlength'⟩⟩ :=
    h₂
  refine ⟨?_, hdry'.trans hdry, ⟨n + n', ?_, ?_⟩, fun hlow => hlevel' (hlevel hlow),
    ⟨readings ++ readings', ?_, ?_⟩⟩
  · rw [hmeter', hmeter, List.foldl_append]
  · rw [hqueue', hqueue, List.drop_drop]
  · have hnext : r₁.line.upcoming n' = (r.line.converted n).upcoming n' := by
      rw [upcoming, hqueue, hdry]
      rfl
    rw [hconversions', hconversions, hnext, upcoming_add, List.map_append, List.append_assoc]
  · rw [hout', hout, List.append_assoc]
  · rw [List.length_append, hlength, hlength', List.map_append, List.sum_append]

theorem Stepped.ran (hstep : r.Stepped call result r₁) : r.Ran [call] [result] r₁ := by
  have hnone : r.line.conversions =
      r.line.conversions ++ (r.line.upcoming 0).map (·.map UInt16.toNat) :=
    (List.append_nil _).symm
  have hout : r.out = r.out ++ [] := (List.append_nil _).symm
  have hlow {n : Nat} : (r.line.bracketed n).level ≠ some true := by
    rw [level_bracketed]
    decide
  cases hstep with
  | opened =>
    refine ⟨rfl, rfl, ⟨0, rfl, ?_⟩, fun _ => ?_, [], hout, rfl⟩
    · rw [conversions_noted_drive]
      exact hnone
    · rw [level_noted_drive]
      decide
  | closed | refused | nothing => exact ⟨rfl, rfl, ⟨0, rfl, hnone⟩, id, [], hout, rfl⟩
  | @failed _ _ n =>
    exact ⟨rfl, rfl, ⟨n, rfl, conversions_bracketed _ n⟩, fun _ => hlow, [], hout, rfl⟩
  | @averaged _ _ n =>
    exact ⟨rfl, rfl, ⟨n, rfl, conversions_bracketed _ n⟩, fun _ => hlow, [_], rfl, rfl⟩

theorem run_ran (hpin : r.meter.hasControl = true) (calls : List AdcCall) :
    r.Ran calls (r.run h calls).1 (r.run h calls).2 := by
  induction calls generalizing r with
  | nil => exact .refl r
  | cons call calls ih =>
    have hcall : r.Ran [call] [(r.step h call).1] (r.step h call).2 :=
      (step_stepped hpin call).ran
    have hpin₁ : (r.step h call).2.meter.hasControl = true := by
      rw [hcall.meter_eq]
      exact hpin
    exact hcall.trans (ih hpin₁)

/-- However a meter with a pin is opened, closed and read, its conversions are those of the queue in
their order, its pin is not left high, and `Stepped` says what the next call comes to.  A read that
is neither refused nor for nothing leaves the pin low; it takes five conversions at most, and five
if none of them fails.  Then the raw value of the reading is their mean, rounded down.  It lies
between the least and the greatest of them, and no sum on the way to it overflows. -/
theorem reads_bracketed (h : (op : Effect) → σ → op.Answer × σ) (r : AdcRig σ)
    (hpin : r.meter.hasControl = true) (calls : List AdcCall) :
    let (results, r₁) := r.run h calls
    r.Ran calls results r₁ ∧
    (∀ call, r₁.Stepped call (r₁.step h call).1 (r₁.step h call).2) ∧
    (∀ most utcMs, r₁.meter.isOpen = true → most ≠ 0 →
      (r₁.step h (.read most utcMs)).2.line.level = some false) ∧
    (∀ n e, Converted r₁.line conversionsPerRead n (.error e) → n ≤ 5) ∧
    (∀ n raws, Converted r₁.line conversionsPerRead n (.ok raws) →
      n = 5 ∧ raws.length = 5 ∧
      (5 * meanOf raws ≤ (raws.map UInt16.toNat).sum ∧
        (raws.map UInt16.toNat).sum < 5 * (meanOf raws + 1)) ∧
      ∃ low ∈ raws, ∃ high ∈ raws, (∀ raw ∈ raws, low ≤ raw ∧ raw ≤ high) ∧
        low.toNat ≤ meanOf raws ∧ meanOf raws ≤ high.toNat) ∧
    Prog.run (plugged r₁.meter.device h) r₁.meter.average32 (r₁.line, r₁.rest) =
      let ran := Prog.run (plugged r₁.meter.device h) r₁.meter.average (r₁.line, r₁.rest)
      (some ran.1, ran.2) := by
  have hran : r.Ran calls (r.run h calls).1 (r.run h calls).2 := run_ran hpin calls
  generalize r.run h calls = res at hran
  obtain ⟨results, r₁⟩ := res
  have hpin₁ : r₁.meter.hasControl = true := by
    rw [hran.meter_eq]
    exact hpin
  refine ⟨hran, step_stepped hpin₁, ?_, ?_, ?_, AdcMeter.average32_run⟩
  · intro most utcMs hopen hmost
    obtain ⟨n, x, rest, -, hrun, -⟩ :=
      AdcMeter.read_run (h := h) hpin₁ hopen hmost utcMs r₁.line r₁.rest
    rw [step_read hrun]
    exact level_bracketed _ n
  · intro n e hx
    exact hx.le
  · intro n raws hx
    obtain ⟨rfl, hlength⟩ := hx.length_eq
    exact ⟨rfl, hlength, meanOf_floor raws, meanOf_bounds hlength⟩

/-- A closed meter; of its next eight conversions the third one fails. -/
def powered : AdcRig Bench.World where
  meter := { device := 0, hasControl := true, factor := 2, interval := 0 }
  line :=
    { queue :=
        [.ok 10, .ok 20, .error .bus, .ok 1000, .ok 1010, .ok 990, .ok 1005, .ok 996]
      dry := .readFailed }
  out := []
  rest := {}

/-- A read that is refused, and one that fails. -/
def twoReads : List AdcCall := [.read 4 5, .openMeter, .read 4 6]

/-- The next read gives the mean of 1000.2, rounded down. -/
theorem bracketed_of_two_reads :
    let bench := fun op w => Bench.World.answer w op
    let (results, r₁) := powered.run bench twoReads
    let (result, r₂) := r₁.step bench (.read 4 7)
    results = [.error .notOpen, .ok 0, .error .bus] ∧ r₁.line.level ≠ some true ∧ r₁.out = [] ∧
    result = .ok 1 ∧ r₂.out = [⟨none, 7, powered.meter.scale 1000⟩] ∧
    r₂.line.level = some false ∧ r₂.line.queue = [] ∧ r₁.Stepped (.read 4 7) result r₂ := by
  obtain ⟨hran, hstepped, hlow, -⟩ :=
    reads_bracketed (fun op w => Bench.World.answer w op) powered rfl twoReads
  exact ⟨rfl, hran.level_ne (by decide), rfl, rfl, rfl, hlow 4 7 rfl (by decide), rfl,
    hstepped (.read 4 7)⟩

end AdcRig

end MeterNode
