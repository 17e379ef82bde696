import MeterNode.Source.Basic

/-!
# Scripted meters

The bench has four kinds of meter input: one that gives a steady value after some failures, one
that follows a script, memory figures, and an analog input with a pin.
-/

namespace MeterNode.Bench

/-- What a read of a scripted source comes to. -/
inductive ScriptedRead where
  | fails (cause : MeterError)
  /-- Metric, timestamp and value of each reading; the timestamp is that of the read by default. -/
  | yields (readings : List (Option String × Option Nat × Float))

/-- An analog input. -/
structure AnalogInput where
  /-- What the next conversions come to. -/
  samples : List (Except MeterError Nat) := []
  /-- Levels and delays are recorded. -/
  recorded : Bool := true
  failLow : Bool := false
  failHigh : Bool := false
  /-- The levels driven so far, latest first. -/
  levels : List Bool := []
  /-- The delays so far, latest first. -/
  delays : List Nat := []

/-- The input of a meter. -/
inductive Meter where
  | steady (value : Float) (failures : Nat)
  | script (opens closes : List (Option MeterError)) (reads : List ScriptedRead)
  | memory (free total : Nat)
  | analog (input : AnalogInput)

namespace Meter

/-- Success, or an error. -/
def outcome (e : Option MeterError) : Except MeterError Unit :=
  match e with
  | none => .ok ()
  | some e => .error e

/-- Some readings as the outcome of a read. -/
def yielded (readings : List Reading) : ReadOutcome := ⟨readings, .ok readings.length⟩

/-- The reading of a script. -/
def reading (utcMs : Nat) : Option String × Option Nat × Float → Reading
  | (identifier, ts, value) => ⟨identifier, ts.getD utcMs, value⟩

/-- Read an external source. -/
def readExternal (m : Meter) (most utcMs : Nat) : ReadOutcome × Meter :=
  match m with
  | .steady value (failures + 1) => (⟨[], .error .readFailed⟩, .steady value failures)
  | .steady value 0 => (yielded ([⟨none, utcMs, value⟩].take most), m)
  | .script opens closes (.fails cause :: reads) =>
      (⟨[], .error cause⟩, .script opens closes reads)
  | .script opens closes (.yields readings :: reads) =>
      (yielded ((readings.map (reading utcMs)).take most), .script opens closes reads)
  | _ => (yielded [], m)

/-- Take a conversion. -/
def convert (m : Meter) : Except MeterError Nat × Meter :=
  match m with
  | .analog input =>
      (input.samples.headD (.error .readFailed),
        .analog { input with samples := input.samples.tail })
  | _ => (.error .readFailed, m)

/-- Drive the pin. -/
def drive (m : Meter) (high : Bool) : Bool × Meter :=
  match m with
  | .analog input =>
      if input.recorded then
        (!(if high then input.failHigh else input.failLow),
          .analog { input with levels := high :: input.levels })
      else (true, m)
  | _ => (true, m)

/-- Note a delay. -/
def settle (m : Meter) (us : Nat) : Meter :=
  match m with
  | .analog input => .analog { input with delays := us :: input.delays }
  | _ => m

/-- Answer a call. -/
def answer (m : Meter) : (call : MeterCall) → call.Answer × Meter
  | .convert => m.convert
  | .drive high => m.drive high
  | .settle us => ((), m.settle us)
  | .openSource =>
      match m with
      | .script opens closes reads => (outcome opens.head?.join, .script opens.tail closes reads)
      | _ => (.ok (), m)
  | .closeSource =>
      match m with
      | .script opens closes reads => (outcome closes.head?.join, .script opens closes.tail reads)
      | _ => (.ok (), m)
  | .readSource most utcMs => m.readExternal most utcMs
  | .memory =>
      match m with
      | .memory free total => ((free, total), m)
      | _ => ((0, 0), m)

end Meter

end MeterNode.Bench
