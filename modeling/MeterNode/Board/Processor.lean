import MeterNode.Board.Station

/-!
# The processor of the board

The frequency of the processor is chosen by a selector with three settings.  A selector outside of
them is the fastest one.  The converter of the meter pin is shared, so it may be held elsewhere;
a meter that finds it held does not wait.
-/

namespace MeterNode

/-- The frequencies by selector, in megahertz. -/
def frequencies : List Nat := [80, 160, 240]

/-- The frequencies that save power. -/
def lowFrequencies : List Nat := [160, 80]

/-- The frequency of a selector. -/
def frequencyOf (selector : Nat) : Nat := frequencies.getD selector 240

/-- The selector of a frequency. -/
def selectorOf? (mhz : Nat) : Option Nat := frequencies.idxOf? mhz

namespace Job

/-- The frequency of the processor. -/
def frequency : Job Nat := do
  let selector : Nat ← hardware .clockSelector
  return frequencyOf selector

/-- Change the frequency of the processor, and say whether there is such a frequency. -/
def setFrequency (mhz : Nat) : Job Bool :=
  match selectorOf? mhz with
  | none => return false
  | some selector => do
      hardware (.setClockSelector selector)
      return true

/-- Answer a call of the processor clock. -/
def cpu : (call : CpuCall) → Job call.Answer
  | .currentMhz => frequency
  | .lowSteps => return lowFrequencies
  | .setMhz mhz => setFrequency mhz

/-- Convert the voltage at the meter pin, unless the converter is held. -/
def convertMeter (held : Bool) : Job (Except MeterError Nat) := do
  if held then
    return .error .bus
  match ← hardware (.convert meterPin) with
  | none => return .error .readFailed
  | some raw => return .ok raw

/-- Free and total memory. -/
def memory : Job (Nat × Nat) := do
  let (used, free) ← (hardware .memory : Job (Nat × Nat))
  return (free, used + free)

/-- Answer a call of a meter's input.  The analog meter of the board has no pin that powers it. -/
def meter : (call : MeterCall) → Job call.Answer
  | .convert => convertMeter false
  | .drive _ => return true
  | .settle _ => return ()
  | .openSource => return .ok ()
  | .closeSource => return .ok ()
  | .readSource .. => return ⟨[], .ok 0⟩
  | .memory => memory

end Job

end MeterNode
