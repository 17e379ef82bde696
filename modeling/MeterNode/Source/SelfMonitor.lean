import MeterNode.Effect

/-!
# The self monitor

The node publishes its own health as a source: free and total memory now, and the supply voltage
with its kind as they were last measured.  Supply readings carry the time of the measurement and
are absent until there has been one.
-/

namespace MeterNode

/-- A source that publishes the health of the node. -/
structure SelfMonitor where
  /-- The memory that is looked at. -/
  device : Nat
  /-- The time between reads. -/
  interval : Instant

namespace SelfMonitor

/-- The supply measurement as readings. -/
def supplyReadings : Option SupplyReading → List Reading
  | none => []
  | some s =>
      [⟨some "Voltage", s.utcMs, s.volts.toFloat⟩,
        ⟨some "OnBattery", s.utcMs, if s.onBattery then 1.0 else 0.0⟩]

/-- All readings, in order. -/
def readings (memory : Nat × Nat) (supply : Option SupplyReading) (utcMs : Nat) : List Reading :=
  ⟨some "MemFree", utcMs, Float.ofNat memory.1⟩ ::
    ⟨some "MemTotal", utcMs, Float.ofNat memory.2⟩ :: supplyReadings supply

/-- Read the monitor. -/
def read (m : SelfMonitor) (supply : Option SupplyReading) (most utcMs : Nat) :
    Act ReadOutcome := do
  let memory ← Act.meter m.device .memory
  let taken := (readings memory supply utcMs).take most
  return ⟨taken, .ok taken.length⟩

end SelfMonitor

end MeterNode
