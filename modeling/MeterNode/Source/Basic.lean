import MeterNode.Source.Adc
import MeterNode.Source.SelfMonitor

/-!
# Sources

A source is an analog meter, the self monitor, or an external meter that the node knows only by
what it answers.  All of them are opened, closed and read in the same way.
-/

namespace MeterNode

/-- A meter that is read through its own driver. -/
structure ExternalMeter where
  /-- The driver. -/
  device : Nat
  /-- The name of the protocol. -/
  protocol : String
  /-- The time between reads. -/
  interval : Instant
  /-- It cannot be read while the processor is slowed down. -/
  needsDefaultClock : Bool
  /-- It sits on hardware that the radio also drives. -/
  sharedBus : Bool

/-- Something that can be read. -/
inductive Source where
  | adc (meter : AdcMeter)
  | selfMonitor (monitor : SelfMonitor)
  | external (meter : ExternalMeter)

namespace Source

/-- The name of the protocol. -/
def protocol : Source → String
  | .adc _ => "genericAdc"
  | .selfMonitor _ => "selfmon"
  | .external m => m.protocol

/-- The time between reads. -/
def interval : Source → Instant
  | .adc m => m.interval
  | .selfMonitor m => m.interval
  | .external m => m.interval

/-- It cannot be read while the processor is slowed down. -/
def needsDefaultClock : Source → Bool
  | .external m => m.needsDefaultClock
  | _ => true

/-- It sits on hardware that the radio also drives. -/
def usesSharedBus : Source → Bool
  | .adc m => m.sharedBus
  | .selfMonitor _ => false
  | .external m => m.sharedBus

/-- Open the source. -/
def openSource : Source → Act (Except MeterError Unit × Source)
  | .adc m => do
      let (result, m) ← m.openMeter
      return (result, .adc m)
  | .selfMonitor m => return (.ok (), .selfMonitor m)
  | .external m => do
      return (← Act.meter m.device .openSource, .external m)

/-- Close the source. -/
def closeSource : Source → Act (Except MeterError Unit × Source)
  | .adc m => return (.ok (), .adc m.closeMeter)
  | .selfMonitor m => return (.ok (), .selfMonitor m)
  | .external m => do
      return (← Act.meter m.device .closeSource, .external m)

/-- Read at most `most` readings. -/
def read (s : Source) (supply : Option SupplyReading) (most utcMs : Nat) : Act ReadOutcome :=
  match s with
  | .adc m => m.read most utcMs
  | .selfMonitor m => m.read supply most utcMs
  | .external m => Act.meter m.device (.readSource most utcMs)

end Source

end MeterNode
