import MeterNode.Effect
import MeterNode.Text.Fixed

/-!
# Analog meters

An analog meter averages five conversions of a 12-bit input and scales the average.  A sensor may
have a pin that powers it: the pin is driven high before the conversions, given time to settle, and
driven low afterwards, whether the conversions worked or not.  The first conversion that fails ends
the read.
-/

namespace MeterNode

open MeterNode.Text

/-- Conversions averaged by one read. -/
def conversionsPerRead : Nat := 5

/-- The time a powered sensor needs, in microseconds. -/
def settleUs : Nat := 10

/-- Volts per count: the reference of the converter over its full scale. -/
def voltsPerCount : Float := 3.3 / 4096.0

/-- A meter on an analog input. -/
structure AdcMeter where
  /-- The input. -/
  device : Nat
  /-- Whether a pin powers the sensor. -/
  hasControl : Bool
  factor : Float
  /-- The time between reads. -/
  interval : Instant
  /-- The input sits on hardware that the radio also drives. -/
  sharedBus : Bool := false
  isOpen : Bool := false

namespace AdcMeter

/-- A count as a value. -/
def scale (m : AdcMeter) (raw : Nat) : Float := Float.ofNat raw * m.factor * voltsPerCount

/-- Open the meter, with the sensor off. -/
def openMeter (m : AdcMeter) : Act (Except MeterError Unit × AdcMeter) := do
  if m.hasControl then
    if !(← Act.meter m.device (.drive false)) then
      return (.error .openFailed, m)
  return (.ok (), { m with isOpen := true })

/-- Close the meter. -/
def closeMeter (m : AdcMeter) : AdcMeter := { m with isOpen := false }

/-- Some more conversions, added to those before; the first failure ends them. -/
def convertMore (device : Nat) : Nat → Nat → Act (Except MeterError Nat)
  | 0, sum => return .ok sum
  | left + 1, sum => do
      match ← Act.meter device .convert with
      | .error e => return .error e
      | .ok raw => convertMore device left (sum + raw)

/-- The rounded-down mean of the conversions of one read. -/
def average (m : AdcMeter) : Act (Except MeterError Nat) := do
  return (← convertMore m.device conversionsPerRead 0).map (· / conversionsPerRead)

/-- Average with the sensor powered, and power it down again. -/
def averagePowered (m : AdcMeter) : Act (Except MeterError Nat) := do
  if m.hasControl then
    if !(← Act.meter m.device (.drive true)) then
      return .error .readFailed
    Act.meter m.device (.settle settleUs)
    let result ← m.average
    discard <| Act.meter m.device (.drive false)
    return result
  else
    m.average

/-- Read the meter: at most one reading, stamped with the given time. -/
def read (m : AdcMeter) (most utcMs : Nat) : Act ReadOutcome := do
  if !m.isOpen then
    return ⟨[], .error .notOpen⟩
  if most = 0 then
    return ⟨[], .ok 0⟩
  match ← m.averagePowered with
  | .error e => return ⟨[], .error e⟩
  | .ok raw =>
      let value := m.scale raw
      Act.log .debug ("adc: raw=" ++ toString raw ++ " value=" ++ fixed 2 value)
      return ⟨[⟨none, utcMs, value⟩], .ok 1⟩

end AdcMeter

end MeterNode
