import MeterNode.Effect

/-!
# Clock speed

The processor runs at its default frequency or, to save power, at a lower step.  The controller
takes the frequency it finds as the default.  The low setting is the step below the default that
is nearest to the default divided by a given number, the lower one of two equally near.  The time
spent at either setting is booked in whole milliseconds.

The controller keeps no frequency of its own: it asks the processor each time.
-/

namespace MeterNode

/-- Where the counters of a controller stop. -/
def clockMillisMax : Nat := UInt64.size - 1

/-- Where the count of switches stops. -/
def switchesMax : Nat := UInt32.size - 1

/-- Time spent at each setting. -/
structure ClockStats where
  defaultMs : Nat := 0
  lowMs : Nat := 0
  /-- Changes of the frequency. -/
  switches : Nat := 0
deriving DecidableEq

/-- Switches the processor between two frequencies. -/
structure SpeedController where
  defaultMhz : Nat
  /-- Time was booked up to here. -/
  since : Instant
  stats : ClockStats := {}

/-- The distance of two numbers. -/
def distance (a b : Nat) : Nat := (a - b) + (b - a)

/-- The step nearest to `wanted`, the lower one of two. -/
def nearestStep (wanted : Nat) : List Nat → Option Nat
  | [] => none
  | step :: rest =>
      match nearestStep wanted rest with
      | none => some step
      | some best =>
          if distance best wanted < distance step wanted ∨
              (distance best wanted = distance step wanted ∧ best < step) then some best
          else some step

namespace SpeedController

/-- A controller for the processor as it runs now. -/
def new (now : Instant) : Act SpeedController := do
  return { defaultMhz := ← Act.cpu .currentMhz, since := now }

/-- Whether the processor runs at its default frequency. -/
def isDefault (c : SpeedController) : Act Bool := do
  let mhz : Nat ← Act.cpu .currentMhz
  return mhz == c.defaultMhz

/-- The low setting for a divisor; zero keeps the default. -/
def lowTarget (c : SpeedController) (divisor : Nat) : Act (Option Nat) := do
  if divisor = 0 then
    return none
  let steps ← Act.cpu .lowSteps
  return nearestStep (c.defaultMhz / divisor) (steps.filter (· < c.defaultMhz))

/-- Book the time since the last call to a setting. -/
def book (c : SpeedController) (now : Instant) (atDefault : Bool) : SpeedController :=
  let elapsed := (now.since c.since).millis
  let stats :=
    if atDefault then
      { c.stats with defaultMs := min (c.stats.defaultMs + elapsed) clockMillisMax }
    else { c.stats with lowMs := min (c.stats.lowMs + elapsed) clockMillisMax }
  { c with since := now, stats }

/-- Book the time since the last call to the setting in force. -/
def account (c : SpeedController) (now : Instant) : Act SpeedController := do
  return c.book now (← c.isDefault)

/-- Change the frequency. -/
def switchTo (c : SpeedController) (mhz : Nat) (now : Instant) : Act (Bool × SpeedController) := do
  let source : Nat ← Act.cpu .currentMhz
  let c ← c.account now
  let switch := "from_mhz=" ++ toString source ++ " to_mhz=" ++ toString mhz
  if !(← Act.cpu (.setMhz mhz)) then
    Act.log .warn ("clock: switch failed " ++ switch)
    return (false, c)
  Act.log .debug ("clock: " ++ switch)
  return (true, { c with stats := { c.stats with switches := min (c.stats.switches + 1) switchesMax } })

/-- Go to the default frequency, and say whether it is in force. -/
def setDefault (c : SpeedController) (now : Instant) : Act (Bool × SpeedController) := do
  if ← c.isDefault then
    return (true, c)
  c.switchTo c.defaultMhz now

/-- Go to the low setting, and say whether it is in force. -/
def setLow (c : SpeedController) (divisor : Nat) (now : Instant) :
    Act (Bool × SpeedController) := do
  match ← c.lowTarget divisor with
  | none => return (false, c)
  | some target =>
      let mhz : Nat ← Act.cpu .currentMhz
      if mhz = target then
        return (true, c)
      c.switchTo target now

end SpeedController

end MeterNode
