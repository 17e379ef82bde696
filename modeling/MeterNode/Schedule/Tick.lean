import MeterNode.Schedule.Basic

/-!
# Ticks

A tick goes through the node once.

1. The reports of the transport are applied, visitors are answered, and exchanges that take too
   long are ended.
2. Every entry is read if it is due, and its upload takes a step or begins.
3. The send window closes if it is complete.
4. While the radio is up, the light flashes, the supply is measured and the clock is compared with
   the time server if that is due.  Then the radio goes off unless an entry needs it, provided that
   nothing is due soon or uploads have their own interval.
5. With the radio off, the processor is slowed down.
6. Every so many ticks the state of the node is logged.
-/

namespace MeterNode

open MeterNode.Text MeterNode.Calendar

namespace Scheduler

/-- The name of a supply. -/
def supplyName (onBattery : Bool) : String := if onBattery then "battery" else "usb"

/-- Measure the supply. -/
def measureSupply (s : Scheduler) (logIt : Bool) : Act Scheduler := do
  let utcMs := s.time.utcMs (← Act.now)
  match ← s.radio.measure utcMs with
  | none => return s
  | some reading => do
      if logIt then
        Act.log .info ("sched: power source=" ++ supplyName reading.onBattery ++ " volts=" ++
          fixed 2 reading.volts.toFloat)
      return { s with supply := some reading }

/-- Compare the clock with the time server. -/
def resyncTime (s : Scheduler) : Act Scheduler := do
  let utc : Nat ← Act.utc
  let now ← Act.now
  match ← s.time.compare utc now with
  | (some correction, time) => do
      Act.count (.resync true)
      Act.log .info ("sched: time resync " ++ localStamp utc s.tzOffsetMin ++
        " correction_ms=" ++ toString correction)
      return { s with time, resyncDue := false }
  | (none, time) => do
      Act.count (.resync false)
      Act.log .warn "sched: time resync failed; retrying while radio is up"
      return { s with time }

/-- Shut the network and the radio down. -/
def radioOff (s : Scheduler) : Act Scheduler := do
  let registry ← s.registry.releaseAll
  let radio ← s.radio.disable
  let now ← Act.now
  radio.logStatistics
  match s.supply with
  | none => pure ()
  | some supply =>
      Act.log .info ("sched: last supply volts=" ++ fixed 2 supply.volts.toFloat ++
        " on_battery=" ++ toString supply.onBattery)
  return { s with registry, radio }.closeWindow now

/-- The radio may go off although it works: no read is due soon, or uploads have an interval. -/
def mayRest (s : Scheduler) (nextDue : Instant) : Bool :=
  nextDue > Instant.ofSeconds s.policy.radioOffHorizonS || s.policy.sendIntervalS > 0

/-- What is done while the radio is up.  The answer says whether it still is. -/
def whileUp (s : Scheduler) (keep statusTick : Bool) (nextDue : Instant) :
    Act (Bool × Scheduler) := do
  s.radio.blink
  let s ← s.measureSupply statusTick
  let s ← if s.resyncDue then s.resyncTime else pure s
  if !keep && s.mayRest nextDue then
    return (false, ← s.radioOff)
  return (true, s)

/-- Ask whether the radio is up. -/
def askRadio (s : Scheduler) : Act (Bool × Scheduler) := do
  let (up, radio) ← s.radio.isConnected
  return (up, { s with radio })

/-- Look after the radio if the processor runs at its default frequency.  The answer says whether
the radio is up. -/
def tendRadio (s : Scheduler) (keep atDefault statusTick : Bool) (nextDue : Instant) :
    Act (Bool × Scheduler) := do
  if !atDefault then
    return (false, s)
  let (up, s) ← s.askRadio
  if up then s.whileUp keep statusTick nextDue else return (false, s)

/-- Slow the processor down if the radio is off.  The answer says whether it runs at its default
frequency. -/
def lowerClock (s : Scheduler) (atDefault : Bool) : Act (Bool × Scheduler) := do
  if !atDefault then
    return (false, s)
  let (up, s) ← s.askRadio
  if up || s.policy.lowClockDivisor = 0 then
    return (true, s)
  let now ← Act.now
  let (low, speed) ← s.speed.setLow s.policy.lowClockDivisor now
  return (!low, { s with speed })

/-- Log the memory. -/
def logHeap (s : Scheduler) : Act Unit :=
  match s.heap with
  | none => return ()
  | some device => do
      let memory : Nat × Nat ← Act.meter device .memory
      Act.log .info ("sched: heap free=" ++ toString memory.1 ++ " total=" ++ toString memory.2)

/-- Log one channel each. -/
def logChannels (protocol : String) : List MeterChannel → Act Unit
  | [] => return ()
  | c :: rest => do
      Act.log .info ("sched: uuid=" ++ c.uuid ++ " protocol=" ++ protocol ++ " buffered=" ++
        toString c.pending.length ++ " dropped=" ++ toString c.dropped)
      logChannels protocol rest

/-- Log the channels of one entry each. -/
def logEntries : List Entry → Act Unit
  | [] => return ()
  | e :: rest => do
      logChannels e.source.protocol e.channels
      logEntries rest

/-- Log the uploads. -/
def logUploads : Act Unit := do
  let t : Telemetry ← Act.counters
  Act.log .info ("sched: uploads ok=" ++ toString t.uploadsOk ++ " rejected=" ++
    toString t.uploadsRejected ++ " abandoned=" ++ toString t.uploadsAbandoned ++ " samples=" ++
    toString t.samplesSent ++ " conn_err=" ++ toString t.connFailures ++ " timeouts=" ++
    toString t.connTimeouts)

/-- Log the state of the node. -/
def logStatus (s : Scheduler) (nextDue : Instant) (radioUp : Bool) : Act Scheduler := do
  let now ← Act.now
  let speed ← s.speed.account now
  let mhz : Nat ← Act.cpu .currentMhz
  Act.log .info ("sched: " ++ localStamp (s.time.utcSeconds now) s.tzOffsetMin ++ " tick=" ++
    toString s.ticks ++ " next_due_s=" ++ toString nextDue.seconds ++ " radio=" ++
    (if radioUp then "on" else "off") ++ " mhz=" ++ toString mhz ++ " default_s=" ++
    toString (speed.stats.defaultMs / 1000) ++ " low_s=" ++ toString (speed.stats.lowMs / 1000))
  let s := { s with speed }
  s.logHeap
  logEntries s.entries
  logUploads
  s.radio.logStatistics
  return s

/-- Count a tick. -/
def countTick (s : Scheduler) : Act Scheduler := do
  let ticks := s.ticks + 1
  Act.count .tick
  return { s with
    ticks
    resyncDue := s.resyncDue || ticks.toNat % s.policy.timeResyncTicks == 0 }

/-- The state of the node is logged in this tick. -/
def isStatusTick (s : Scheduler) : Bool := s.ticks.toNat % s.policy.statusLogTicks == 0

/-- Go through the node once. -/
def tick (s : Scheduler) : Act (TickReport × Scheduler) := do
  let now ← Act.now
  let s ← s.countTick
  let s ← s.serviceNetwork now
  let atDefault ← s.speed.isDefault
  let (keep, atDefault, s) ←
    serveEntries now (List.range s.entries.length) false atDefault s
  let s ← s.completeWindow now
  let nextDue := s.nextDue now
  let (radioUp, s) ← s.tendRadio keep atDefault s.isStatusTick nextDue
  let (atDefault, s) ← s.lowerClock atDefault
  let s ← if s.isStatusTick then s.logStatus nextDue radioUp else pure s
  return (⟨nextDue, radioUp, atDefault⟩, s)

/-- One tick and the pause after it. -/
def tickAndPause (s : Scheduler) : Act Scheduler := do
  let (_, s) ← s.tick
  Act.pause .scheduler s.policy.tickMs
  return s

end Scheduler

end MeterNode
