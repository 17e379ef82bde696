import MeterNode.Calendar.LocalTime
import MeterNode.Cpu.Speed
import MeterNode.Radio.Controller
import MeterNode.Schedule.Entry
import MeterNode.Schedule.Exchanges
import MeterNode.Schedule.Fault
import MeterNode.Time.Sync

/-!
# The scheduler

The scheduler owns everything the node is made of and decides what happens in a tick.  Uploads
happen in send windows.  A window opens with the first upload once enough time has passed since the
last one was complete, and closes when no entry has a batch out or samples to send, or when the
radio goes off.  Closing a window releases the entries held in it.
-/

namespace MeterNode

/-- The node. -/
structure Scheduler where
  entries : List Entry
  registry : Registry
  radio : RadioController
  speed : SpeedController
  time : TimeSync
  policy : SchedulerPolicy
  /-- The last measurement of the supply. -/
  supply : Option SupplyReading := none
  /-- The memory that status lines show. -/
  heap : Option Nat := none
  /-- Minutes by which local winter time is ahead of UTC. -/
  tzOffsetMin : Int := 0
  ticks : UInt32 := 0
  /-- When the last send window was complete. -/
  lastSendComplete : Instant := 0
  /-- A send window is open. -/
  windowOpen : Bool := false
  /-- The clock is to be compared with the time server. -/
  resyncDue : Bool := false
  /-- The entries whose batches are out. -/
  exchanges : Exchanges := []

/-- What a tick came to. -/
structure TickReport where
  /-- The time until the next read. -/
  nextDue : Instant
  radioUp : Bool
  /-- The processor runs at its default frequency. -/
  clockDefault : Bool
deriving DecidableEq

namespace Scheduler

/-- Put an entry into its place. -/
def setEntry (s : Scheduler) (index : Nat) (e : Entry) : Scheduler :=
  { s with entries := s.entries.set index e }

/-- Hold the entry at a place. -/
def hold (s : Scheduler) (index : Nat) : Scheduler :=
  { s with entries := s.entries.modify index fun e => { e with held := true } }

/-- The time until the next read of any entry. -/
def nextDue (s : Scheduler) (now : Instant) : Instant :=
  ((s.entries.map (·.readDueIn now)).min?).getD 0

/-- What the status page shows. -/
def views (s : Scheduler) : List ChannelView := s.entries.flatMap Entry.views

/-! ## Starting -/

/-- Open every source. -/
def openEntries : List Entry → Act (List Entry)
  | [] => return []
  | e :: rest => do
      let (result, e) ← e.openEntry
      match result with
      | .ok () => pure ()
      | .error cause =>
          Act.log .error ("sched: open failed protocol=" ++ e.source.protocol ++ " err=" ++
            cause.text)
      return e :: (← openEntries rest)

/-- Open every source and start the first send window.  Without a source there is nothing to do. -/
def start (s : Scheduler) : Act (Except Fault Unit × Scheduler) := do
  if s.entries.isEmpty then
    return (.error .noSources, s)
  let entries ← openEntries s.entries
  let now ← Act.now
  Act.log .info ("sched: started entries=" ++ toString entries.length ++ " cpu_mhz=" ++
    toString s.speed.defaultMhz)
  return (.ok (), { s with entries, lastSendComplete := now })

/-! ## Network -/

/-- Apply the reports that wait, answer visitors, and end what takes too long. -/
def serviceNetwork (s : Scheduler) (now : Instant) : Act Scheduler := do
  let (_, registry) ← s.registry.pump now
  let registry ← if registry.requests.isEmpty then pure registry
    else registry.answerRequests fun request =>
      some <$> Status.serve registry.policy.indexEnabled s.views request
  return { s with registry := ← registry.pollAll now }

/-! ## Reading -/

/-- Read an entry at UTC milliseconds; a source on the shared bus is read while the bus is held. -/
def readEntry (s : Scheduler) (index : Nat) (e : Entry) (now : Instant) : Act Scheduler := do
  let body := e.read s.supply (s.time.utcMs now) now
  let (result, e) ← if e.source.usesSharedBus then s.radio.withBus body else body
  match result with
  | .ok _ => pure ()
  | .error cause =>
      Act.log .warn ("sched: read failed protocol=" ++ e.source.protocol ++ " err=" ++ cause.text)
  return s.setEntry index e

/-- Go to the default frequency unless it is in force, and say whether it is. -/
def raiseClock (s : Scheduler) (now : Instant) (atDefault : Bool) : Act (Bool × Scheduler) := do
  if atDefault then
    return (true, s)
  let (atDefault, speed) ← s.speed.setDefault now
  return (atDefault, { s with speed })

/-- Read the entry at a place if it is due, and say whether the processor runs at its default
frequency afterwards. -/
def readIfDue (s : Scheduler) (index : Nat) (now : Instant) (atDefault : Bool) :
    Act (Bool × Scheduler) :=
  match s.entries[index]? with
  | none => return (atDefault, s)
  | some e => do
      if e.readDueIn now > 0 then
        return (atDefault, s)
      let (atDefault, s) ←
        if e.source.needsDefaultClock then s.raiseClock now atDefault else pure (atDefault, s)
      return (atDefault, ← s.readEntry index e now)

/-! ## Sending -/

/-- Take one step of the upload of an entry on its connection. -/
def stepUpload (s : Scheduler) (index : Nat) (e : Entry) (conn : Connection) (now : Instant) :
    Act Scheduler := do
  let (progress, e, conn) ← e.service conn now
  let s := { s with registry := s.registry.set conn }.setEntry index e
  let s ← match progress with
    | .failed cause => do
        Act.log .error ("sched: send failed id=" ++ conn.label ++ " err=" ++ cause.text)
        pure (s.hold index)
    | .delivered samples => do
        Act.log .debug ("sched: entry=" ++ toString index ++ " delivered samples=" ++
          toString samples)
        pure s
    | _ => pure s
  return { s with exchanges := s.exchanges.book e.conn index e.isBusy }

/-- Take one step of the upload of the entry at a place, unless another entry owns the
connection. -/
def serviceEntry (s : Scheduler) (index : Nat) (now : Instant) : Act Scheduler :=
  match s.entries[index]? with
  | none => return s
  | some e =>
      match (s.exchanges.owner? e.conn).filter (· ≠ index) with
      | some owner => do
          Act.log .debug ("sched: entry=" ++ toString index ++ " waits for entry=" ++
            toString owner ++ " conn=" ++ toString e.conn.index)
          return s
      | none =>
          match s.registry.get? e.conn with
          | none => do
              Act.log .error ("sched: entry=" ++ toString index ++ " has no connection id=" ++
                toString e.conn.index)
              return s.hold index
          | some conn => s.stepUpload index e conn now

/-- The entry at a place has a batch out or something to send. -/
def needsRadio (s : Scheduler) (index : Nat) : Bool :=
  s.entries[index]?.any fun e => e.isBusy || e.sendPending

/-- A send window is open, or one may be opened. -/
def windowAllowed (s : Scheduler) (now : Instant) : Bool :=
  s.windowOpen || now.since s.lastSendComplete ≥ Instant.ofSeconds s.policy.sendIntervalS

/-- Bring the radio up unless it is, and say whether it is. -/
def raiseRadio (s : Scheduler) : Act (Bool × Scheduler) := do
  let (up, radio) ← s.radio.isConnected
  if up then
    return (true, { s with radio })
  let (up, radio) ← radio.enable 0
  return (up, { s with radio })

/-- Begin the upload of the entry at a place, and wait for the lookup that this may need. -/
def beginUpload (s : Scheduler) (index : Nat) (conn : ConnId) : Act Scheduler := do
  let now ← Act.now
  let s ← { s with windowOpen := true }.serviceEntry index now
  if s.registry.state? conn = some .dns then
    let (_, registry) ← s.registry.awaitDns conn now
    return { s with registry }
  return s

/-- Go on with the upload of the entry at a place, or begin one, and say whether it needs the
radio and whether the processor runs at its default frequency. -/
def sendIfReady (s : Scheduler) (index : Nat) (now : Instant) (atDefault : Bool) :
    Act (Bool × Bool × Scheduler) :=
  match s.entries[index]? with
  | none => return (false, atDefault, s)
  | some e => do
      if e.isBusy then
        let s ← s.serviceEntry index now
        return (s.needsRadio index, atDefault, s)
      if !e.sendPending || !s.windowAllowed now then
        return (false, atDefault, s)
      let (atDefault, s) ← s.raiseClock now atDefault
      let (up, s) ← s.raiseRadio
      if !up then
        Act.log .warn "sched: radio unavailable; send deferred"
        return (false, atDefault, s)
      let s ← s.beginUpload index e.conn
      return (s.needsRadio index, atDefault, s)

/-- Read and send the entries from a place on.  The answer says whether any of them needs the
radio and whether the processor runs at its default frequency. -/
def serveEntries (now : Instant) :
    List Nat → Bool → Bool → Scheduler → Act (Bool × Bool × Scheduler)
  | [], keep, atDefault, s => return (keep, atDefault, s)
  | index :: rest, keep, atDefault, s => do
      let (atDefault, s) ← s.readIfDue index now atDefault
      let (needs, atDefault, s) ← s.sendIfReady index now atDefault
      serveEntries now rest (keep || needs) atDefault s

/-! ## Send windows -/

/-- Close the send window and release the entries held in it. -/
def closeWindow (s : Scheduler) (now : Instant) : Scheduler :=
  { s with
    windowOpen := false
    lastSendComplete := now
    entries := s.entries.map fun e => { e with held := false } }

/-- Close the send window once no entry has a batch out or something to send. -/
def completeWindow (s : Scheduler) (now : Instant) : Act Scheduler := do
  if !s.windowOpen || s.entries.any (fun e => e.isBusy || e.sendPending) then
    return s
  Act.log .debug ("sched: send window complete tick=" ++ toString s.ticks)
  return s.closeWindow now

end Scheduler

end MeterNode
