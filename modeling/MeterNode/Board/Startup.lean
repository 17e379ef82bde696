import MeterNode.Board.Processor
import MeterNode.Board.TimeClient
import MeterNode.Schedule.Assignment
import MeterNode.Schedule.Setup

/-!
# Starting the node

The board is brought up first: memory, log, timers, light, pins, radio and network stack.  Then its
tasks run, one of which starts the node.

1. The channels are handed out to the sources of the board: an analog meter and the self monitor.
2. The radio joins the network.
3. The time server gives the first time reference.
4. The connection to the collector is made, and the status server starts.
5. The sources are opened, and the scheduler runs from then on.

A board that cannot be brought up, and a node that cannot start, is reset after a moment, in which
the log gets through.
-/

namespace MeterNode

/-- The memory of the node, in bytes. -/
def heapBytes : Nat := 72 * 1024

/-- The sockets of the network stack. -/
def stackSockets : Nat := 7

/-- The longest name that can be asked for on the network, in bytes. -/
def hostnameMax : Nat := 32

/-- How long a fatal fault is shown before the board is reset, in milliseconds. -/
def faultShownMs : Nat := 200

/-- The place of the analog meter among the devices. -/
def analogDevice : Nat := 0

/-- The place of the memory among the devices. -/
def memoryDevice : Nat := 1

/-- The sources of the board. -/
def boardPlans : List SourcePlan :=
  [⟨.adc { device := analogDevice, hasControl := false, factor := 1.0,
            interval := Instant.ofSeconds 60 }, [none]⟩,
    ⟨.selfMonitor ⟨memoryDevice, Instant.ofSeconds 300⟩,
      [some "MemFree", some "MemTotal", some "Voltage", some "OnBattery"]⟩]

namespace Job

/-! ## Bringing the board up -/

/-- Enable the pins that are measured. -/
def enablePins : Job Unit := do
  milestone (.enablePin meterPin)
  milestone (.enablePin supplyPin)

/-- Make the network stack.  A name that is too long is not asked for. -/
def makeNetwork (hostname : String) : Job Unit := do
  let high : Nat ← hardware .random
  let low : Nat ← hardware .random
  let asked := if hostname.utf8ByteSize ≤ hostnameMax then some hostname else none
  milestone (.makeNetwork asked stackSockets (high * UInt32.size + low))

/-- Make radio, station and network stack.  The answer says what failed. -/
def setUpNetwork (hostname : String) : Job (Except String Unit) := do
  if !(← hardware .startRadio) then
    return .error "esp_radio::init failed"
  if !(← hardware (.makeStation {})) then
    return .error "wifi init failed"
  makeNetwork hostname
  return .ok ()

/-- Make just what the radio needs: pins, light, station and network stack. -/
def setUpStation (hostname : String) : Job (Except String Unit) := do
  enablePins
  milestone .lightOff
  setUpNetwork hostname

/-- Reset a board that could not be brought up. -/
def resetNow (cause : String) : Job Unit := do
  milestone (.print ("meterlink: fatal " ++ cause ++ " resetting"))
  milestone (.holdUp faultShownMs)
  milestone .reset

/-- Bring the board up, and say whether that worked. -/
def bringUp (settings : BuildSettings) : Job Bool := do
  milestone (.claimMemory heapBytes)
  milestone (.startLog .info)
  milestone (.print (generator ++ " " ++ version ++ " starting"))
  milestone .startTimers
  milestone .lightOff
  enablePins
  match ← setUpNetwork settings.hostname with
  | .ok () => return true
  | .error cause => do
      resetNow cause
      return false

/-! ## The node on the board -/

/-- Answer an operation of the node. -/
def answer (settings : BuildSettings) : (op : Effect) → Job op.Answer
  | .log level text => log level text
  | .count tally => Prog.perform (S := Device) (.count tally)
  | .counters => Prog.perform (S := Device) .counters
  | .now => now
  | .net call => net call
  | .takeEvents => do
      let d ← desk
      setDesk { d with events := [] }
      return d.events
  | .radio call => radio (settings.wifiSsid.getD "") settings.wifiPassword call
  | .cpu call => cpu call
  | .meter _ call => meter call
  | .pause _ ms => pause ms
  | .utc => askTime settings.ntpServer

/-- Run a program of the node on the board. -/
def node {α : Type} (settings : BuildSettings) (p : Act α) : Job α :=
  Prog.lower (fun op => answer settings op) p

/-- Log the sources. -/
def logSources : List PlannedSource → Job Unit
  | [] => return ()
  | p :: rest => do
      log .info ("boot: source protocol=" ++ p.source.protocol ++ " channels=" ++
        toString p.channels.length)
      logSources rest

/-- Log the address on the network. -/
def logAddress : Job Unit := do
  let address : Option Address ← hardware .ownAddress
  match address with
  | none => pure ()
  | some a => log .info ("boot: address=" ++ a.text)

/-- Join the network. -/
def enableRadio (settings : BuildSettings) : Job (Except Fault RadioController) := do
  if settings.wifiSsid.isNone then
    log .error "boot: no wifi ssid configured"
    return .error .radioUnavailable
  let radio ← node settings (RadioController.new {})
  let (up, radio) ← node settings (radio.enable 0)
  return if up then .ok radio else .error .radioUnavailable

/-- Get the first time reference. -/
def firstReference (settings : BuildSettings) : Job (Except Fault TimeSync) := do
  let utc ← askTime settings.ntpServer
  let start ← now
  match TimeSync.initial utc start with
  | none => return .error .noTimeReference
  | some time => return .ok time

/-- Make the connection to the collector and start the status server. -/
def connectNode (settings : BuildSettings) :
    Job (Except Fault (ConnId × String × Registry)) := do
  match ← node settings ((Registry.new {}).addCollector settings.middleware) with
  | (.error cause, _) => return .error (.registry cause)
  | (.ok (id, path), registry) => do
      match ← node settings (registry.startServer statusPort) with
      | (.error cause, _) => return .error (.registry cause)
      | (.ok _, registry) => return .ok (id, path, registry)

/-- Put the scheduler together and start it. -/
def startScheduler (settings : BuildSettings) (planned : List PlannedSource)
    (radio : RadioController) (time : TimeSync) : Job (Except Fault Scheduler) := do
  match ← connectNode settings with
  | .error fault => return .error fault
  | .ok (conn, basePath, registry) => do
      let start ← now
      let speed ← node settings (SpeedController.new start)
      let s : Scheduler :=
        { entries := planned.map (·.toEntry conn basePath)
          registry, radio, speed, time
          policy := ({} : SchedulerPolicy).sanitized
          heap := some memoryDevice
          tzOffsetMin := settings.tzOffsetMin }
      let (started, s) ← node settings s.start
      return started.map fun () => s

/-- Start the node. -/
def start (settings : BuildSettings) : Job (Except Fault Scheduler) := do
  let planned ← node settings (assignChannels boardPlans settings.channelUuid)
  if planned.isEmpty then
    return .error .noSources
  logSources planned
  match ← enableRadio settings with
  | .error fault => return .error fault
  | .ok radio => do
      logAddress
      match ← firstReference settings with
      | .error fault => return .error fault
      | .ok time => startScheduler settings planned radio time

/-- Start the node, or find out why it cannot start. -/
def startNode (settings : BuildSettings) : Job Stage := do
  match ← start settings with
  | .ok s => return .running settings s
  | .error fault => return .failing fault

/-- Show why the node cannot go on, and reset the board. -/
def fail (fault : Fault) : Job Stage := do
  log .error ("boot: fatal err=" ++ fault.text ++ " resetting")
  pause faultShownMs
  milestone .reset
  return .idle

end Job

end MeterNode
