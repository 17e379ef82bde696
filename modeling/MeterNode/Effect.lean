import MeterNode.Connection.Event
import MeterNode.Log
import MeterNode.Prog
import MeterNode.Radio.Status
import MeterNode.Sample.Reading
import MeterNode.Telemetry
import MeterNode.Time.Instant

/-!
# What the node asks of its surroundings

The logic of the node is a program over one signature, `Node`.  It writes log lines and books
tallies, reads the clock, and talks to five kinds of device: a transport, the radio, the processor
clock, the inputs of meters, and a time server.  Some operations take time: pauses, joins, powering
the radio and asking for the time.  Time passes only inside these.

Devices that exist several times are numbered.
-/

namespace MeterNode

open MeterNode.Text

/-- What a lookup gave. -/
inductive Resolution where
  /-- The address is known already. -/
  | resolved (address : Address)
  /-- The answer will be reported. -/
  | pending

/-- Calls of a transport.  None of them blocks. -/
inductive NetCall where
  | openSocket (secure : Bool)
  /-- Send the reports of a socket to a connection. -/
  | register (handle : Handle) (owner : ConnId)
  | unregister (handle : Handle)
  | close (handle : Handle)
  | abort (handle : Handle)
  | resolve (host : String) (owner : ConnId)
  | connect (handle : Handle) (address : Address) (port : Nat)
  | write (handle : Handle) (bytes : Bytes)
  /-- Accept visitors, one at a time. -/
  | listen (port : Nat) (owner : ConnId)

/-- The answers of a transport. -/
abbrev NetCall.Answer : NetCall → Type
  | .openSocket _ => Except NetError Handle
  | .register .. => Unit
  | .unregister _ => Unit
  | .close _ => Except NetError Unit
  | .abort _ => Unit
  | .resolve .. => Except NetError Resolution
  | .connect .. => Except NetError Unit
  | .write .. => Except NetError Unit
  | .listen .. => Except NetError Handle

/-- Calls of the radio. -/
inductive RadioCall where
  | powerUp
  | powerDown
  /-- Associate and wait for an address, for a limited time. -/
  | join (timeoutMs : Nat)
  | status
  | light (on : Bool)
  | measure
  | acquireBus
  | releaseBus

/-- The answers of the radio. -/
abbrev RadioCall.Answer : RadioCall → Type
  | .powerUp => Except RadioError Unit
  | .powerDown => Unit
  | .join _ => Except RadioError Unit
  | .status => LinkStatus
  | .light _ => Unit
  | .measure => Option SupplyLevel
  | .acquireBus => Unit
  | .releaseBus => Unit

/-- Calls of the processor clock. -/
inductive CpuCall where
  | currentMhz
  /-- The frequencies that save power. -/
  | lowSteps
  /-- Change the frequency, and say whether that worked. -/
  | setMhz (mhz : Nat)

/-- The answers of the processor clock. -/
abbrev CpuCall.Answer : CpuCall → Type
  | .currentMhz => Nat
  | .lowSteps => List Nat
  | .setMhz _ => Bool

/-- Calls of a meter's input. -/
inductive MeterCall where
  /-- One conversion of an analog input. -/
  | convert
  /-- Drive the pin that powers a sensor, and say whether that worked. -/
  | drive (high : Bool)
  /-- Wait for a sensor to settle. -/
  | settle (us : Nat)
  /-- Open an external source. -/
  | openSource
  /-- Close an external source. -/
  | closeSource
  /-- Read an external source. -/
  | readSource (most utcMs : Nat)
  /-- Free and total memory. -/
  | memory

/-- The answers of a meter's input. -/
abbrev MeterCall.Answer : MeterCall → Type
  | .convert => Except MeterError Nat
  | .drive _ => Bool
  | .settle _ => Unit
  | .openSource => Except MeterError Unit
  | .closeSource => Except MeterError Unit
  | .readSource .. => ReadOutcome
  | .memory => Nat × Nat

/-- Who pauses. -/
inductive Pauser where
  | radio
  | scheduler
deriving DecidableEq

/-- The operations of the node. -/
inductive Effect where
  | log (level : Level) (text : String)
  | count (tally : Tally)
  /-- Read the counters. -/
  | counters
  /-- Read the monotonic clock. -/
  | now
  | net (call : NetCall)
  /-- Take all reports that wait, the oldest first. -/
  | takeEvents
  | radio (call : RadioCall)
  | cpu (call : CpuCall)
  | meter (device : Nat) (call : MeterCall)
  | pause (who : Pauser) (ms : Nat)
  /-- Ask for UTC seconds; zero if there was no answer. -/
  | utc

/-- The answers to the operations of the node. -/
abbrev Effect.Answer : Effect → Type
  | .log .. => Unit
  | .count _ => Unit
  | .counters => Telemetry
  | .now => Instant
  | .net call => call.Answer
  | .takeEvents => List TransportEvent
  | .radio call => call.Answer
  | .cpu call => call.Answer
  | .meter _ call => call.Answer
  | .pause .. => Unit
  | .utc => Nat

/-- The signature of the node. -/
def Node : Signature := ⟨Effect, Effect.Answer⟩

/-- Programs of the node. -/
abbrev Act (α : Type) : Type := Prog Node α

namespace Act

/-- Write a log line. -/
def log (level : Level) (text : String) : Act Unit := Prog.perform (S := Node) (.log level text)

/-- Book a tally. -/
def count (tally : Tally) : Act Unit := Prog.perform (S := Node) (.count tally)

/-- Read the counters. -/
def counters : Act Telemetry := Prog.perform (S := Node) .counters

/-- Read the clock. -/
def now : Act Instant := Prog.perform (S := Node) .now

/-- Call the transport. -/
def net (call : NetCall) : Act call.Answer := Prog.perform (S := Node) (.net call)

/-- Take all reports that wait. -/
def takeEvents : Act (List TransportEvent) := Prog.perform (S := Node) .takeEvents

/-- Call the radio. -/
def radio (call : RadioCall) : Act call.Answer := Prog.perform (S := Node) (.radio call)

/-- Call the processor clock. -/
def cpu (call : CpuCall) : Act call.Answer := Prog.perform (S := Node) (.cpu call)

/-- Call the input of a meter. -/
def meter (device : Nat) (call : MeterCall) : Act call.Answer :=
  Prog.perform (S := Node) (.meter device call)

/-- Pause. -/
def pause (who : Pauser) (ms : Nat) : Act Unit := Prog.perform (S := Node) (.pause who ms)

/-- Ask for UTC seconds. -/
def utc : Act Nat := Prog.perform (S := Node) .utc

end Act

end MeterNode
