import MeterNode.Board.Desk

/-!
# What the board asks of its hardware

The tasks of the board are programs over one signature, `Device`.  Most operations end at once:
they change the desk, look at the clock, or make a call of the hardware.  One operation, `await`,
blocks the task until what it waits for is there.

A wait can be a race of two waits, of which the first is preferred when both can end, and it can
have a deadline.  What is waited for is preferred over the deadline, too.

Network sockets are numbered as they are made.
-/

namespace MeterNode

open MeterNode.Text

/-! ## Faults -/

/-- Why a socket could not be connected. -/
inductive SocketFault where
  | invalidState
  | invalidPort
  | connectionReset
  | timedOut
  | noRoute
deriving DecidableEq

namespace SocketFault

/-- All faults. -/
def all : List SocketFault := [invalidState, invalidPort, connectionReset, timedOut, noRoute]

/-- The name of a fault. -/
def name : SocketFault → String
  | invalidState => "InvalidState"
  | invalidPort => "InvalidPort"
  | connectionReset => "ConnectionReset"
  | timedOut => "TimedOut"
  | noRoute => "NoRoute"

/-- The fault of a name. -/
def ofName? (s : String) : Option SocketFault := all.find? (·.name == s)

/-- What is reported when a connect fails. -/
def onConnect : SocketFault → NetError
  | invalidState => .isConnected
  | invalidPort => .value
  | connectionReset => .reset
  | timedOut => .timeout
  | noRoute => .route

/-- What is reported when an accept fails. -/
def onAccept : SocketFault → NetError
  | invalidState => .use
  | invalidPort => .value
  | connectionReset => .reset
  | timedOut => .timeout
  | noRoute => .route

end SocketFault

/-- Why a lookup had no answer. -/
inductive LookupFault where
  | invalidName
  | nameTooLong
  | failed
deriving DecidableEq

/-- The name of a fault. -/
def LookupFault.name : LookupFault → String
  | invalidName => "InvalidName"
  | nameTooLong => "NameTooLong"
  | failed => "Failed"

/-- The fault of a name; names that are unknown stand for a plain failure. -/
def LookupFault.ofName (s : String) : LookupFault :=
  ([invalidName, nameTooLong].find? (·.name == s)).getD failed

/-! ## Calls of the hardware -/

/-- The buffers of the radio. -/
structure RadioBuffers where
  rxQueue : Nat := 3
  txQueue : Nat := 2
  staticRx : Nat := 4
  dynamicRx : Nat := 8
  dynamicTx : Nat := 8
  /-- Frames are gathered before they are handed on. -/
  aggregateRx : Bool := false
  /-- Frames are gathered before they are sent. -/
  aggregateTx : Bool := false
  /-- Frames acknowledged together. -/
  ackWindow : Nat := 3

/-- Steps of bringing the board up and down.  They have no answer. -/
inductive Milestone where
  | claimMemory (bytes : Nat)
  | startLog (level : Level)
  | print (text : String)
  | startTimers
  | lightOff
  | enablePin (pin : Nat)
  /-- Make the network stack; the name is asked for on the network. -/
  | makeNetwork (hostname : Option String) (sockets seed : Nat)
  | runNetwork
  /-- Wait without letting any other task run. -/
  | holdUp (ms : Nat)
  /-- Start the board anew.  Nothing runs after it. -/
  | reset

/-- Calls of the hardware.  None of them blocks. -/
inductive HardwareCall where
  | milestone (m : Milestone)
  /-- Bring the radio up, and say whether that worked. -/
  | startRadio
  /-- Make the station, and say whether that worked. -/
  | makeStation (buffers : RadioBuffers)
  | random
  | newSocket
  /-- Give a socket up that is silent for so long. -/
  | limitSilence (socket ms : Nat)
  | startConnect (socket : Nat) (address : Address) (port : Nat)
  | startAccept (socket port : Nat)
  | flush (socket : Nat)
  | closeSocket (socket : Nat)
  | abortSocket (socket : Nat)
  | dropSocket (socket : Nat)
  | startLookup (host : String)
  /-- Take a port for datagrams, and say whether that worked. -/
  | bind (port : Nat)
  /-- Send a datagram, and say whether that worked. -/
  | sendTo (address : Address) (port : Nat) (bytes : Bytes)
  /-- Set the station up for a network.  The answer names what went wrong. -/
  | configure (ssid password : String)
  /-- Whether the station runs. -/
  | stationStarted
  /-- Start the station.  The answer names what went wrong. -/
  | startStation
  | stopStation
  | startAssociation
  | dissociate
  /-- Whether the station is associated. -/
  | associated
  /-- The address the node has on the network. -/
  | ownAddress
  | light (on : Bool)
  /-- Convert the voltage at a pin. -/
  | convert (pin : Nat)
  /-- Memory used and free. -/
  | memory
  | clockSelector
  | setClockSelector (n : Nat)

/-- The answers of the hardware. -/
abbrev HardwareCall.Answer : HardwareCall → Type
  | .startRadio => Bool
  | .makeStation _ => Bool
  | .random => Nat
  | .newSocket => Nat
  | .bind _ => Bool
  | .sendTo .. => Bool
  | .configure .. => Option String
  | .stationStarted => Except String Bool
  | .startStation => Option String
  | .associated => Except String Bool
  | .ownAddress => Option Address
  | .convert _ => Option Nat
  | .memory => Nat × Nat
  | .clockSelector => Nat
  | _ => Unit

/-! ## Waits -/

/-- What a task may wait for. -/
inductive Wait where
  /-- A command in the queue of a slot. -/
  | command (slot : SlotId)
  /-- A request for a lookup. -/
  | request
  /-- Room for a report, which is then queued. -/
  | room (event : TransportEvent)
  /-- The outcome of a connect. -/
  | connected (socket : Nat)
  /-- The outcome of an accept. -/
  | accepted (socket : Nat)
  /-- Bytes from a peer; none at all if it closed the stream. -/
  | incoming (socket : Nat)
  /-- The acceptance of some bytes, from the front. -/
  | outgoing (socket : Nat) (bytes : Bytes)
  /-- The answer to a lookup. -/
  | answer (host : String)
  /-- A datagram of at most so many bytes. -/
  | datagram (most : Nat)
  /-- The end of an association that was started; the answer names what went wrong. -/
  | association
  /-- An address on the network. -/
  | address
  /-- A time. -/
  | time (at_ : Instant)
  /-- Nothing. -/
  | forever
  /-- Either of two waits. -/
  | race (first second : Wait)
  /-- A wait with a deadline. -/
  | within (w : Wait) (deadline : Instant)

/-- What a wait gives. -/
abbrev Wait.Answer : Wait → Type
  | .command _ => Command
  | .request => LookupRequest
  | .room _ => Unit
  | .connected _ => Except SocketFault Unit
  | .accepted _ => Except SocketFault Unit
  | .incoming _ => Option Bytes
  | .outgoing .. => Option Nat
  | .answer _ => Except LookupFault (List Address)
  | .datagram _ => Option Bytes
  | .association => Option String
  | .address => Unit
  | .time _ => Unit
  | .forever => Empty
  | .race first second => first.Answer ⊕ second.Answer
  | .within w _ => Option w.Answer

/-- The next time at which a wait may end by the clock. -/
def Wait.deadline? : Wait → Option Instant
  | .time at_ => some at_
  | .race first second =>
      match first.deadline?, second.deadline? with
      | some a, some b => some (min a b)
      | some a, none => some a
      | none, b => b
  | .within w deadline => some ((w.deadline?.map (min deadline)).getD deadline)
  | _ => none

/-! ## Programs -/

/-- The operations of a task. -/
inductive DeviceOp where
  | log (level : Level) (text : String)
  | count (tally : Tally)
  /-- Read the counters. -/
  | counters
  /-- Read the monotonic clock. -/
  | now
  /-- Look at the desk. -/
  | desk
  /-- Leave the desk as given. -/
  | setDesk (desk : Desk)
  | hardware (call : HardwareCall)
  | await (w : Wait)

/-- The answers to the operations of a task. -/
abbrev DeviceOp.Answer : DeviceOp → Type
  | .log .. => Unit
  | .count _ => Unit
  | .counters => Telemetry
  | .now => Instant
  | .desk => Desk
  | .setDesk _ => Unit
  | .hardware call => call.Answer
  | .await w => w.Answer

/-- The signature of the tasks. -/
def Device : Signature := ⟨DeviceOp, DeviceOp.Answer⟩

/-- Programs of the board. -/
abbrev Job (α : Type) : Type := Prog Device α

namespace Job

/-- Write a log line. -/
def log (level : Level) (text : String) : Job Unit :=
  Prog.perform (S := Device) (.log level text)

/-- Read the clock. -/
def now : Job Instant := Prog.perform (S := Device) .now

/-- Look at the desk. -/
def desk : Job Desk := Prog.perform (S := Device) .desk

/-- Leave the desk as given. -/
def setDesk (d : Desk) : Job Unit := Prog.perform (S := Device) (.setDesk d)

/-- Change the desk. -/
def onDesk (f : Desk → Desk) : Job Unit := do
  let d ← desk
  setDesk (f d)

/-- Change the table of slots. -/
def onSlots (f : Slots → Slots) : Job Unit := onDesk (·.onSlots f)

/-- Make a call of the hardware. -/
def hardware (call : HardwareCall) : Job call.Answer :=
  Prog.perform (S := Device) (.hardware call)

/-- Take a step of bringing the board up or down. -/
def milestone (m : Milestone) : Job Unit := hardware (.milestone m)

/-- Wait. -/
def await (w : Wait) : Job w.Answer := Prog.perform (S := Device) (.await w)

/-- Wait for a span of time. -/
def pause (ms : Nat) : Job Unit := do
  let start ← now
  await (.time (start + Instant.ofMillis ms))

/-- Call the transport. -/
def net (call : NetCall) : Job call.Answer := do
  match call with
  | .openSocket true => log .error "transport: tls is not available"
  | _ => pure ()
  let d ← desk
  let (a, d) := d.answer call
  setDesk d
  return a

end Job

end MeterNode
