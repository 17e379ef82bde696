import MeterNode.Board.Station
import MeterNode.Text.Escaped

/-!
# Scripted hardware

The bench's hardware writes a line for every call and does what its script says.  What a socket
does comes from queues, one for each kind of call; a socket may be scripted before it is made, and
a wait whose queue is empty goes on.  Lookups, datagrams, joins and conversions have scripts of
their own.
-/

namespace MeterNode.Bench

open MeterNode.Text

/-- What a socket receives. -/
inductive Arrival where
  | bytes (bytes : Bytes)
  /-- The peer closes the stream. -/
  | ending
  /-- The connection is reset. -/
  | reset

/-- The script of a socket. -/
structure SocketScript where
  /-- What the next connects come to. -/
  connects : List (Option SocketFault) := []
  /-- What the next accepts come to. -/
  accepts : List (Option SocketFault) := []
  arrivals : List Arrival := []
  /-- How many bytes the next writes accept; without a number they fail. -/
  writes : List (Option Nat) := []
  /-- Writes wait. -/
  stalled : Bool := false

/-- What a lookup of a name comes to. -/
inductive HostScript where
  | found (addresses : List Address)
  /-- The lookup goes on until the script changes. -/
  | pending
  | fails (cause : LookupFault)

/-- What an association comes to. -/
inductive JoinScript where
  | succeeds
  /-- The association goes on for ever. -/
  | pending
  | fails (cause : String)

/-- What a conversion comes to. -/
inductive ConversionScript where
  | value (raw : Nat)
  /-- The converter has to be asked again. -/
  | busy
  | fails

/-- A pin whose voltage is measured. -/
structure PinScript where
  /-- What the next conversions come to. -/
  conversions : List ConversionScript := []
  /-- What all later conversions give. -/
  level : Nat := 0

/-- Hardware that follows a script. -/
structure Hardware where
  /-- The lines so far, latest first. -/
  records : List String := []
  /-- The bytes written to sockets so far, latest first. -/
  written : List (Nat × Bytes) := []
  sockets : List SocketScript := []
  /-- The sockets made so far. -/
  made : Nat := 0
  hosts : List (String × HostScript) := []
  /-- The address on the network. -/
  address : Option Address := none
  bindFails : Bool := false
  sendFails : Bool := false
  /-- The datagrams that wait; one that is missing is an error. -/
  datagrams : List (Option Bytes) := []
  radioFails : Bool := false
  stationFails : Bool := false
  started : Bool := false
  connected : Bool := false
  joins : List JoinScript := []
  /-- The association under way. -/
  joining : JoinScript := .pending
  configureError : Option String := none
  startedError : Option String := none
  startError : Option String := none
  connectedError : Option String := none
  meterPin : PinScript := {}
  supplyPin : PinScript := {}
  /-- Memory used and free. -/
  memory : Nat × Nat := (0, 0)
  selector : Nat := 2
  /-- Random numbers drawn. -/
  drawn : Nat := 0
  /-- The board was reset. -/
  isReset : Bool := false

namespace Hardware

/-- Write a line. -/
def note (h : Hardware) (line : String) : Hardware := { h with records := line :: h.records }

/-- Write a line about a socket. -/
def noteSocket (h : Hardware) (socket : Nat) (line : String) : Hardware :=
  h.note ("tcp" ++ toString socket ++ " " ++ line)

/-- The script of a socket. -/
def socket (h : Hardware) (n : Nat) : SocketScript := h.sockets.getD n {}

/-- Change the script of a socket. -/
def onSocket (h : Hardware) (n : Nat) (f : SocketScript → SocketScript) : Hardware :=
  let room := h.sockets ++ List.replicate (n + 1 - h.sockets.length) ({} : SocketScript)
  { h with sockets := room.modify n f }

/-- Change the script of a name. -/
def setHost (h : Hardware) (host : String) (script : HostScript) : Hardware :=
  { h with hosts := (host, script) :: h.hosts.filter (·.1 ≠ host) }

/-! ## Lines -/

/-- A name that may be missing, as a line shows it. -/
def shownName : Option String → String
  | none => "None"
  | some s => "Some(" ++ quoted s ++ ")"

/-- The line of a step of bringing the board up or down. -/
def milestoneLine : Milestone → String
  | .claimMemory bytes => "heap " ++ toString bytes
  | .startLog level => "logger " ++ level.word
  | .print text => "print " ++ text
  | .startTimers => "rtos start"
  | .lightOff => "led init low"
  | .enablePin pin => "adc pin " ++ toString pin ++ " _11dB"
  | .makeNetwork hostname sockets seed =>
      "net new hostname=" ++ shownName hostname ++ " sockets=" ++ toString sockets ++ " seed=" ++
        toString seed
  | .runNetwork => "net run"
  | .holdUp ms => "delay " ++ toString ms
  | .reset => "reset"

/-- The line of a new station. -/
def stationLine (b : RadioBuffers) : String :=
  "wifi new rx_queue=" ++ toString b.rxQueue ++ " tx_queue=" ++ toString b.txQueue ++
    " static_rx=" ++ toString b.staticRx ++ " dynamic_rx=" ++ toString b.dynamicRx ++
    " dynamic_tx=" ++ toString b.dynamicTx ++ " ampdu_rx=" ++ toString b.aggregateRx ++
    " ampdu_tx=" ++ toString b.aggregateTx ++ " rx_ba_win=" ++ toString b.ackWindow

/-- The line of new station settings. -/
def configLine (ssid password : String) : String :=
  "wifi config ssid=" ++ ssid ++ " password=" ++ password ++ " auth=" ++
    (if password.isEmpty then "None" else "Wpa2Personal") ++ " scan=AllChannels"

/-! ## Calls -/

/-- Take a conversion, with a line for every time the converter is asked. -/
def converted (level : Nat) : List ConversionScript → Option Nat × Nat × List ConversionScript
  | [] => (some level, 1, [])
  | .value raw :: rest => (some raw, 1, rest)
  | .fails :: rest => (none, 1, rest)
  | .busy :: rest =>
      let (result, asked, rest) := converted level rest
      (result, asked + 1, rest)

/-- Convert the voltage at a pin. -/
def convert (h : Hardware) (pin : Nat) : Option Nat × Hardware :=
  let isMeter := pin = MeterNode.meterPin
  let script := if isMeter then h.meterPin else h.supplyPin
  let (result, asked, conversions) := converted script.level script.conversions
  let script := { script with conversions }
  let lines := List.replicate asked ("adc read " ++ toString pin)
  let h := { h with records := lines ++ h.records }
  (result, if isMeter then { h with meterPin := script } else { h with supplyPin := script })

/-- A value, or the error that is set. -/
def orCause {α : Type} (cause : Option String) (a : α) : Except String α :=
  match cause with
  | none => .ok a
  | some e => .error e

/-- Begin the association that is next in the script. -/
def beginJoin (h : Hardware) : Hardware :=
  { h.note "wifi connect" with joins := h.joins.tail, joining := h.joins.headD .succeeds }

/-- Answer a call. -/
def answer (h : Hardware) : (call : HardwareCall) → call.Answer × Hardware
  | .milestone .reset => ((), { h.note "reset" with isReset := true })
  | .milestone m => ((), h.note (milestoneLine m))
  | .startRadio => (!h.radioFails, h.note "radio init")
  | .makeStation buffers => (!h.stationFails, h.note (stationLine buffers))
  | .random => (h.drawn + 1, { h with drawn := h.drawn + 1 })
  | .newSocket => (h.made, { h.noteSocket h.made "new" with made := h.made + 1 })
  | .limitSilence n ms => ((), h.noteSocket n ("timeout " ++ toString ms))
  | .startConnect n address port =>
      ((), h.noteSocket n ("connect " ++ address.text ++ ":" ++ toString port))
  | .startAccept n port => ((), h.noteSocket n ("accept None " ++ toString port))
  | .flush n => ((), h.noteSocket n "flush")
  | .closeSocket n => ((), h.noteSocket n "close")
  | .abortSocket n =>
      ((), (h.noteSocket n "abort").onSocket n fun s => { s with arrivals := [], writes := [] })
  | .dropSocket n => ((), h.noteSocket n "drop")
  | .startLookup host => ((), h.note ("dns " ++ host))
  | .bind port => (!h.bindFails, h.note ("udp bind " ++ toString port))
  | .sendTo address port bytes =>
      (!h.sendFails, h.note ("udp send " ++ address.text ++ ":" ++ toString port ++ " " ++
        toString bytes.length))
  | .configure ssid password => (h.configureError, h.note (configLine ssid password))
  | .stationStarted => (orCause h.startedError h.started, h)
  | .startStation =>
      (h.startError, { h.note "wifi start" with started := h.started || h.startError.isNone })
  | .stopStation => ((), { h.note "wifi stop" with started := false })
  | .startAssociation => ((), h.beginJoin)
  | .dissociate => ((), { h.note "wifi disconnect" with connected := false })
  | .associated => (orCause h.connectedError h.connected, h)
  | .ownAddress => (h.address, h)
  | .light on => ((), h.note (if on then "led high" else "led low"))
  | .convert pin => h.convert pin
  | .memory => (h.memory, h)
  | .clockSelector => (h.selector, h)
  | .setClockSelector n => ((), { h.note ("cpuperiod " ++ toString n) with selector := n })

/-! ## Waits -/

/-- Take what a connect comes to. -/
def connected? (h : Hardware) (n : Nat) : Option (Except SocketFault Unit × Hardware) :=
  match (h.socket n).connects with
  | [] => none
  | outcome :: rest =>
      some (match outcome with
        | none => .ok ()
        | some fault => .error fault, h.onSocket n fun s => { s with connects := rest })

/-- Take what an accept comes to. -/
def accepted? (h : Hardware) (n : Nat) : Option (Except SocketFault Unit × Hardware) :=
  match (h.socket n).accepts with
  | [] => none
  | outcome :: rest =>
      some (match outcome with
        | none => .ok ()
        | some fault => .error fault, h.onSocket n fun s => { s with accepts := rest })

/-- Take what a peer sent, one chunk at most. -/
def incoming? (h : Hardware) (n : Nat) : Option (Option Bytes × Hardware) :=
  match (h.socket n).arrivals with
  | [] => none
  | .ending :: rest => some (some [], h.onSocket n fun s => { s with arrivals := rest })
  | .reset :: rest => some (none, h.onSocket n fun s => { s with arrivals := rest })
  | .bytes bytes :: rest =>
      let left := bytes.drop chunkMax
      let rest := if left.isEmpty then rest else .bytes left :: rest
      some (some (bytes.take chunkMax), h.onSocket n fun s => { s with arrivals := rest })

/-- Let a socket accept some bytes. -/
def outgoing? (h : Hardware) (n : Nat) (bytes : Bytes) : Option (Option Nat × Hardware) :=
  let s := h.socket n
  if s.stalled then none
  else
    let h := h.onSocket n fun s => { s with writes := s.writes.tail }
    match s.writes.headD (some bytes.length) with
    | none => some (none, h.noteSocket n "write failed")
    | some most =>
        let accepted := min (max most 1) bytes.length
        let h := h.noteSocket n ("write " ++ toString accepted)
        some (some accepted, { h with written := (n, bytes.take accepted) :: h.written })

/-- The addresses a lookup gives, at most. -/
def addressesMax : Nat := 4

/-- What a lookup comes to. -/
def lookup? (h : Hardware) (host : String) : Option (Except LookupFault (List Address)) :=
  match (h.hosts.find? (·.1 = host)).map Prod.snd with
  | none => some (.error .failed)
  | some .pending => none
  | some (.found addresses) => some (.ok (addresses.take addressesMax))
  | some (.fails cause) => some (.error cause)

/-- Take a datagram.  One that is too long is an error. -/
def datagram? (h : Hardware) (most : Nat) : Option (Option Bytes × Hardware) :=
  match h.datagrams with
  | [] => none
  | packet :: rest =>
      some (packet.filter (·.length ≤ most), { h with datagrams := rest })

/-- What the association under way comes to. -/
def association? (h : Hardware) : Option (Option String × Hardware) :=
  match h.joining with
  | .pending => none
  | .succeeds => some (none, { h with connected := true })
  | .fails cause => some (some cause, h)

end Hardware

end MeterNode.Bench
