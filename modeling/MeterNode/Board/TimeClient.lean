import MeterNode.Board.Stage
import MeterNode.Time.Sntp

/-!
# Asking for the time

The time server is looked up, unless its name is an address, and is sent one packet.  Lookup and
reply have five seconds together.  What goes wrong is logged, and the answer is zero then.
-/

namespace MeterNode

open MeterNode.Text

/-- The port the replies come to. -/
def timeClientPort : Nat := 50123

/-- How long the time server may take, in milliseconds. -/
def timeClientMs : Nat := 5000

/-- Why there was no answer. -/
inductive TimeFault where
  | lookup
  | noAddress
  | bind
  | send
  | receive
  | badReply
  /-- It took too long. -/
  | late
deriving DecidableEq

/-- A fault as log lines show it. -/
def TimeFault.text : TimeFault → String
  | lookup => "failed reason=dns"
  | noAddress => "failed reason=no address"
  | bind => "failed reason=bind"
  | send => "failed reason=send"
  | receive => "failed reason=recv"
  | badReply => "failed reason=bad reply"
  | late => "timed out"

namespace Job

/-- The address of the time server. -/
def timeServer (server : String) (deadline : Instant) : Job (Except TimeFault Address) :=
  match Address.ofText? server with
  | some address => return .ok address
  | none => do
      hardware (.startLookup server)
      match ← await (.within (.answer server) deadline) with
      | none => return .error .late
      | some (.error _) => return .error .lookup
      | some (.ok []) => return .error .noAddress
      | some (.ok (address :: _)) => return .ok address

/-- Wait for the reply of the time server. -/
def timeReply (deadline : Instant) : Job (Except TimeFault Nat) := do
  match ← await (.within (.datagram Sntp.packetLength) deadline) with
  | none => return .error .late
  | some none => return .error .receive
  | some (some packet) =>
      match Sntp.replyTime packet with
      | some utc => return .ok utc
      | none => return .error .badReply

/-- Exchange packets with the time server. -/
def timeExchange (server : String) (deadline : Instant) : Job (Except TimeFault Nat) := do
  match ← timeServer server deadline with
  | .error fault => return .error fault
  | .ok address => do
      if !(← hardware (.bind timeClientPort)) then
        return .error .bind
      if !(← hardware (.sendTo address Sntp.port Sntp.request)) then
        return .error .send
      timeReply deadline

/-- Ask for UTC seconds. -/
def askTime (server : String) : Job Nat := do
  let start ← now
  match ← timeExchange server (start + Instant.ofMillis timeClientMs) with
  | .ok utc => do
      log .info ("sntp: server=" ++ server ++ " utc_s=" ++ toString utc)
      return utc
  | .error fault => do
      log .warn ("sntp: server=" ++ server ++ " " ++ fault.text)
      return 0

end Job

end MeterNode
