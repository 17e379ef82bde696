import MeterNode.Text.Utf8

/-!
# Time packets

The simple network time protocol exchanges packets of 48 bytes.  The first byte of a request says
that the client speaks version 3.  A reply is used if it is long enough, comes from a server and
has a stratum other than zero, which a server sends to tell clients to go away.  The time is the
transmit stamp, counted from 1900.
-/

namespace MeterNode.Sntp

open MeterNode.Text

/-- The port that the service listens on. -/
def port : Nat := 123

/-- The length of a packet. -/
def packetLength : Nat := 48

/-- Seconds from 1900 to 1970. -/
def epochOffset : Nat := 2208988800

/-- The packet that asks for the time. -/
def request : Bytes := 0x1b :: List.replicate (packetLength - 1) 0

/-- A number written with its most significant byte first. -/
def bigEndian (bytes : Bytes) : Nat := bytes.foldl (fun n b => n * 256 + b.toNat) 0

/-- The UTC seconds of a reply. -/
def replyTime (packet : Bytes) : Option Nat :=
  match packet with
  | header :: stratum :: _ =>
      let stamp := bigEndian ((packet.drop 40).take 4)
      if packetLength ≤ packet.length ∧ header &&& 7 = 4 ∧ stratum ≠ 0 ∧ epochOffset ≤ stamp then
        some (stamp - epochOffset)
      else none
  | _ => none

end MeterNode.Sntp
