import MeterNode.Connection.Address
import MeterNode.Connection.Error
import MeterNode.Connection.State
import MeterNode.Text.Utf8

/-!
# Transport events

A transport never blocks: it takes a call at once and reports later what came of it.  A report
names the connection that registered the socket and, unless it concerns the connection as a whole,
the socket it came from.
-/

namespace MeterNode

open MeterNode.Text

/-- The most bytes that one report carries. -/
def chunkMax : Nat := 1024

/-- The reports that wait for the loop, at most. -/
def eventDepth : Nat := 8

/-- What a transport has to report. -/
inductive EventKind where
  /-- A lookup ended, with an address if there is one. -/
  | dnsFound (address : Option Address)
  /-- A connect ended. -/
  | connected (result : Except NetError Unit)
  /-- Bytes arrived. -/
  | received (chunk : Bytes)
  /-- The peer closed the stream. -/
  | peerClosed
  /-- Bytes were handed to the network. -/
  | sent (length : Nat)
  /-- Time to look after timeouts. -/
  | poll
  /-- The socket is gone already. -/
  | error (cause : NetError)
  /-- A visitor was accepted, on a socket of its own. -/
  | accepted (result : Except NetError Handle)

/-- The name of a report. -/
def EventKind.name : EventKind → String
  | .dnsFound _ => "dns_found"
  | .connected _ => "connected"
  | .received _ => "received"
  | .peerClosed => "peer_closed"
  | .sent _ => "sent"
  | .poll => "poll"
  | .error _ => "error"
  | .accepted _ => "accepted"

/-- A report that bytes arrived, of which it carries the first ones. -/
def EventKind.ofBytes (bytes : Bytes) : EventKind := .received (bytes.take chunkMax)

/-- A report, and whom it concerns. -/
structure TransportEvent where
  /-- The connection. -/
  conn : ConnId
  /-- The socket it came from. -/
  source : Option Handle
  kind : EventKind

end MeterNode
