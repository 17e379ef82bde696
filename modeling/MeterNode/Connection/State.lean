/-!
# Connection states

A client connection looks up the collector, connects, sends and waits for the reply, and goes back
to the start.  A connection that serves a visitor stays in one state.  Four states are busy: an
exchange is under way and the loop has to keep looking after it.
-/

namespace MeterNode

/-- The place of a connection in the registry.  It never changes. -/
structure ConnId where
  index : UInt8
deriving DecidableEq

/-- The name a transport gives to a socket.  Every connect has a new one. -/
structure Handle where
  id : UInt8
deriving DecidableEq

/-- What a connection is doing. -/
inductive ConnState where
  /-- Nothing. -/
  | init
  /-- Waiting for a lookup. -/
  | dns
  | connecting
  /-- Connected, and free to send. -/
  | ready
  /-- A request was written and no reply has come. -/
  | sending
  /-- A reply is buffered. -/
  | replied
  /-- A write met a full send buffer. -/
  | retry
  /-- No socket could be had. -/
  | error
  /-- Serving a visitor. -/
  | server
deriving DecidableEq

namespace ConnState

/-- All states. -/
def all : List ConnState :=
  [init, dns, connecting, ready, sending, replied, retry, error, server]

/-- The name of a state. -/
def name : ConnState → String
  | init => "Init"
  | dns => "Dns"
  | connecting => "Connecting"
  | ready => "Ready"
  | sending => "Sending"
  | replied => "Replied"
  | retry => "Retry"
  | error => "Error"
  | server => "Server"

/-- The state of a name. -/
def ofName? (s : String) : Option ConnState := all.find? (·.name == s)

/-- An exchange is under way. -/
def isBusy (s : ConnState) : Bool := s = dns || s = connecting || s = sending || s = retry

end ConnState

end MeterNode
