import MeterNode.Connection.Endpoint
import MeterNode.Effect
import MeterNode.Http.Message

/-!
# Connections

A connection is one logical endpoint: a collector that the node reports to, or the server that
answers visitors.  It holds at most one socket at a time.  A client goes

    Init → Dns → Connecting → Ready → Sending → Replied → Init

and back to `Init` from wherever something fails.  A write that meets a full send buffer leads to
`Retry`, from which the owner writes again.  Only `connect` opens a socket, and it gives back a
socket that has been used before.  A lookup, a connect and a send each remember when they began;
`checkTimeout` ends a connect or a send that takes too long.

`handleEvent` applies a report of the transport.  Reports that come too late for the state are
ignored, and `applyEvent` also ignores those of a socket the connection no longer holds.
-/

namespace MeterNode

open MeterNode.Text

/-- What a connection is for. -/
inductive Role where
  | client (endpoint : Endpoint)
  | server (port : Nat)

/-- What came of a report. -/
inductive EventOutcome where
  | handled
  /-- The report came too late or was empty. -/
  | ignored
  /-- A visitor sent a request. -/
  | request (chunk : Bytes)

/-- One logical endpoint. -/
structure Connection where
  /-- The place in the registry. -/
  id : ConnId
  /-- The name in log lines. -/
  label : String
  role : Role
  /-- How long a connect or a send may take. -/
  timeout : Instant
  state : ConnState := .init
  /-- The socket, if there is one. -/
  handle : Option Handle := none
  /-- The socket has not been used for a connect. -/
  fresh : Bool := false
  /-- The reply, once it has come. -/
  response : Option Bytes := none
  /-- When the lookup or the connect began. -/
  connectStarted : Option Instant := none
  /-- When the request was written. -/
  sendStarted : Option Instant := none
  /-- The headers every request carries. -/
  headers : Http.Headers := []
  /-- The address of the last connect. -/
  remote : Option Address := none

namespace Connection

/-- The collector of a client. -/
def endpoint (c : Connection) : Option Endpoint :=
  match c.role with
  | .client e => some e
  | .server _ => none

/-- An exchange is under way. -/
def isBusy (c : Connection) : Bool := c.state.isBusy

/-- Register a header, and say whether it is new. -/
def addHeader (c : Connection) (header : String) : Bool × Connection :=
  (!c.headers.contains header, { c with headers := Http.Headers.insert header c.headers })

/-- Write a log line about the connection. -/
def log (c : Connection) (level : Level) (text : String) : Act Unit :=
  Act.log level ("conn: id=" ++ c.label ++ " " ++ text)

/-- Change the state. -/
def setState (c : Connection) (next : ConnState) (reason : String) : Act Connection := do
  if c.state = next then
    return c
  c.log .debug ("state=" ++ c.state.name ++ "->" ++ next.name ++ " reason=" ++ reason)
  return { c with state := next }

/-! ## The socket -/

/-- Give the socket back: no more reports, then close; a close that fails is followed by an abort.
The connection holds no socket afterwards. -/
def release (c : Connection) : Act (Except NetError Unit × Connection) :=
  match c.handle with
  | none => return (.ok (), c)
  | some handle => do
      let c := { c with handle := none, fresh := false }
      Act.net (.unregister handle)
      match ← Act.net (.close handle) with
      | .ok () => return (.ok (), c)
      | .error e =>
          c.log .error ("close failed " ++ e.shown ++ "; aborting")
          Act.net (.abort handle)
          return (.error .abort, c)

/-- Hold a socket, after giving back the one held before. -/
def attach (c : Connection) (handle : Handle) : Act Connection := do
  let (_, c) ← c.release
  Act.net (.register handle c.id)
  return { c with handle := some handle, fresh := false }

/-- Open a socket, unless one is held. -/
def openHandle (c : Connection) : Act (Except NetError Handle × Connection) :=
  match c.handle with
  | some handle => return (.ok handle, c)
  | none => do
      match ← Act.net (.openSocket (c.endpoint.any Endpoint.isSecure)) with
      | .error e => return (.error e, c)
      | .ok handle =>
          let c ← c.attach handle
          return (.ok handle, { c with fresh := true })

/-- Give the socket back and start over. -/
def abandon (c : Connection) (reason : String) : Act Connection := do
  let (_, c) ← c.release
  c.setState .init reason

/-- Book a failure and start over, keeping the socket. -/
def fail (c : Connection) (text reason : String) : Act Connection := do
  c.log .error text
  Act.count .connFailure
  c.setState .init reason

/-! ## Connecting -/

/-- Take the outcome of a lookup: start to connect to the address. -/
def foundAddress (c : Connection) (address : Option Address) (now : Instant) : Act Connection :=
  match address with
  | none => c.fail "dns lookup failed" "dns_failed"
  | some address =>
      match c.handle, c.endpoint with
      | some handle, some endpoint => do
          let c := { c with remote := some address }
          let c ← c.setState .connecting "dns_found"
          let c := { c with connectStarted := some now }
          match ← Act.net (.connect handle address endpoint.port) with
          | .ok () => return c
          | .error e => c.fail ("connect start failed " ++ e.shown) "connect_start_failed"
      | _, _ => c.setState .init "no_handle"

/-- Give back a socket that has been used for a connect. -/
def dropUsedHandle (c : Connection) : Act Connection := do
  if c.handle.isSome && !c.fresh then
    return (← c.release).2
  return c

/-- Ask for the address of the collector. -/
def lookUp (c : Connection) (endpoint : Endpoint) (now : Instant) : Act Connection := do
  match ← Act.net (.resolve endpoint.host c.id) with
  | .ok (.resolved address) => c.foundAddress (some address) now
  | .ok .pending => do
      c.log .debug "dns pending"
      return c
  | .error e => c.fail ("dns start failed " ++ e.shown) "dns_start_failed"

/-- Start an exchange with the collector.  This is done from `Init` only. -/
def connect (c : Connection) (now : Instant) : Act Connection := do
  if c.state ≠ .init then
    c.log .debug ("connect skipped state=" ++ c.state.name)
    return c
  match c.endpoint with
  | none => return c
  | some endpoint => do
      let c ← c.dropUsedHandle
      match ← c.openHandle with
      | (.error e, c) => do
          c.log .error ("handle alloc failed " ++ e.shown)
          Act.count .connFailure
          c.setState .error "handle_alloc"
      | (.ok _, c) => do
          let c := { c with fresh := false }
          c.log .info ("connecting host=" ++ endpoint.host ++ " port=" ++ toString endpoint.port)
          let c ← c.setState .dns "connect"
          let c := { c with connectStarted := some now }
          Act.count .connAttempt
          c.lookUp endpoint now

/-- Give the socket back and connect again. -/
def reconnect (c : Connection) (now : Instant) : Act Connection := do
  c.log .debug "reconnect"
  let c ← c.abandon "reconnect"
  c.connect now

/-! ## Sending -/

/-- Write a request for a resource.  This is done from `Ready` only. -/
def post (c : Connection) (resource payload : String) (now : Instant) : Act Connection := do
  if c.state ≠ .ready then
    c.log .debug ("post skipped state=" ++ c.state.name)
    return c
  match c.endpoint with
  | none => return c
  | some endpoint =>
      let request := Http.post resource endpoint.hostHeader c.headers payload
      let c := { c with response := none }
      match c.handle with
      | none => c.setState .init "no_handle"
      | some handle => do
          c.log .debug
            ("post resource=" ++ resource ++ " bytes=" ++ toString request.utf8ByteSize)
          match ← Act.net (.write handle (bytesOf request)) with
          | .ok () => do
              let c ← c.setState .sending "written"
              return { c with sendStarted := some now }
          | .error e =>
              if e.isBackpressure then do
                c.log .warn ("send buffer full code=" ++ toString e.code ++ "; retry later")
                Act.count .connBackpressure
                c.setState .retry "backpressure"
              else c.fail ("write failed " ++ e.shown) "write_failed"

/-- Make a connection ready that met a full send buffer, and say whether it had. -/
def resume (c : Connection) : Act (Bool × Connection) := do
  if c.state ≠ .retry then
    return (false, c)
  return (true, ← c.setState .ready "retry")

/-- Write a reply to the visitor. -/
def respond (c : Connection) (reply : String) : Act (Except NetError Unit) :=
  match c.handle with
  | none => return .error .conn
  | some handle => do
      match ← Act.net (.write handle (bytesOf reply)) with
      | .ok () => return .ok ()
      | .error e => do
          c.log .error ("reply write failed " ++ e.shown)
          return .error e

/-- Take the reply and end the exchange. -/
def finishReply (c : Connection) : Act (Option Bytes × Connection) := do
  if c.state ≠ .replied then
    return (none, c)
  let response := c.response
  let c ← { c with response := none }.abandon "reply_consumed"
  return (response, c)

/-! ## Timeouts -/

/-- When the connect or the send under way began. -/
def startedAt (c : Connection) : Option Instant :=
  match c.state with
  | .connecting => c.connectStarted
  | .sending => c.sendStarted
  | _ => none

/-- How long the connect or the send under way has taken, if that is too long. -/
def overdue (c : Connection) (now : Instant) : Option Instant :=
  (c.startedAt.map now.since).filter (c.timeout < ·)

/-- End a connect or a send that takes too long, and say whether there was one. -/
def checkTimeout (c : Connection) (now : Instant) : Act (Bool × Connection) :=
  match c.overdue now with
  | none => return (false, c)
  | some elapsed => do
      c.log .warn
        ("timeout state=" ++ c.state.name ++ " after_ms=" ++ toString elapsed.millis)
      Act.count .connTimeout
      return (true, ← c.abandon "timeout")

/-! ## Reports -/

/-- Take the bytes of a report. -/
def receive (c : Connection) (chunk : Bytes) : Act (EventOutcome × Connection) :=
  if chunk.isEmpty then return (.ignored, c)
  else
    match c.state with
    | .server => return (.request chunk, c)
    | .ready | .sending | .retry | .replied => do
        c.log .debug ("received bytes=" ++ toString chunk.length)
        return (.handled, ← { c with response := some chunk }.setState .replied "received")
    | _ => return (.ignored, c)

/-- Take the report that bytes were handed to the network. -/
def noteSent (c : Connection) (length : Nat) : Act (EventOutcome × Connection) := do
  c.log .debug ("sent bytes=" ++ toString length)
  match c.state with
  | .ready => return (.handled, ← c.setState .sending "sent")
  | .retry => return (.handled, ← c.setState .ready "send_buffer_drained")
  | _ => return (.ignored, c)

/-- Apply a report. -/
def handleEvent (c : Connection) (kind : EventKind) (now : Instant) :
    Act (EventOutcome × Connection) :=
  match kind with
  | .dnsFound address => do
      if c.state ≠ .dns then
        return (.ignored, c)
      return (.handled, ← c.foundAddress address now)
  | .connected (.ok ()) => do
      if c.state ≠ .connecting then
        return (.ignored, c)
      c.log .info "connected"
      return (.handled, ← c.setState .ready "connected")
  | .connected (.error e) => do
      return (.handled, ← c.fail ("connect failed " ++ e.shown) "connect_failed")
  | .peerClosed => do
      c.log .debug "closed by peer"
      return (.handled, ← c.abandon "peer_closed")
  | .received chunk => c.receive chunk
  | .sent length => c.noteSent length
  | .poll => do
      let (late, c) ← c.checkTimeout now
      return (if late then .handled else .ignored, c)
  | .error e => do
      c.log .error ("transport error " ++ e.shown)
      Act.count .connFailure
      let c := { c with handle := none, fresh := false }
      return (.handled, ← c.setState .init "transport_error")
  | .accepted (.ok handle) => do
      c.log .debug "peer accepted"
      let c ← c.attach handle
      return (.handled, ← { c with response := none }.setState .server "accepted")
  | .accepted (.error e) => do
      c.log .error ("accept failed " ++ e.shown)
      return (.handled, ← c.abandon "accept_failed")

/-- The handle that log lines show. -/
def shownHandle : Option Handle → String
  | none => "None"
  | some h => "Some(" ++ toString h.id ++ ")"

/-- Apply a report that came from a socket.  A socket no longer held is not listened to. -/
def applyEvent (c : Connection) (source : Option Handle) (kind : EventKind) (now : Instant) :
    Act (EventOutcome × Connection) :=
  match source with
  | none => c.handleEvent kind now
  | some source => do
      if c.handle ≠ some source then
        c.log .debug ("stale event=" ++ kind.name ++ " from handle=" ++ toString source.id ++
          " holding=" ++ shownHandle c.handle)
        return (.ignored, c)
      c.handleEvent kind now

end Connection

end MeterNode
