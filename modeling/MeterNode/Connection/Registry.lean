import MeterNode.Connection.Basic
import MeterNode.Settings.Policy

/-!
# The registry

The registry holds every connection of the node.  Collectors with the same scheme, host and port
share one connection, and there is at most one server.  A connection keeps the place it was given,
which is its identity, so a report of the transport finds its connection by place.

Requests of visitors are put in a queue, at most two of them, and answered later in the order they
came.  While a lookup is outstanding, `awaitDns` looks after the reports in short slices and gives
the lookup up at the end.
-/

namespace MeterNode

open MeterNode.Text

/-- Why the registry refused. -/
inductive RegistryError where
  | endpoint (cause : EndpointError)
  | handleAlloc (cause : NetError)
  | serverBind (cause : NetError)
  | serverExists
  | full
deriving DecidableEq

/-- The description of a refusal. -/
def RegistryError.text : RegistryError → String
  | .endpoint cause => cause.text
  | .handleAlloc _ => "transport handle allocation failed"
  | .serverBind _ => "status server bind failed"
  | .serverExists => "status server already running"
  | .full => "connection table full"

/-- The short name of a refusal. -/
def RegistryError.name : RegistryError → String
  | .endpoint cause => "Endpoint(" ++ cause.name ++ ")"
  | .handleAlloc cause => "HandleAlloc(" ++ cause.name ++ ")"
  | .serverBind cause => "ServerBind(" ++ cause.name ++ ")"
  | .serverExists => "ServerExists"
  | .full => "Full"

/-- The name of the server in log lines. -/
def serverLabel : String := "lwi-srv"

/-- The requests that may wait. -/
def requestDepth : Nat := 2

/-- The connections there can be. -/
def connectionMax : Nat := 256

/-- All connections of the node. -/
structure Registry where
  policy : NetPolicy
  connections : List Connection := []
  /-- The server and its port. -/
  server : Option (ConnId × Nat) := none
  /-- The requests that wait, oldest first. -/
  requests : List (ConnId × String) := []

namespace Registry

/-- A registry without connections. -/
def new (policy : NetPolicy) : Registry := { policy := policy.sanitized }

/-- The timeout of every connection. -/
def timeout (r : Registry) : Instant := Instant.ofMillis r.policy.timeoutMs

/-- The connection at a place. -/
def get? (r : Registry) (id : ConnId) : Option Connection := r.connections[id.index.toNat]?

/-- Put a connection into its place. -/
def set (r : Registry) (c : Connection) : Registry :=
  { r with connections := r.connections.set c.id.index.toNat c }

/-- The state of the connection at a place. -/
def state? (r : Registry) (id : ConnId) : Option ConnState := (r.get? id).map (·.state)

/-- Some exchange is under way. -/
def anyBusy (r : Registry) : Bool := r.connections.any Connection.isBusy

/-- The next free place. -/
def nextId? (r : Registry) : Option ConnId :=
  if r.connections.length < connectionMax then some ⟨r.connections.length.toUInt8⟩ else none

/-- The number of collectors. -/
def clientCount (r : Registry) : Nat := r.connections.countP (·.endpoint.isSome)

/-- The connection to a collector. -/
def find? (r : Registry) (key : String) : Option Connection :=
  r.connections.find? fun c => c.endpoint.any (·.key == key)

/-! ## New connections -/

/-- The connection to a collector, made on first use.  A new connection opens its socket. -/
def getOrCreate (r : Registry) (url : String) : Act (Except RegistryError ConnId × Registry) :=
  match Endpoint.ofText url with
  | .error e => do
      Act.log .error ("registry: url=" ++ url ++ " err=" ++ e.text)
      return (.error (.endpoint e), r)
  | .ok endpoint =>
      match r.find? endpoint.key with
      | some known => do
          Act.log .debug ("registry: reuse id=" ++ known.label ++ " key=" ++ endpoint.key)
          return (.ok known.id, r)
      | none =>
          match r.nextId? with
          | none => return (.error .full, r)
          | some id => do
              let conn : Connection :=
                { id, label := "lwi" ++ toString r.clientCount, role := .client endpoint
                  timeout := r.timeout }
              match ← conn.openHandle with
              | (.error e, _) => do
                  Act.log .error ("registry: handle alloc failed key=" ++ endpoint.key ++
                    " code=" ++ toString e.code)
                  return (.error (.handleAlloc e), r)
              | (.ok _, conn) => do
                  Act.log .info ("registry: created id=" ++ conn.label ++ " key=" ++ endpoint.key)
                  return (.ok id, { r with connections := r.connections ++ [conn] })

/-- Start the server. -/
def startServer (r : Registry) (port : Nat) : Act (Except RegistryError ConnId × Registry) :=
  if r.server.isSome then return (.error .serverExists, r)
  else
    match r.nextId? with
    | none => return (.error .full, r)
    | some id => do
        match ← Act.net (.listen port id) with
        | .error e => do
            Act.log .error ("registry: listen failed port=" ++ toString port ++ " code=" ++
              toString e.code)
            return (.error (.serverBind e), r)
        | .ok listener => do
            let conn : Connection :=
              { id, label := serverLabel, role := .server port, timeout := r.timeout }
            Act.log .info ("registry: status server listening port=" ++ toString port ++
              " handle=" ++ toString listener.id)
            return (.ok id,
              { r with connections := r.connections ++ [conn], server := some (id, port) })

/-! ## Reports -/

/-- Queue a request, if there is room. -/
def enqueue (r : Registry) (conn : Connection) (chunk : Bytes) : Act Registry := do
  if requestDepth ≤ r.requests.length then
    Act.log .warn ("registry: request dropped id=" ++ conn.label ++ " queue full")
    return r
  return { r with requests := r.requests ++ [(conn.id, lossyText chunk)] }

/-- Apply a report to its connection. -/
def dispatch (r : Registry) (event : TransportEvent) (now : Instant) : Act Registry :=
  match r.get? event.conn with
  | none => do
      Act.log .warn ("registry: event=" ++ event.kind.name ++ " for unknown conn=" ++
        toString event.conn.index)
      return r
  | some conn => do
      let (outcome, conn) ← conn.applyEvent event.source event.kind now
      let r := r.set conn
      match outcome with
      | .request chunk => r.enqueue conn chunk
      | _ => return r

/-- Apply reports in order. -/
def dispatchAll (r : Registry) (events : List TransportEvent) (now : Instant) : Act Registry :=
  match events with
  | [] => return r
  | event :: rest => do (← r.dispatch event now).dispatchAll rest now

/-- Apply all reports that wait, and count them. -/
def pump (r : Registry) (now : Instant) : Act (Nat × Registry) := do
  let events ← Act.takeEvents
  return (events.length, ← r.dispatchAll events now)

/-! ## Requests -/

/-- Answer one request, if its connection still serves a visitor. -/
def answerOne (r : Registry) (handler : String → Act (Option String)) (id : ConnId)
    (request : String) : Act Unit :=
  match r.get? id with
  | none => return ()
  | some conn => do
      if conn.state ≠ .server then
        Act.log .debug ("registry: peer gone before reply id=" ++ conn.label)
      else
        Act.count .request
        match ← handler request with
        | none => return ()
        | some reply => discard <| conn.respond reply

/-- Answer some requests in order. -/
def answerEach (r : Registry) (handler : String → Act (Option String)) :
    List (ConnId × String) → Act Unit
  | [] => return ()
  | (id, request) :: rest => do
      r.answerOne handler id request
      r.answerEach handler rest

/-- Answer all requests that wait. -/
def answerRequests (r : Registry) (handler : String → Act (Option String)) : Act Registry := do
  r.answerEach handler r.requests
  return { r with requests := [] }

/-! ## Housekeeping -/

/-- Change every connection in turn. -/
def eachConnection (f : Connection → Act Connection) : List Connection → Act (List Connection)
  | [] => return []
  | c :: rest => do
      let c ← f c
      return c :: (← eachConnection f rest)

/-- End every connect and send that takes too long. -/
def pollAll (r : Registry) (now : Instant) : Act Registry := do
  let connections ← eachConnection (fun c => return (← c.checkTimeout now).2) r.connections
  return { r with connections }

/-- Give all sockets back before the radio goes off.  The server goes on listening. -/
def releaseAll (r : Registry) : Act Registry := do
  let connections ← eachConnection
    (fun c => if c.handle.isSome || c.state ≠ .init then c.abandon "radio_off" else return c)
    r.connections
  return { r with connections, requests := [] }

/-- The slices in which a lookup is looked after. -/
def dnsSlices (r : Registry) : Nat := max (r.policy.timeoutMs / r.policy.dnsStepMs) 1

/-- Give up a lookup that is still outstanding. -/
def giveUpDns (r : Registry) (id : ConnId) (waitedMs : Nat) : Act (ConnState × Registry) :=
  match r.get? id with
  | none => return (.error, r)
  | some conn => do
      if conn.state ≠ .dns then
        return (conn.state, r)
      Act.log .warn ("registry: dns timeout id=" ++ conn.label ++ " waited_ms=" ++
        toString waitedMs)
      let conn ← conn.abandon "dns_timeout"
      return (conn.state, r.set conn)

/-- Look after a lookup for some slices, after `waitedMs` of waiting. -/
def awaitSlices (id : ConnId) (start : Instant) :
    Nat → Nat → Registry → Act (ConnState × Registry)
  | 0, waitedMs, r => r.giveUpDns id waitedMs
  | slices + 1, waitedMs, r =>
      match r.state? id with
      | none => return (.error, r)
      | some .dns => do
          Act.pause .scheduler r.policy.dnsStepMs
          let waitedMs := waitedMs + r.policy.dnsStepMs
          let (_, r) ← r.pump (start + Instant.ofMillis waitedMs)
          awaitSlices id start slices waitedMs r
      | some state => return (state, r)

/-- Wait for the lookup of a connection, for as long as its timeout. -/
def awaitDns (r : Registry) (id : ConnId) (now : Instant) : Act (ConnState × Registry) :=
  awaitSlices id now r.dnsSlices 0 r

end Registry

end MeterNode
