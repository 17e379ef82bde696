import MeterNode.Board.Session

/-!
# Workers

The worker of a collector's slot waits for a connect, makes a socket, connects it and serves the
session.  A command that comes while it connects cuts the connect short.  Afterwards the socket is
aborted and dropped, and the worker waits again.

The listener makes one socket for a port and accepts visitors on it, one at a time.  Every visitor
has a handle of its own, which goes stale as soon as the visit is over.  After a reply the socket
lingers for a moment before it is closed and again before it is aborted, so that the reply gets
through.

The worker of the lookups asks for one name after the other and remembers the newest answer.
-/

namespace MeterNode

open MeterNode.Text

/-- How long a socket may be silent, in milliseconds. -/
def silenceMs : Nat := 30000

/-- How long the socket of a visitor lingers, in milliseconds. -/
def lingerMs : Nat := 20

/-- The pause after an accept that failed, in milliseconds. -/
def acceptRetryMs : Nat := 1000

namespace Job

/-! ## Collectors -/

/-- Give the socket of a session up. -/
def discardSocket (socket : Nat) : Job Unit := do
  hardware (.abortSocket socket)
  hardware (.flush socket)
  hardware (.dropSocket socket)

/-- End a session, and wait for the next connect. -/
def finishSession (slot : SlotId) (socket : Nat) : Job Stage := do
  discardSocket socket
  return .client slot

/-- Connect a new socket, and begin a session. -/
def beginSession (slot : SlotId) (address : Address) (port : Nat) : Job Stage := do
  let d ← desk
  let handle := d.slots.handleOf slot
  let socket : Nat ← hardware .newSocket
  hardware (.limitSilence socket silenceMs)
  hardware (.startConnect socket address port)
  match ← await (.race (.connected socket) (.command slot)) with
  | .inl (.ok ()) => do
      report slot handle (.connected (.ok ()))
      return .session slot socket handle
  | .inl (.error fault) => do
      log .warn (shownSlot slot ++ " connect err=" ++ fault.name)
      report slot handle (.connected (.error fault.onConnect))
      finishSession slot socket
  | .inr command => do
      log .debug (shownSlot slot ++ " connect cut by " ++ command.name)
      finishSession slot socket

/-- Wait for a connect. -/
def awaitConnect (slot : SlotId) : Job Stage := do
  match ← await (.command slot) with
  | .connect address port => beginSession slot address port
  | .close => return .client slot
  | .abort => return .client slot
  | other => do
      log .debug (shownSlot slot ++ " idle, dropped " ++ other.name)
      return .client slot

/-- Serve a session for one step. -/
def serveSession (slot : SlotId) (socket : Nat) (handle : Handle) : Job Stage := do
  match ← exchange slot socket handle false with
  | none => return .session slot socket handle
  | some _ => finishSession slot socket

/-! ## Visitors -/

/-- Wait for a port to listen on. -/
def awaitListen : Job Stage := do
  match ← await (.command listenerSlot) with
  | .listen port => do
      log .info ("transport: listening port=" ++ toString port)
      let socket : Nat ← hardware .newSocket
      return .listening socket port
  | _ => return .listener

/-- Begin a visit.  Requests may arrive before the owner has registered the visitor, so the visitor
belongs to the owner of the listener at once. -/
def beginVisit (socket port : Nat) : Job Stage := do
  let d ← desk
  let owner := (d.slots.get listenerSlot).owner
  let slots := ((d.slots.clear peerSlot).setOwner peerSlot owner).renew peerSlot
  setDesk { d with slots }
  let peer := slots.handleOf peerSlot
  reportTo owner none (.accepted (.ok peer))
  return .visit socket port peer

/-- Report an accept that failed, and try again after a pause. -/
def retryAccept (socket port : Nat) (fault : SocketFault) : Job Stage := do
  log .warn ("transport: accept port=" ++ toString port ++ " err=" ++ fault.name)
  let d ← desk
  reportTo (d.slots.get listenerSlot).owner none (.accepted (.error fault.onAccept))
  hardware (.abortSocket socket)
  pause acceptRetryMs
  return .listening socket port

/-- Stop listening. -/
def stopListening (socket port : Nat) : Job Stage := do
  log .info ("transport: listener closed port=" ++ toString port)
  hardware (.abortSocket socket)
  hardware (.dropSocket socket)
  return .listener

/-- Wait for a visitor. -/
def awaitVisitor (socket port : Nat) : Job Stage := do
  hardware (.limitSilence socket silenceMs)
  hardware (.startAccept socket port)
  match ← await (.race (.accepted socket) (.command listenerSlot)) with
  | .inl (.ok ()) => beginVisit socket port
  | .inl (.error fault) => retryAccept socket port fault
  | .inr .close => stopListening socket port
  | .inr .abort => stopListening socket port
  | .inr _ => return .listening socket port

/-- End a visit.  Its handle goes stale, so that a late close does not reach the next visitor. -/
def finishVisit (socket port : Nat) (peer : Handle) (ending : SessionEnd) : Job Stage := do
  let d ← desk
  let slots := d.slots.renew peerSlot
  let owner := (slots.get peerSlot).owner
  setDesk { d with slots := (slots.setOwner peerSlot nobody).clear peerSlot }
  if ending = .replied then
    reportTo owner (some peer) .peerClosed
  pause lingerMs
  hardware (.closeSocket socket)
  pause lingerMs
  hardware (.abortSocket socket)
  hardware (.flush socket)
  return .listening socket port

/-- Serve a visitor for one step. -/
def serveVisit (socket port : Nat) (peer : Handle) : Job Stage := do
  match ← exchange peerSlot socket peer true with
  | none => return .visit socket port peer
  | some ending => finishVisit socket port peer ending

/-! ## Lookups -/

/-- The address that a lookup gave. -/
def foundBy (host : String) : Except LookupFault (List Address) → Job (Option Address)
  | .ok addresses => return addresses.head?
  | .error fault => do
      log .warn ("transport: dns host=" ++ host ++ " err=" ++ fault.name)
      return none

/-- Look up the oldest name asked for, and report the answer. -/
def lookUpNext : Job Stage := do
  let request : LookupRequest ← await .request
  hardware (.startLookup request.host)
  let found ← foundBy request.host (← await (.answer request.host))
  match found with
  | none => pure ()
  | some address => do
      log .debug ("transport: dns host=" ++ request.host ++ " addr=" ++ address.text)
      onDesk fun d => { d with lookups := d.lookups.remember request.host address }
  await (.room ⟨request.owner, none, .dnsFound found⟩)
  return .lookups

end Job

end MeterNode
