import MeterNode.Board.Stage

/-!
# Sessions

A session moves bytes between a socket and its owner.  Bytes of the peer are reported in chunks,
and bytes of the owner are written until all of them were accepted.  The session ends when the peer
closes the stream, when the owner closes or aborts the socket, when the socket is lost, or, in a
session that takes one reply only, after the first write.

Every report names the handle the session was begun for.  A socket that is lost is reported to the
owner once, and only if that handle is not stale.
-/

namespace MeterNode

open MeterNode.Text

/-- How a session ended. -/
inductive SessionEnd where
  | peerClosed
  | closed
  | lost
  | replied
deriving DecidableEq

namespace Job

/-- A handle as log lines show it. -/
def shownSource : Option Handle → String
  | none => "None"
  | some h => "Some(HandleId(" ++ toString h.id ++ "))"

/-- A slot as log lines show it. -/
def shownSlot (slot : SlotId) : String := "transport: slot=" ++ toString slot.val

/-- Report to an owner, as soon as there is room. -/
def reportTo (owner : ConnId) (source : Option Handle) (kind : EventKind) : Job Unit := do
  if owner = nobody then
    log .debug ("transport: handle=" ++ shownSource source ++ " event=" ++ kind.name ++
      " unowned")
  else
    await (.room ⟨owner, source, kind⟩)

/-- Report to the present owner of a slot. -/
def report (slot : SlotId) (handle : Handle) (kind : EventKind) : Job Unit := do
  let d ← desk
  reportTo (d.slots.get slot).owner (some handle) kind

/-- Report that the socket of a slot was lost, and give the slot up. -/
def reportLost (slot : SlotId) (handle : Handle) (cause : NetError) : Job Unit := do
  let d ← desk
  match d.withSlots (·.lose slot handle) with
  | (none, _) =>
      log .debug (shownSlot slot ++ " lost stale handle=HandleId(" ++ toString handle.id ++ ")")
  | (some owner, d) => do
      setDesk d
      reportTo owner (some handle) (.error cause)

/-- Write bytes until all were accepted, and say whether that worked.  Every write takes at least
one byte, so `most` is at least the number of bytes. -/
def writeAll (socket : Nat) : Nat → Bytes → Job Bool
  | 0, _ => return true
  | most + 1, bytes => do
      if bytes.isEmpty then
        return true
      match ← await (.outgoing socket bytes) with
      | none => return false
      | some accepted => writeAll socket most (bytes.drop accepted)

/-- The longest write that a report can tell. -/
def sentMax : Nat := UInt16.size - 1

/-- Write for the owner, and report it. -/
def writeFor (slot : SlotId) (socket : Nat) (handle : Handle) (oneReply : Bool) (bytes : Bytes) :
    Job (Option SessionEnd) := do
  if ← writeAll socket bytes.length bytes then
    report slot handle (.sent (min bytes.length sentMax))
    if oneReply then
      hardware (.flush socket)
      return some .replied
    return none
  else
    log .warn (shownSlot slot ++ " write err=ConnectionReset")
    reportLost slot handle .reset
    return some .lost

/-- Take what the peer sent. -/
def readFor (slot : SlotId) (handle : Handle) : Option Bytes → Job (Option SessionEnd)
  | some [] => do
      report slot handle .peerClosed
      return some .peerClosed
  | some chunk => do
      report slot handle (.received chunk)
      return none
  | none => do
      log .warn (shownSlot slot ++ " read err=ConnectionReset")
      reportLost slot handle .reset
      return some .lost

/-- Do what the owner asks for. -/
def obey (slot : SlotId) (socket : Nat) (handle : Handle) (oneReply : Bool) :
    Command → Job (Option SessionEnd)
  | .write bytes => writeFor slot socket handle oneReply bytes
  | .close => do
      hardware (.flush socket)
      hardware (.closeSocket socket)
      return some .closed
  | .abort => do
      hardware (.abortSocket socket)
      return some .closed
  | other => do
      log .warn (shownSlot slot ++ " unexpected " ++ other.name)
      return none

/-- One step of a session: bytes of the peer are preferred over commands of the owner.  The answer
says how the session ended, if it did. -/
def exchange (slot : SlotId) (socket : Nat) (handle : Handle) (oneReply : Bool) :
    Job (Option SessionEnd) := do
  match ← await (.race (.incoming socket) (.command slot)) with
  | .inl arrived => readFor slot handle arrived
  | .inr command => obey slot socket handle oneReply command

end Job

end MeterNode
