import MeterNode.Effect

/-!
# Socket slots

The board keeps five slots for sockets: three for connections to collectors, one for the listener
and one for the visitor it serves.  A worker looks after each slot.  The loop never waits for a
worker.  It leaves commands in the queue of a slot, and the worker takes them in order.

A handle names one use of a slot.  Its low three bits are the number of the slot, and the five bits
above them are the low bits of the *generation* of the slot.  Every new use starts a generation,
and from then on the handles of earlier uses are stale: they name nothing, and calls with them
change nothing.  The generation is one byte and wraps.

Owner, generation, queue and the mark that a slot is in use all live here, so that loop and workers
share one table.
-/

namespace MeterNode

open MeterNode.Text

/-- The slots of the board. -/
abbrev slotCount : Nat := 5

/-- A slot, by its number. -/
abbrev SlotId := Fin slotCount

/-- The slots for connections to collectors. -/
def clientSlots : List SlotId := [0, 1, 2]

/-- The slot of the listener. -/
def listenerSlot : SlotId := 3

/-- The slot of the visitor. -/
def peerSlot : SlotId := 4

/-- The commands that a queue holds, at most. -/
def commandDepth : Nat := 4

/-- The owner of a slot that nobody owns.  The last connection number is given up for it. -/
def nobody : ConnId := ⟨255⟩

/-- What the loop asks of a worker. -/
inductive Command where
  | connect (address : Address) (port : Nat)
  | write (bytes : Bytes)
  | listen (port : Nat)
  | close
  | abort

/-- The name of a command. -/
def Command.name : Command → String
  | .connect .. => "connect"
  | .write _ => "write"
  | .listen _ => "listen"
  | .close => "close"
  | .abort => "abort"

/-- A slot. -/
structure Slot where
  /-- Counts the uses of the slot, and wraps. -/
  generation : UInt8 := 0
  /-- The connection that reports of the slot go to. -/
  owner : ConnId := nobody
  /-- A handle of the slot is out.  Only slots for collectors are marked. -/
  inUse : Bool := false
  /-- The commands that wait, oldest first. -/
  commands : List Command := []

/-- All slots. -/
structure Slots where
  all : Vector Slot slotCount := Vector.replicate slotCount {}

namespace Slots

/-- A slot of the table. -/
def get (t : Slots) (i : SlotId) : Slot := t.all[i]

/-- Change one slot. -/
def modify (t : Slots) (i : SlotId) (f : Slot → Slot) : Slots := ⟨t.all.set i (f (t.get i))⟩

@[simp] theorem get_modify_self (t : Slots) (i : SlotId) (f : Slot → Slot) :
    (t.modify i f).get i = f (t.get i) := by
  simp [Slots.get, modify]

theorem get_modify_ne (t : Slots) {i j : SlotId} (f : Slot → Slot) (h : j ≠ i) :
    (t.modify i f).get j = t.get j := by
  have hv : (i : Nat) ≠ j := fun e => h (Fin.ext e.symm)
  simp [Slots.get, modify, hv]

/-! ## Handles -/

/-- The handle of a slot in a generation. -/
def handleIn (generation : UInt8) (i : SlotId) : Handle :=
  ⟨((generation &&& 31) <<< 3) ||| i.val.toUInt8⟩

/-- The handle of the present use of a slot. -/
def handleOf (t : Slots) (i : SlotId) : Handle := handleIn (t.get i).generation i

/-- The number of a slot in the low bits of a handle. -/
def numberIn (h : Handle) : Nat := (h.id &&& 7).toNat

/-- The slot that a handle names, unless the handle is stale. -/
def slotOf? (t : Slots) (h : Handle) : Option SlotId :=
  if inRange : numberIn h < slotCount then
    let i : SlotId := ⟨numberIn h, inRange⟩
    if t.handleOf i = h then some i else none
  else none

/-- Start a new use of a slot. -/
def renew (t : Slots) (i : SlotId) : Slots :=
  t.modify i fun s => { s with generation := s.generation + 1 }

/-! ## Changing a slot -/

/-- Take the mark that a slot is in use away. -/
def free (t : Slots) (i : SlotId) : Slots := t.modify i fun s => { s with inUse := false }

/-- Give a slot to a connection. -/
def setOwner (t : Slots) (i : SlotId) (owner : ConnId) : Slots :=
  t.modify i fun s => { s with owner }

/-- Drop the commands that wait. -/
def clear (t : Slots) (i : SlotId) : Slots := t.modify i fun s => { s with commands := [] }

/-- Leave a command in the queue of a slot, if there is room. -/
def send? (t : Slots) (i : SlotId) (c : Command) : Option Slots :=
  if (t.get i).commands.length < commandDepth then
    some (t.modify i fun s => { s with commands := s.commands ++ [c] })
  else none

/-- Leave a command for the slot a handle names; `stale` answers a stale handle. -/
def command (t : Slots) (h : Handle) (c : Command) (stale : NetError) :
    Except NetError Unit × Slots :=
  match t.slotOf? h with
  | none => (.error stale, t)
  | some i =>
      match t.send? i c with
      | none => (.error .mem, t)
      | some t => (.ok (), t)

/-! ## Calls of the loop -/

/-- Take a free slot for a collector.  There is no encryption. -/
def openSocket (t : Slots) (secure : Bool) : Except NetError Handle × Slots :=
  if secure then (.error .argument, t)
  else
    match clientSlots.find? fun i => !(t.get i).inUse with
    | none => (.error .mem, t)
    | some i =>
        let t := (t.modify i fun s => { s with inUse := true }).renew i
        (.ok (t.handleOf i), t)

/-- Give the slot of a handle to a connection. -/
def register (t : Slots) (h : Handle) (owner : ConnId) : Slots :=
  match t.slotOf? h with
  | none => t
  | some i => t.setOwner i owner

/-- Close the socket of a handle, after what was written.  The slot is free at once. -/
def close (t : Slots) (h : Handle) : Except NetError Unit × Slots :=
  match t.slotOf? h with
  | none => (.ok (), t)
  | some i =>
      match t.send? i .close with
      | none => (.error .mem, t)
      | some t => (.ok (), t.free i)

/-- Abort the socket of a handle.  Commands that wait are dropped, and the slot is free at once. -/
def abort (t : Slots) (h : Handle) : Slots :=
  match t.slotOf? h with
  | none => t
  | some i => (((t.clear i).send? i .abort).getD t).free i

/-- Have the listener accept visitors. -/
def listen (t : Slots) (port : Nat) (owner : ConnId) : Except NetError Handle × Slots :=
  match t.send? listenerSlot (.listen port) with
  | none => (.error .use, t)
  | some t => (.ok (t.handleOf listenerSlot), t.setOwner listenerSlot owner)

/-! ## Calls of the workers -/

/-- Take the oldest command of a slot. -/
def take? (t : Slots) (i : SlotId) : Option (Command × Slots) :=
  match (t.get i).commands with
  | [] => none
  | c :: rest => some (c, t.modify i fun s => { s with commands := rest })

/-- Give up a slot whose socket was lost, unless the handle is stale.  The answer is the owner the
loss is reported to. -/
def lose (t : Slots) (i : SlotId) (h : Handle) : Option ConnId × Slots :=
  if t.slotOf? h = some i then (some (t.get i).owner, (t.setOwner i nobody).free i) else (none, t)

end Slots

/-- A handle is stale once its slot has a new use. -/
example :
    let (_, t) := ({} : Slots).openSocket false
    t.slotOf? ⟨8⟩ = some 0 ∧ (t.renew 0).slotOf? ⟨8⟩ = none := by decide

end MeterNode
