import MeterNode.Board.Task
import MeterNode.Proofs.Board.Slots

/-!
# Commands and the handles they were sent through

A command in the queue of a slot says neither which handle it was sent through nor how old it is.
An `Order` is a command with both: the handle, and how often the slot was opened since.  `Shift`
keeps the orders of one slot next to the desk, together with the *session* of its worker, which is
the order that the worker took last while it was idle and the handle that the slot had then.

Orders do not grow old without bound (`Patient`).  A slot is opened only when it is free.  It gets
free by a close, which goes into the queue behind the order, by an abort, which empties the queue,
or by a loss, of which every session has one at most.  So the openings that an order has seen are
few, and the slot has the handle that the order was sent through just if there were none
(`Order.Aged.same_iff`).
-/

namespace MeterNode

open MeterNode.Text

/-! ## Orders -/

/-- A command in the queue of a slot. -/
structure Order where
  command : Command
  /-- The handle it was sent through. -/
  through : Handle
  /-- How often the slot was opened since. -/
  since : Nat := 0

/-- The slot was opened once more. -/
def Order.older (o : Order) : Order := { o with since := o.since + 1 }

/-- An order agrees with the generation of its slot. -/
def Order.Aged (i : SlotId) (generation : UInt8) (o : Order) : Prop :=
  ∃ first, o.through = Slots.handleIn first i ∧ generation = first + o.since.toUInt8

/-- No order of a queue has seen more openings than the orders behind it and the occasions for a
loss explain.  `slack` counts one if the slot is free, one if the socket can still be lost, and one
for each order in front. -/
def Patient : Nat → List Order → Prop
  | _, [] => True
  | slack, o :: behind => o.since + slack ≤ 5 + behind.length ∧ Patient (slack + 1) behind

namespace Order

variable {i : SlotId} {g : UInt8} {o : Order}

theorem Aged.older (aged : o.Aged i g) : o.older.Aged i (g + 1) := by
  obtain ⟨first, through, rfl⟩ := aged
  exact ⟨first, through, by simp [Order.older, UInt8.add_assoc]⟩

/-- The slot has the handle that a young order was sent through just if it was not opened since. -/
theorem Aged.same_iff (aged : o.Aged i g) (young : o.since < 32) :
    o.through = Slots.handleIn g i ↔ o.since = 0 := by
  obtain ⟨first, through, rfl⟩ := aged
  rw [through, Slots.handleIn_add_iff]
  omega

end Order

namespace Patient

variable {m n : Nat} {o : Order} {orders : List Order}

theorem mono (patient : Patient n orders) (less : m ≤ n) : Patient m orders := by
  induction orders generalizing m n with
  | nil => trivial
  | cons o behind ih =>
    obtain ⟨here, later⟩ := patient
    exact ⟨by omega, ih later (by omega)⟩

/-- An opening takes a slot that was free. -/
theorem opened (patient : Patient (n + 1) orders) : Patient n (orders.map Order.older) := by
  induction orders generalizing n with
  | nil => trivial
  | cons o behind ih =>
    obtain ⟨here, later⟩ := patient
    refine ⟨?_, ih later⟩
    simp only [Order.older, List.length_map]
    omega

/-- Another order explains one opening more. -/
theorem sent (patient : Patient n orders) (fresh : o.since = 0) (less : m ≤ n + 1)
    (few : m + orders.length ≤ 5) : Patient m (orders ++ [o]) := by
  induction orders generalizing m n with
  | nil =>
    refine ⟨?_, trivial⟩
    rw [fresh]
    simpa using few
  | cons p behind ih =>
    obtain ⟨here, later⟩ := patient
    simp only [List.length_cons] at few
    refine ⟨?_, ih later (by omega) (by omega)⟩
    have longer : (behind ++ [o]).length = behind.length + 1 := List.length_append
    change p.since + m ≤ 5 + (behind ++ [o]).length
    omega

end Patient

/-! ## A slot and its orders -/

/-- The orders fit a slot; `busy` says whether its worker can still lose a socket. -/
structure Fits (i : SlotId) (busy : Bool) (s : Slot) (orders : List Order) : Prop where
  queue : orders.map (·.command) = s.commands
  few : s.commands.length ≤ commandDepth
  aged : ∀ o ∈ orders, o.Aged i s.generation
  patient : Patient ((!s.inUse).toNat + busy.toNat) orders

namespace Fits

variable {i : SlotId} {busy : Bool} {s : Slot} {o : Order} {orders : List Order}

theorem opened (fits : Fits i busy s orders) (free : s.inUse = false) :
    Fits i busy { s with inUse := true, generation := s.generation + 1 }
      (orders.map Order.older) where
  queue := by rw [← fits.queue, List.map_map]; rfl
  few := fits.few
  aged := by
    rintro _ old
    obtain ⟨o, among, rfl⟩ := List.mem_map.mp old
    exact (fits.aged o among).older
  patient := by
    have patient := fits.patient
    rw [free] at patient
    refine Patient.opened (patient.mono ?_)
    simp only [Bool.not_true, Bool.toNat_false, Bool.not_false, Bool.toNat_true]
    omega

theorem sent (fits : Fits i busy s orders) (room : s.commands.length < commandDepth)
    (c : Command) (inUse : Bool) :
    Fits i busy { s with commands := s.commands ++ [c], inUse }
      (orders ++ [⟨c, Slots.handleIn s.generation i, 0⟩]) where
  queue := by simp [fits.queue]
  few := by simpa using Nat.succ_le_of_lt room
  aged := by
    intro p among
    rcases List.mem_append.mp among with old | new
    · exact fits.aged p old
    · rw [List.mem_singleton.mp new]
      exact ⟨s.generation, rfl, by simp⟩
  patient := by
    have length : orders.length = s.commands.length := by rw [← fits.queue, List.length_map]
    have depth : commandDepth = 4 := rfl
    have one := Bool.toNat_le (!inUse)
    have other := Bool.toNat_le busy
    change Patient ((!inUse).toNat + busy.toNat) _
    exact fits.patient.sent rfl (by omega) (by omega)

theorem aborted (generation : UInt8) (owner : ConnId) :
    Fits i busy { generation, owner, inUse := false, commands := [.abort] }
      [⟨.abort, Slots.handleIn generation i, 0⟩] where
  queue := rfl
  few := by simp [commandDepth]
  aged := by
    intro p among
    rw [List.mem_singleton.mp among]
    exact ⟨generation, rfl, by simp⟩
  patient := by
    refine ⟨?_, trivial⟩
    have := Bool.toNat_le busy
    simp
    omega

theorem owned (fits : Fits i busy s orders) (owner : ConnId) :
    Fits i busy { s with owner } orders :=
  ⟨fits.queue, fits.few, fits.aged, fits.patient⟩

/-- A worker takes an order.  If it can no longer lose a socket, it may get one that it can. -/
theorem taken (fits : Fits i busy s (o :: orders)) {still : Bool}
    (begins : still.toNat ≤ busy.toNat + 1) :
    Fits i still { s with commands := s.commands.tail } orders where
  queue := by rw [← fits.queue]; rfl
  few := by
    have few := fits.few
    rw [List.length_tail]
    omega
  aged := fun p among => fits.aged p (List.mem_cons_of_mem o among)
  patient := by
    change Patient ((!s.inUse).toNat + still.toNat) orders
    exact fits.patient.2.mono (by omega)

/-- A socket is lost for once. -/
theorem lost (fits : Fits i true s orders) :
    Fits i false { s with owner := nobody, inUse := false } orders :=
  ⟨fits.queue, fits.few, fits.aged, fits.patient.mono (by simp)⟩

/-- A worker gets idle. -/
theorem idle (fits : Fits i busy s orders) : Fits i false s orders :=
  ⟨fits.queue, fits.few, fits.aged, fits.patient.mono (by simp)⟩

/-- The order in front is young. -/
theorem young (fits : Fits i busy s (o :: orders)) : o.since < 32 := by
  have few := fits.few
  have here := fits.patient.1
  rw [← fits.queue, List.length_map, List.length_cons] at few
  have depth : commandDepth = 4 := rfl
  omega

end Fits

/-! ## Shifts -/

/-- What a worker took up when it was idle. -/
structure Session where
  order : Order
  /-- The handle that the slot had then. -/
  handle : Handle

/-- The desk as the worker of one slot sees it. -/
structure Shift where
  desk : Desk := {}
  /-- The orders in the queue of the slot, oldest first. -/
  orders : List Order := []
  /-- What the worker took up last when it was idle. -/
  session : Option Session := none
  /-- The reports that the worker queued, each with the session it comes from. -/
  reports : List (Option Session × TransportEvent) := []

namespace Shift

variable {i : SlotId} {busy : Bool}

/-- The slot of the worker. -/
def slot (x : Shift) (i : SlotId) : Slot := x.desk.slots.get i

/-- The orders after a command was sent through a handle. -/
def ordersWith (x : Shift) (i : SlotId) (h : Handle) (c : Command) : List Order :=
  if x.desk.slots.slotOf? h = some i ∧ x.desk.slots.Roomy i then x.orders ++ [⟨c, h, 0⟩]
  else x.orders

/-- The orders after a call of the loop. -/
def ordersAfter (x : Shift) (i : SlotId) : NetCall → List Order
  | .openSocket secure =>
      if x.desk.slots.vacant? secure = some i then x.orders.map Order.older else x.orders
  | .connect h address port => x.ordersWith i h (.connect address port)
  | .write h bytes => x.ordersWith i h (.write bytes)
  | .close h => x.ordersWith i h .close
  | .abort h => if x.desk.slots.slotOf? h = some i then [⟨.abort, h, 0⟩] else x.orders
  | .register .. | .unregister _ | .resolve .. | .listen .. => x.orders

/-- A call of the loop. -/
def called (x : Shift) (i : SlotId) (call : NetCall) : Shift :=
  { x with desk := (x.desk.answer call).2, orders := x.ordersAfter i call }

/-- What may happen to the desk while the worker waits: calls of the loop, and anything that leaves
the slot of the worker alone. -/
inductive Outside (i : SlotId) : Shift → Shift → Prop where
  | refl (x : Shift) : Outside i x x
  | call {x y : Shift} (outside : Outside i x y) (call : NetCall) : Outside i x (y.called i call)
  | elsewhere {x y : Shift} (outside : Outside i x y) {d : Desk}
      (alone : d.slots.get i = y.slot i) : Outside i x { y with desk := d }

variable {x y z : Shift}

/-- The orders fit the slot. -/
def Ready (i : SlotId) (busy : Bool) (x : Shift) : Prop := Fits i busy (x.slot i) x.orders

theorem Ready.called (client : i ∈ clientSlots) (ready : x.Ready i busy) (call : NetCall) :
    (x.called i call).Ready i busy := by
  have slot : (x.called i call).slot i = x.desk.slots.slotAfter i call := by
    rw [Shift.slot, Shift.called, Desk.answer_slots, Slots.get_called]
  have sends (h : Handle) (c : Command) (inUse : Bool) (named : x.desk.slots.slotOf? h = some i)
      (room : x.desk.slots.Roomy i) :
      Fits i busy { x.desk.slots.withCommand i c with inUse } (x.orders ++ [⟨c, h, 0⟩]) := by
    have sent := ready.sent room c inUse
    rwa [← Slots.slotOf?_eq_some_iff.mp named]
  rw [Ready, slot]
  cases call with
  | openSocket secure =>
    simp only [Slots.slotAfter, Shift.called, ordersAfter]
    split
    · next vacant => exact ready.opened (Slots.vacant?_eq_some vacant).2.2
    · exact ready
  | register h owner =>
    simp only [Slots.slotAfter]
    split
    · exact ready.owned owner
    · exact ready
  | unregister h =>
    simp only [Slots.slotAfter]
    split
    · exact ready.owned nobody
    · exact ready
  | close h =>
    simp only [Slots.slotAfter, Shift.called, ordersAfter, ordersWith]
    split
    · next sent => exact sends h .close false sent.1 sent.2
    · exact ready
  | abort h =>
    simp only [Slots.slotAfter, Shift.called, ordersAfter]
    split
    · next named =>
      rw [← Slots.slotOf?_eq_some_iff.mp named]
      exact .aborted _ _
    · exact ready
  | resolve host owner => exact ready
  | connect h address port =>
    simp only [Slots.slotAfter, Shift.called, ordersAfter, ordersWith]
    split
    · next sent => exact sends h _ (x.slot i).inUse sent.1 sent.2
    · exact ready
  | write h bytes =>
    simp only [Slots.slotAfter, Shift.called, ordersAfter, ordersWith]
    split
    · next sent => exact sends h _ (x.slot i).inUse sent.1 sent.2
    · exact ready
  | listen port owner =>
    have other : i ≠ listenerSlot := by
      rintro rfl
      simp [clientSlots, listenerSlot] at client
    simp only [Slots.slotAfter, other, false_and, if_false]
    exact ready

theorem Outside.kept (outside : Outside i x y) : y.session = x.session ∧ y.reports = x.reports := by
  induction outside with
  | refl => exact ⟨rfl, rfl⟩
  | call outside call ih => exact ih
  | elsewhere outside alone ih => exact ih

theorem Outside.trans (outside : Outside i x y) (later : Outside i y z) : Outside i x z := by
  induction later with
  | refl => exact outside
  | call later call ih => exact .call ih call
  | elsewhere later alone ih => exact .elsewhere ih alone

theorem Outside.ready (client : i ∈ clientSlots) (outside : Outside i x y)
    (ready : x.Ready i busy) : y.Ready i busy := by
  induction outside with
  | refl => exact ready
  | call outside call ih => exact ih.called client call
  | elsewhere outside alone ih =>
    rw [Ready, slot, alone]
    exact ih

end Shift

end MeterNode
