import MeterNode.Board.Desk
import MeterNode.Proofs.Connection.Sockets

/-!
# What happens to a slot

A handle carries the number of a slot and the low five bits of its generation, and both can be read
back from it (`Slots.handleIn_inj`).  So a handle names one slot at most, and it names that slot
just as long as it is the handle of its present use (`Slots.slotOf?_eq_some_iff`).

`Slots.slotAfter` is what a call of the loop makes of one slot: which slot an opening takes, for
which handles a call counts, and when the queue has room for a command.  `Slots.get_called` is the
one lemma that opens the calls of the table.
-/

namespace MeterNode

open MeterNode.Text

namespace Slots

variable {t : Slots} {i j s : SlotId} {g g' : UInt8} {h : Handle} {c : Command}
  {secure : Bool}

theorem get_modify (t : Slots) (i j : SlotId) (f : Slot → Slot) :
    (t.modify i f).get j = if j = i then f (t.get i) else t.get j := by
  split
  · next same => rw [same, get_modify_self]
  · next differs => exact get_modify_ne t f differs

/-! ## What a handle carries -/

/-- The low bits of the generation in a handle. -/
def eraIn (h : Handle) : UInt8 := h.id >>> 3

private theorem fields_handleIn :
    ∀ n < 256, ∀ i : SlotId, numberIn (handleIn n.toUInt8 i) = i ∧
      eraIn (handleIn n.toUInt8 i) = n.toUInt8 &&& 31 := by
  decide +kernel

@[simp] theorem numberIn_handleIn (g : UInt8) (i : SlotId) : numberIn (handleIn g i) = i := by
  simpa using (fields_handleIn g.toNat g.toNat_lt i).1

@[simp] theorem eraIn_handleIn (g : UInt8) (i : SlotId) : eraIn (handleIn g i) = g &&& 31 := by
  simpa using (fields_handleIn g.toNat g.toNat_lt i).2

theorem handleIn_inj : handleIn g i = handleIn g' j ↔ i = j ∧ g &&& 31 = g' &&& 31 := by
  constructor
  · intro same
    have number := congrArg numberIn same
    have era := congrArg eraIn same
    simp only [numberIn_handleIn, eraIn_handleIn] at number era
    exact ⟨Fin.ext number, era⟩
  · rintro ⟨rfl, same⟩
    simp only [handleIn, same]

/-- A slot has the same handle in two generations just if they are a multiple of 32 apart. -/
theorem handleIn_add_iff (g : UInt8) (n : Nat) :
    handleIn g i = handleIn (g + n.toUInt8) i ↔ 32 ∣ n := by
  have low (x : UInt8) : (x &&& 31).toNat = x.toNat % 32 :=
    Nat.and_two_pow_sub_one_eq_mod x.toNat 5
  have wraps : n.toUInt8.toNat = n % 256 := rfl
  simp only [handleIn_inj, true_and, ← UInt8.toNat_inj, low, UInt8.toNat_add, wraps]
  omega

theorem slotOf?_eq_some_iff : t.slotOf? h = some i ↔ t.handleOf i = h := by
  constructor
  · intro named
    rw [slotOf?] at named
    grind
  · rintro rfl
    have number : numberIn (t.handleOf i) = i := numberIn_handleIn _ i
    simp [slotOf?, number, i.isLt]

/-- A handle of a slot names that slot or nothing. -/
theorem slotOf?_handleIn (t : Slots) (g : UInt8) (i : SlotId) :
    t.slotOf? (handleIn g i) = if handleIn g i = t.handleOf i then some i else none := by
  split
  · next same => exact slotOf?_eq_some_iff.mpr same.symm
  · next differs =>
    refine Option.eq_none_iff_forall_ne_some.mpr fun j named => ?_
    have same := slotOf?_eq_some_iff.mp named
    obtain ⟨rfl, -⟩ := handleIn_inj.mp same
    exact differs same.symm

/-! ## What a call makes of a slot -/

/-- The table after a call of the loop. -/
def called (t : Slots) (call : NetCall) : Slots := (({ slots := t } : Desk).answer call).2.slots

/-- The slot that an opening takes. -/
def vacant? (t : Slots) (secure : Bool) : Option SlotId :=
  if secure then none else clientSlots.find? fun i => !(t.get i).inUse

theorem vacant?_eq_some (vacant : t.vacant? secure = some s) :
    secure = false ∧ s ∈ clientSlots ∧ (t.get s).inUse = false := by
  unfold vacant? at vacant
  split at vacant
  · cases vacant
  · next plain =>
    have free := List.find?_some vacant
    exact ⟨by simpa using plain, List.mem_of_find?_eq_some vacant, by simpa using free⟩

/-- There is room in the queue of a slot. -/
def Roomy (t : Slots) (i : SlotId) : Prop := (t.get i).commands.length < commandDepth

instance (t : Slots) (i : SlotId) : Decidable (t.Roomy i) := inferInstanceAs (Decidable (_ < _))

/-- A slot with one more command in its queue. -/
def withCommand (t : Slots) (i : SlotId) (c : Command) : Slot :=
  { t.get i with commands := (t.get i).commands ++ [c] }

/-- A slot after a call of the loop. -/
def slotAfter (t : Slots) (i : SlotId) : NetCall → Slot
  | .openSocket secure =>
      if t.vacant? secure = some i then
        { t.get i with inUse := true, generation := (t.get i).generation + 1 }
      else t.get i
  | .register h owner => if t.slotOf? h = some i then { t.get i with owner } else t.get i
  | .unregister h => if t.slotOf? h = some i then { t.get i with owner := nobody } else t.get i
  | .close h =>
      if t.slotOf? h = some i ∧ t.Roomy i then { t.withCommand i .close with inUse := false }
      else t.get i
  | .abort h =>
      if t.slotOf? h = some i then { t.get i with commands := [.abort], inUse := false }
      else t.get i
  | .resolve .. => t.get i
  | .connect h address port =>
      if t.slotOf? h = some i ∧ t.Roomy i then t.withCommand i (.connect address port)
      else t.get i
  | .write h bytes =>
      if t.slotOf? h = some i ∧ t.Roomy i then t.withCommand i (.write bytes) else t.get i
  | .listen port owner =>
      if i = listenerSlot ∧ t.Roomy i then { t.withCommand i (.listen port) with owner }
      else t.get i

theorem send?_eq (t : Slots) (j : SlotId) (c : Command) :
    t.send? j c = if t.Roomy j then some (t.modify j fun _ => t.withCommand j c) else none := rfl

theorem get_command (t : Slots) (i : SlotId) (h : Handle) (c : Command) (stale : NetError) :
    (t.command h c stale).2.get i =
      if t.slotOf? h = some i ∧ t.Roomy i then t.withCommand i c else t.get i := by
  unfold command
  cases t.slotOf? h with
  | none => simp
  | some j => by_cases room : t.Roomy j <;> grind [send?_eq, get_modify]

theorem get_called (t : Slots) (i : SlotId) (call : NetCall) :
    (t.called call).get i = t.slotAfter i call := by
  cases call with
  | openSocket secure =>
    simp only [called, slotAfter, Desk.answer, Desk.withSlots, openSocket, vacant?]
    split
    · simp
    · cases clientSlots.find? fun i => !(t.get i).inUse with
      | none => simp
      | some j => grind [renew, get_modify]
  | register h owner =>
    simp only [called, slotAfter, Desk.answer, Desk.onSlots, register, setOwner]
    cases t.slotOf? h <;> grind [get_modify]
  | unregister h =>
    simp only [called, slotAfter, Desk.answer, Desk.onSlots, register, setOwner]
    cases t.slotOf? h <;> grind [get_modify]
  | close h =>
    simp only [called, slotAfter, Desk.answer, Desk.withSlots, close]
    cases t.slotOf? h with
    | none => simp
    | some j => by_cases room : t.Roomy j <;> grind [send?_eq, free, get_modify]
  | abort h =>
    simp only [called, slotAfter, Desk.answer, Desk.onSlots, abort]
    cases t.slotOf? h with
    | none => simp
    | some j =>
      have room : (t.clear j).Roomy j := by simp [Roomy, clear, commandDepth]
      simp only [send?_eq, if_pos room, Option.getD_some, free, get_modify, withCommand,
        Option.some.injEq]
      grind [clear, get_modify]
  | resolve host owner => rfl
  | connect h address port => exact get_command t i h _ _
  | write h bytes => exact get_command t i h _ _
  | listen port owner =>
    simp only [called, slotAfter, Desk.answer, Desk.withSlots, listen]
    by_cases room : t.Roomy listenerSlot <;> grind [send?_eq, setOwner, get_modify]

end Slots

/-- A call changes the table on the desk as `Slots.called` says. -/
theorem Desk.answer_slots (d : Desk) (call : NetCall) :
    (d.answer call).2.slots = d.slots.called call := by
  cases call <;> rfl

end MeterNode
