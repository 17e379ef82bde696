import MeterNode.Bench.Machine
import MeterNode.Proofs.Board.Workers

/-!
# What the reports of a session are tagged with

`Shift.Step` is one step of the worker of a collector's slot and of what is around it, and
`Shift.Reached` is where that leads from a worker that has just started.  Every report is tagged
with the handle the slot had when the worker took the connect up
(`Shift.Reached.tagged_as_taken_up`).  That is the handle the connect was sent through just if the
slot was not opened while the connect was in the queue: a worker looks up the handle when it takes a
connect, and a close frees the slot at once.

`Shift.Watched` runs a worker on the bench, one operation at a time, so that runs can be computed.
-/

namespace MeterNode

open MeterNode.Text

/-! ## The bench -/

namespace Bench.Machine

variable {m n : Machine} {timed : Bool} {x : Shift}

private theorem map_given {α : Type} {r : Option (α × Hardware)} {a : α}
    (given : r.map m.given = some (a, n)) : n.desk = m.desk := by
  obtain ⟨r, -, eq⟩ := Option.map_eq_some_iff.mp given
  cases eq
  rfl

/-- Waits end on the bench as a worker's waits may end. -/
theorem ready?_canEnd {w : Wait} {a : w.Answer} (ready : m.ready? timed w = some (a, n))
    (same : x.desk = m.desk) (i : SlotId) : x.CanEnd w a ∧ (x.ended i w a).desk = n.desk := by
  induction w generalizing m n with
  | command j =>
    obtain ⟨⟨c, slots⟩, taken, eq⟩ := Option.map_eq_some_iff.mp ready
    cases eq
    simp [Shift.CanEnd, Shift.ended, Shift.taken, Desk.onSlots, Slots.changed, same, taken]
  | request =>
    obtain ⟨⟨r, lookups⟩, taken, eq⟩ := Option.map_eq_some_iff.mp ready
    cases eq
    simp [Shift.CanEnd, Shift.ended, same, taken]
  | room e =>
    obtain ⟨desk, posted, eq⟩ := Option.map_eq_some_iff.mp ready
    cases eq
    simp [Shift.CanEnd, Shift.ended, Shift.reported, same, posted]
  | connected socket => exact ⟨trivial, same.trans (map_given ready).symm⟩
  | accepted socket => exact ⟨trivial, same.trans (map_given ready).symm⟩
  | incoming socket => exact ⟨trivial, same.trans (map_given ready).symm⟩
  | outgoing socket bytes => exact ⟨trivial, same.trans (map_given ready).symm⟩
  | answer host =>
    obtain ⟨r, -, eq⟩ := Option.map_eq_some_iff.mp ready
    cases eq
    exact ⟨trivial, same⟩
  | datagram most => exact ⟨trivial, same.trans (map_given ready).symm⟩
  | association => exact ⟨trivial, same.trans (map_given ready).symm⟩
  | address =>
    simp only [ready?] at ready
    split at ready <;> cases ready
    exact ⟨trivial, same⟩
  | time at_ =>
    simp only [ready?] at ready
    split at ready <;> cases ready
    exact ⟨trivial, same⟩
  | forever => cases ready
  | race first second ihFirst ihSecond =>
    simp only [ready?] at ready
    split at ready
    · next b k found =>
      cases ready
      exact ihFirst found same
    · obtain ⟨⟨b, k⟩, found, eq⟩ := Option.map_eq_some_iff.mp ready
      cases eq
      exact ihSecond found same
  | within w deadline ih =>
    simp only [ready?] at ready
    split at ready
    · next b k found =>
      cases ready
      exact ih found same
    · split at ready <;> cases ready
      exact ⟨trivial, same⟩

/-- The bench answers operations as a worker may be answered. -/
theorem answer?_admits {op : DeviceOp} {a : op.Answer} (answered : m.answer? timed op = some (a, n))
    (same : x.desk = m.desk) (i : SlotId) : x.Admits op a ∧ (x.done i op a).desk = n.desk := by
  cases op with
  | desk =>
    cases answered
    exact ⟨same.symm, same⟩
  | setDesk desk =>
    cases answered
    exact ⟨trivial, rfl⟩
  | await w =>
    have ends := ready?_canEnd answered same i
    cases w <;> exact ends
  | _ =>
    cases answered
    exact ⟨trivial, same⟩

end Bench.Machine

/-! ## Runs -/

namespace Shift

/-- One step of a worker and what is around it. -/
inductive Step (i : SlotId) : Shift × Job Stage → Shift × Job Stage → Prop where
  /-- Something happens outside while the worker waits. -/
  | outside {x y : Shift} {w : Wait} {rest : w.Answer → Job Stage} (outside : Outside i x y) :
      Step i (x, .ask (.await w) rest) (y, .ask (.await w) rest)
  /-- An operation of the worker is answered. -/
  | work {x : Shift} {op : DeviceOp} {rest : op.Answer → Job Stage} {a : op.Answer}
      (admits : x.Admits op a) : Step i (x, .ask op rest) (x.done i op a, rest a)
  /-- The worker goes on with its next stage. -/
  | turn {x : Shift} {stage : Stage} : Step i (x, .pure stage) (x, stage.work)

/-- Where a worker can get that starts with nothing in the queue of its slot. -/
inductive Reached (i : SlotId) : Shift × Job Stage → Prop where
  | start {desk : Desk} (empty : (desk.slots.get i).commands = []) :
      Reached i ({ desk }, (Stage.client i).work)
  | step {c d : Shift × Job Stage} (reached : Reached i c) (step : Step i c d) : Reached i d

theorem Step.keeps {i : SlotId} (client : i ∈ clientSlots) {c d : Shift × Job Stage}
    (step : Step i c d) (keeps : Keeps i (Stands i) c.2 c.1) : Keeps i (Stands i) d.2 d.1 := by
  cases step with
  | outside outside =>
    refine ⟨?_, fun y after => keeps.2 y (outside.trans after)⟩
    rw [Right, outside.kept.2]
    exact keeps.1
  | @work x op rest a admits =>
    refine keeps.2 x ?_ a admits
    cases op <;> first | exact rfl | exact .refl x
  | turn => exact Stands.keeps client keeps.2

theorem Reached.keeps {i : SlotId} (client : i ∈ clientSlots) {c : Shift × Job Stage}
    (reached : Reached i c) : Keeps i (Stands i) c.2 c.1 := by
  induction reached with
  | start empty =>
    have ready : Ready i false { desk := _ } :=
      ⟨empty.symm, by simp [slot, empty], by simp, trivial⟩
    have stands : Stands i (.client i) { desk := _ } := ⟨rfl, ready, by simp [Right]⟩
    exact stands.keeps client
  | step reached step ih => exact step.keeps client ih

/-- **Tags.**  Every report of the worker of a collector's slot comes from a session that a connect
began, and is tagged with the handle that the slot had when the worker took the connect up.  This is
the handle the connect was sent through just if the slot was not opened while the connect was in the
queue. -/
theorem Reached.tagged_as_taken_up {i : SlotId} (client : i ∈ clientSlots) {x : Shift}
    {job : Job Stage} (reached : Reached i (x, job)) {began : Option Session} {e : TransportEvent}
    (reported : (began, e) ∈ x.reports) :
    ∃ s, began = some s ∧ (∃ address port, s.order.command = .connect address port) ∧
      e.source = some s.handle ∧ (e.source = some s.order.through ↔ s.order.since = 0) := by
  obtain ⟨s, rfl, sound, tagged⟩ := (reached.keeps client).right _ reported
  refine ⟨s, rfl, sound.connects, tagged, ?_⟩
  rw [tagged, Option.some.injEq, sound.same_iff]

/-! ## Runs on the bench -/

/-- A worker on the bench, and the shift that follows it. -/
structure Watched where
  machine : Bench.Machine
  shift : Shift
  job : Job Stage

/-- What happens on the bench. -/
inductive Move where
  /-- The loop calls the transport, if the worker waits. -/
  | call (call : NetCall)
  /-- The worker goes on by one operation, if the bench has an answer. -/
  | work

namespace Watched

variable {i : SlotId} {w : Watched}

/-- The worker after a move. -/
def after (i : SlotId) (w : Watched) : Move → Watched
  | .call call =>
      match w.job with
      | .ask (.await _) _ =>
          { w with
            machine := { w.machine with desk := (w.machine.desk.answer call).2 }
            shift := w.shift.called i call }
      | _ => w
  | .work =>
      match w.job with
      | .pure stage => { w with job := stage.work }
      | .ask op rest =>
          match w.machine.answer? false op with
          | none => w
          | some (a, machine) => ⟨machine, w.shift.done i op a, rest a⟩

/-- A worker that has just started on hardware that follows a script. -/
def start (i : SlotId) (hardware : Bench.Hardware) : Watched :=
  ⟨{ hardware }, {}, (Stage.client i).work⟩

/-- The worker after some moves. -/
def play (i : SlotId) (hardware : Bench.Hardware) (moves : List Move) : Watched :=
  moves.foldl (after i) (start i hardware)

/-- The shift follows the worker. -/
def Follows (i : SlotId) (w : Watched) : Prop :=
  Reached i (w.shift, w.job) ∧ w.shift.desk = w.machine.desk

theorem Follows.after (follows : w.Follows i) (move : Move) : (w.after i move).Follows i := by
  obtain ⟨reached, same⟩ := follows
  obtain ⟨machine, shift, job⟩ := w
  cases move with
  | call call => cases job with
    | pure stage => exact ⟨reached, same⟩
    | ask op rest => cases op with
      | await wait =>
        refine ⟨reached.step (.outside (.call (.refl shift) call)), ?_⟩
        exact congrArg (fun d => (Desk.answer d call).2) same
      | _ => exact ⟨reached, same⟩
  | work => cases job with
    | pure stage => exact ⟨reached.step .turn, same⟩
    | ask op rest =>
      simp only [Watched.after]
      split
      · exact ⟨reached, same⟩
      · next a n answered =>
        obtain ⟨admits, desk⟩ := Bench.Machine.answer?_admits answered same i
        exact ⟨reached.step (.work admits), desk⟩

theorem play_reached (i : SlotId) (hardware : Bench.Hardware) (moves : List Move) :
    Reached i ((play i hardware moves).shift, (play i hardware moves).job) := by
  suffices follows : ∀ w, Follows i w → Follows i (moves.foldl (Watched.after i) w) from
    (follows _ ⟨.start (by simp [Slots.get]), rfl⟩).1
  induction moves with
  | nil => exact fun w follows => follows
  | cons move moves ih => exact fun w follows => ih _ (follows.after move)

/-- The handles that reports are tagged with, each behind the one the connect was sent through. -/
def tags (w : Watched) : List (Option Handle × Option Handle) :=
  w.shift.reports.map fun r => (r.1.map (·.order.through), r.2.source)

/-- The first socket is refused when it connects. -/
def refusing : Bench.Hardware := { sockets := [{ connects := [some .connectionReset] }] }

/-- A connect is sent through a new handle. -/
def connecting : List Move :=
  [.call (.openSocket false), .call (.register ⟨8⟩ ⟨1⟩),
    .call (.connect ⟨8⟩ ⟨192, 168, 1, 10⟩ 80)]

/-- The slot is closed, opened again and registered before the worker takes the connect up. -/
def reopening : List Move :=
  [.call (.close ⟨8⟩), .call (.openSocket false), .call (.register ⟨16⟩ ⟨1⟩)]

/-- The worker goes on until it has reported how the connect ended. -/
def serving : List Move := List.replicate 9 .work

end Watched

/-- The tag is the handle of the connect as long as the slot is not opened meanwhile. -/
theorem Reached.tagged_as_sent :
    let w := Watched.play 0 Watched.refusing (Watched.connecting ++ Watched.serving)
    ∃ s e, (some s, e) ∈ w.shift.reports ∧ s.order.since = 0 ∧ e.source = some s.order.through := by
  intro w
  have tags : w.tags = [(some ⟨8⟩, some ⟨8⟩)] := by decide +kernel
  obtain ⟨⟨began, e⟩, among, tag⟩ : ∃ r ∈ w.shift.reports, _ = _ :=
    List.mem_map.mp (tags ▸ List.mem_singleton_self _)
  have reached := Watched.play_reached 0 Watched.refusing (Watched.connecting ++ Watched.serving)
  obtain ⟨s, rfl, -, -, same⟩ := Reached.tagged_as_taken_up (by decide) reached among
  simp only [Option.map_some, Prod.mk.injEq, Option.some.injEq] at tag
  have through : e.source = some s.order.through := by rw [tag.1, tag.2]
  exact ⟨s, e, among, same.mp through, through⟩

/-- When the slot is opened again while the connect waits, its end is reported with a handle that no
connect was sent through. -/
theorem Reached.tagged_with_later_handle :
    let w := Watched.play 0 Watched.refusing
      (Watched.connecting ++ Watched.reopening ++ Watched.serving)
    Reached 0 (w.shift, w.job) ∧
      ∃ s e, (some s, e) ∈ w.shift.reports ∧ s.order.through = ⟨8⟩ ∧ e.source = some ⟨16⟩ := by
  intro w
  have tags : w.tags = [(some ⟨8⟩, some ⟨16⟩)] := by decide +kernel
  obtain ⟨⟨began, e⟩, among, tag⟩ : ∃ r ∈ w.shift.reports, _ = _ :=
    List.mem_map.mp (tags ▸ List.mem_singleton_self _)
  obtain ⟨sent, tagged⟩ := Prod.mk.inj tag
  obtain ⟨s, rfl, through⟩ := Option.map_eq_some_iff.mp sent
  exact ⟨Watched.play_reached 0 _ _, s, e, among, through, tagged⟩

end Shift

end MeterNode
