import MeterNode.Board.Task
import MeterNode.Proofs.Board.Handles
import MeterNode.Proofs.Board.Orders

/-!
# What the worker of a slot guarantees

The worker of a collector's slot runs next to the loop.  Whenever it waits, the loop may call the
transport and other workers may use the desk (`Shift.Outside`), and sockets may answer anything,
also at the first poll.  `Shift.Admits` and `Shift.done` say how the operations of a worker may be
answered and what they do.

`Shift.Keeps` is what a program of the worker guarantees against all of that: it follows the
program, and at every wait it lets the outside go first.  There is one lemma for each program of the
worker, and `Shift.Stands.keeps` puts them together: the work of a stage leaves all reports right,
and ends at a stage from which that is so again.
-/

namespace MeterNode

open MeterNode.Text

/-! ## What the operations of a worker do -/

namespace Shift

/-- The oldest command of a slot is taken. -/
def taken (x : Shift) (i j : SlotId) : Shift :=
  { x with
    desk := x.desk.onSlots (·.changed (.take j))
    orders := if j = i then x.orders.tail else x.orders }

/-- A report is queued. -/
def reported (x : Shift) (e : TransportEvent) : Shift :=
  { x with
    desk := (x.desk.post? e).getD x.desk
    reports := x.reports ++ [(x.session, e)] }

/-- The session that begins when the worker takes up a command. -/
def session? (x : Shift) (i : SlotId) : Option Session :=
  x.orders.head?.map fun order => ⟨order, x.desk.slots.handleOf i⟩

/-- The answers that a wait may end with.  The desk has to have what is waited for.  Sockets,
lookups and clocks may answer anything at any time. -/
def CanEnd (x : Shift) : (w : Wait) → w.Answer → Prop
  | .command j, c => (x.desk.slots.take? j).map (·.1) = some c
  | .request, r => x.desk.lookups.take?.map (·.1) = some r
  | .room e, _ => (x.desk.post? e).isSome
  | .race first _, .inl a => CanEnd x first a
  | .race _ second, .inr b => CanEnd x second b
  | .within w _, some a => CanEnd x w a
  | _, _ => True

/-- What the end of a wait does. -/
def ended (i : SlotId) (x : Shift) : (w : Wait) → w.Answer → Shift
  | .command j, _ => x.taken i j
  | .request, _ =>
      { x with desk := { x.desk with
          lookups := (x.desk.lookups.take?.map (·.2)).getD x.desk.lookups } }
  | .room e, _ => x.reported e
  | .race first _, .inl a => ended i x first a
  | .race _ second, .inr b => ended i x second b
  | .within w _, some a => ended i x w a
  | _, _ => x

/-- The answers that an operation of the worker may have. -/
def Admits (x : Shift) : (op : DeviceOp) → op.Answer → Prop
  | .desk, d => d = x.desk
  | .await w, a => x.CanEnd w a
  | _, _ => True

/-- What an operation of the worker does.  A command that is waited for alone is taken up, as the
worker is idle then. -/
def done (i : SlotId) (x : Shift) : (op : DeviceOp) → op.Answer → Shift
  | .setDesk desk, _ => { x with desk }
  | .await (.command j), _ =>
      { x.taken i j with session := if j = i then x.session? i else x.session }
  | .await w, a => x.ended i w a
  | _, _ => x

/-- What may happen before an operation is answered. -/
def Before (i : SlotId) : DeviceOp → Shift → Shift → Prop
  | .await _, x, y => Outside i x y
  | _, x, y => y = x

end Shift

/-! ## What a program guarantees -/

/-- The command that began a session was a connect, and its handle is the one of the session just if
the slot was not opened since. -/
structure Session.Sound (s : Session) : Prop where
  connects : ∃ address port, s.order.command = .connect address port
  same_iff : s.handle = s.order.through ↔ s.order.since = 0

namespace Shift

variable {i : SlotId} {busy : Bool} {s : Session} {x y z : Shift} {α β : Type}
  {Q R : α → Shift → Prop}

/-- Every report comes from a session, and is tagged with its handle. -/
def Right (x : Shift) : Prop :=
  ∀ r ∈ x.reports, ∃ s, r.1 = some s ∧ s.Sound ∧ r.2.source = some s.handle

/-- A program keeps the reports right, whatever happens outside, and when it ends `Q` holds of its
value. -/
def Keeps (i : SlotId) {α : Type} (Q : α → Shift → Prop) : Job α → Shift → Prop
  | .pure a, x => x.Right ∧ Q a x
  | .ask op rest, x =>
      x.Right ∧ ∀ y, Before i op x y → ∀ a, y.Admits op a → Keeps i Q (rest a) (y.done i op a)

theorem Keeps.right {p : Job α} (keeps : Keeps i Q p x) : x.Right := by
  cases p with
  | pure a => exact keeps.1
  | ask op rest => exact keeps.1

theorem Keeps.mono {p : Job α} (keeps : Keeps i Q p x) (weaker : ∀ a y, Q a y → R a y) :
    Keeps i R p x := by
  induction p generalizing x with
  | pure a => exact ⟨keeps.1, weaker a x keeps.2⟩
  | ask op rest ih =>
    exact ⟨keeps.1, fun y before a admits => ih a (keeps.2 y before a admits)⟩

theorem Keeps.bind {p : Job α} {next : α → Job β} {Q : β → Shift → Prop}
    (keeps : Keeps i (fun a => Keeps i Q (next a)) p x) : Keeps i Q (p >>= next) x := by
  induction p generalizing x with
  | pure a => exact keeps.2
  | ask op rest ih =>
    exact ⟨keeps.1, fun y before a admits => ih a (keeps.2 y before a admits)⟩

theorem keeps_desk {Q : Desk → Shift → Prop} (right : x.Right) (holds : Q x.desk x) :
    Keeps i Q Job.desk x := by
  refine ⟨right, ?_⟩
  rintro _ rfl _ rfl
  exact ⟨right, holds⟩

theorem keeps_setDesk {Q : Unit → Shift → Prop} {desk : Desk} (right : x.Right)
    (holds : Q () { x with desk }) : Keeps i Q (Job.setDesk desk) x := by
  refine ⟨right, ?_⟩
  rintro _ rfl _ -
  exact ⟨right, holds⟩

theorem keeps_log {Q : Unit → Shift → Prop} {level : Level} {text : String} (right : x.Right)
    (holds : Q () x) : Keeps i Q (Job.log level text) x := by
  refine ⟨right, ?_⟩
  rintro _ rfl _ -
  exact ⟨right, holds⟩

theorem keeps_hardware {call : HardwareCall} {Q : call.Answer → Shift → Prop} (right : x.Right)
    (holds : ∀ a, Q a x) : Keeps i Q (Job.hardware call) x := by
  refine ⟨right, ?_⟩
  rintro _ rfl a -
  exact ⟨right, holds a⟩

theorem keeps_await {w : Wait} {Q : w.Answer → Shift → Prop} (right : x.Right)
    (holds : ∀ y, Outside i x y → ∀ a, y.CanEnd w a →
      (y.done i (.await w) a).Right ∧ Q a (y.done i (.await w) a)) :
    Keeps i Q (Job.await w) x :=
  ⟨right, holds⟩

/-! ## Sessions -/

/-- The worker serves a session; `busy` says whether it can still lose the socket. -/
structure Serving (i : SlotId) (busy : Bool) (s : Session) (x : Shift) : Prop where
  ready : x.Ready i busy
  session : x.session = some s
  sound : s.Sound
  right : x.Right

/-- The worker is idle. -/
structure Idle (i : SlotId) (x : Shift) : Prop where
  ready : x.Ready i false
  right : x.Right

theorem Serving.outside (client : i ∈ clientSlots) (serving : x.Serving i busy s)
    (outside : Outside i x y) : y.Serving i busy s := by
  obtain ⟨session, reports⟩ := outside.kept
  refine ⟨outside.ready client serving.ready, session.trans serving.session, serving.sound, ?_⟩
  rw [Right, reports]
  exact serving.right

theorem Idle.outside (client : i ∈ clientSlots) (idle : x.Idle i) (outside : Outside i x y) :
    y.Idle i := by
  refine ⟨outside.ready client idle.ready, ?_⟩
  rw [Right, outside.kept.2]
  exact idle.right

theorem Serving.idle (serving : x.Serving i busy s) : x.Idle i :=
  ⟨Fits.idle serving.ready, serving.right⟩

/-- A session in which the socket can be lost may as well be one in which it cannot. -/
theorem Serving.done (serving : x.Serving i busy s) : x.Serving i false s :=
  ⟨Fits.idle serving.ready, serving.session, serving.sound, serving.right⟩

/-- A report with the handle of the session is queued. -/
theorem Serving.reported (serving : x.Serving i busy s) {e : TransportEvent}
    (tagged : e.source = some s.handle) : (x.reported e).Serving i busy s := by
  have slots : ((x.desk.post? e).getD x.desk).slots = x.desk.slots := by
    unfold Desk.post?
    split <;> rfl
  refine ⟨?_, serving.session, serving.sound, ?_⟩
  · have ready := serving.ready
    rw [Ready, slot] at ready ⊢
    rwa [Shift.reported, slots]
  · intro r among
    rcases List.mem_append.mp among with old | new
    · exact serving.right r old
    · rw [List.mem_singleton.mp new]
      exact ⟨s, serving.session, serving.sound, tagged⟩

/-- The worker gives its slot up. -/
theorem Serving.lost (serving : x.Serving i true s) {h : Handle}
    (named : x.desk.slots.slotOf? h = some i) :
    ({ x with desk := { x.desk with slots := x.desk.slots.changed (.lose i h) } } : Shift).Serving
      i false s := by
  refine ⟨?_, serving.session, serving.sound, serving.right⟩
  rw [Ready, slot, Slots.get_changed, Slots.slotChanged, if_pos ⟨rfl, named⟩]
  exact Fits.lost serving.ready

/-- Taking a command leaves the handle of a slot as it is. -/
theorem handleOf_taken (x : Shift) (i : SlotId) :
    (x.taken i i).desk.slots.handleOf i = x.desk.slots.handleOf i := by
  have kept := Slots.generation_changed x.desk.slots i (.take i)
  rw [if_neg (by exact id)] at kept
  exact congrArg (Slots.handleIn · i) kept

/-- An order that is taken up begins a sound session, if it is a connect. -/
theorem Ready.sound (ready : x.Ready i busy) {o : Order} {behind : List Order}
    (orders : x.orders = o :: behind) {address : Address} {port : Nat}
    (connects : o.command = .connect address port) :
    (⟨o, x.desk.slots.handleOf i⟩ : Session).Sound := by
  rw [Ready, orders] at ready
  exact ⟨⟨address, port, connects⟩,
    eq_comm.trans ((ready.aged o List.mem_cons_self).same_iff ready.young)⟩

/-- The command that is taken is the one of the order in front. -/
theorem Ready.taken (ready : x.Ready i busy) {c : Command} (ends : x.CanEnd (.command i) c)
    (still : Bool) (begins : still.toNat ≤ busy.toNat + 1) :
    (x.taken i i).Ready i still ∧ ∃ o behind, x.orders = o :: behind ∧ o.command = c := by
  obtain ⟨rest, queue⟩ : ∃ rest, (x.slot i).commands = c :: rest := by
    simp only [CanEnd, Slots.take?] at ends
    split at ends
    · cases ends
    · next d rest queue => exact ⟨rest, (Option.some.inj ends) ▸ queue⟩
  cases orders : x.orders with
  | nil =>
    have none := ready.queue
    simp [orders, queue] at none
  | cons o behind =>
    have fits := ready
    rw [Ready, orders] at fits
    have front := fits.queue
    rw [queue, List.map_cons] at front
    refine ⟨?_, o, behind, rfl, (List.cons.inj front).1⟩
    have taken := fits.taken begins
    rwa [Ready, slot, Shift.taken, Desk.onSlots, Slots.get_changed, Slots.slotChanged, if_pos rfl,
      if_pos rfl, orders]

/-- A session goes on when a command is taken. -/
theorem Serving.taken (serving : x.Serving i true s) {c : Command}
    (ends : x.CanEnd (.command i) c) : (x.taken i i).Serving i true s :=
  ⟨(serving.ready.taken ends true (by simp)).1, serving.session, serving.sound, serving.right⟩

/-! ## Programs of a session -/

variable (client : i ∈ clientSlots)
include client

theorem keeps_reportTo (serving : x.Serving i busy s) (owner : ConnId) (kind : EventKind) :
    Keeps i (fun _ => Serving i busy s) (Job.reportTo owner (some s.handle) kind) x := by
  unfold Job.reportTo
  split
  · exact keeps_log serving.right serving
  · refine keeps_await serving.right fun y outside _ _ => ?_
    have reported := (serving.outside client outside).reported
      (e := ⟨owner, some s.handle, kind⟩) rfl
    exact ⟨reported.right, reported⟩

theorem keeps_report (serving : x.Serving i busy s) (kind : EventKind) :
    Keeps i (fun _ => Serving i busy s) (Job.report i s.handle kind) x :=
  .bind (keeps_desk serving.right (keeps_reportTo client serving _ kind))

/-- A loss is the last that a session can have. -/
theorem keeps_reportLost (serving : x.Serving i true s) (cause : NetError) :
    Keeps i (fun _ => Serving i false s) (Job.reportLost i s.handle cause) x := by
  refine .bind (keeps_desk serving.right ?_)
  by_cases named : x.desk.slots.slotOf? s.handle = some i
  · have lost : x.desk.withSlots (·.lose i s.handle) =
        (some (x.slot i).owner,
          { x.desk with slots := x.desk.slots.changed (.lose i s.handle) }) := by
      simp [Desk.withSlots, Slots.changed, Slots.lose, named, slot]
    rw [lost]
    exact .bind (keeps_setDesk serving.right (keeps_reportTo client (serving.lost named) _ _))
  · have kept : x.desk.withSlots (·.lose i s.handle) = (none, x.desk) := by
      simp [Desk.withSlots, Slots.lose, named]
    rw [kept]
    exact keeps_log serving.right serving.done

theorem keeps_writeAll (serving : x.Serving i busy s) (socket most : Nat) (bytes : Bytes) :
    Keeps i (fun _ => Serving i busy s) (Job.writeAll socket most bytes) x := by
  induction most generalizing bytes x with
  | zero => exact ⟨serving.right, serving⟩
  | succ most ih =>
    unfold Job.writeAll
    split
    · exact ⟨serving.right, serving⟩
    · refine .bind (keeps_await serving.right fun y outside accepted _ => ?_)
      have serving := serving.outside client outside
      refine ⟨serving.right, ?_⟩
      cases accepted with
      | none => exact ⟨serving.right, serving⟩
      | some n => exact ih serving _

/-- What holds when a step of a session ends. -/
def Stepped (i : SlotId) (s : Session) (ending : Option SessionEnd) : Shift → Prop :=
  Serving i ending.isNone s

omit client in
/-- A step of a session that comes down to one program. -/
theorem Keeps.stepped {p : Job α} {ending : Option SessionEnd}
    (keeps : Keeps i (fun _ => Serving i ending.isNone s) p x) :
    Keeps i (Stepped i s) (p >>= fun _ => pure ending) x :=
  .bind (keeps.mono fun _ _ serving => ⟨serving.right, serving⟩)

theorem keeps_writeFor (serving : x.Serving i true s) (socket : Nat) (bytes : Bytes) :
    Keeps i (Stepped i s) (Job.writeFor i socket s.handle false bytes) x := by
  refine .bind ((keeps_writeAll client serving socket _ bytes).mono fun written y serving => ?_)
  cases written with
  | true => exact (keeps_report client serving _).stepped
  | false => exact .bind (keeps_log serving.right (keeps_reportLost client serving .reset).stepped)

theorem keeps_readFor (serving : x.Serving i true s) (arrived : Option Bytes) :
    Keeps i (Stepped i s) (Job.readFor i s.handle arrived) x := by
  match arrived with
  | some [] => exact (keeps_report client serving.done _).stepped
  | some (b :: bytes) => exact (keeps_report client serving _).stepped
  | none => exact .bind (keeps_log serving.right (keeps_reportLost client serving .reset).stepped)

theorem keeps_obey (serving : x.Serving i true s) (socket : Nat) (c : Command) :
    Keeps i (Stepped i s) (Job.obey i socket s.handle false c) x := by
  cases c with
  | write bytes => exact keeps_writeFor client serving socket bytes
  | close =>
    refine .bind (keeps_hardware serving.right fun _ => .bind ?_)
    exact keeps_hardware serving.right fun _ => ⟨serving.right, serving.done⟩
  | abort => exact .bind (keeps_hardware serving.right fun _ => ⟨serving.right, serving.done⟩)
  | connect address port => exact .bind (keeps_log serving.right ⟨serving.right, serving⟩)
  | listen port => exact .bind (keeps_log serving.right ⟨serving.right, serving⟩)

theorem keeps_exchange (serving : x.Serving i true s) (socket : Nat) :
    Keeps i (Stepped i s) (Job.exchange i socket s.handle false) x := by
  refine .bind (keeps_await serving.right fun y outside outcome ends => ?_)
  have serving := serving.outside client outside
  match outcome with
  | .inl arrived => exact ⟨serving.right, keeps_readFor client serving arrived⟩
  | .inr c => exact ⟨serving.right, keeps_obey client (serving.taken ends) socket c⟩

/-! ## Programs of a worker -/

omit client in
theorem keeps_discardSocket {Q : Unit → Shift → Prop} (right : x.Right) (holds : Q () x)
    (socket : Nat) : Keeps i Q (Job.discardSocket socket) x :=
  .bind (keeps_hardware right fun _ => .bind (keeps_hardware right fun _ =>
    keeps_hardware right fun _ => holds))

/-- Where the worker may stand when the work of a stage is done. -/
def Stands (i : SlotId) : Stage → Shift → Prop
  | .client j, x => j = i ∧ x.Idle i
  | .session j _ h, x => j = i ∧ ∃ s, s.handle = h ∧ x.Serving i true s
  | _, _ => False

omit client in
theorem keeps_finishSession (serving : x.Serving i busy s) (socket : Nat) :
    Keeps i (Stands i) (Job.finishSession i socket) x :=
  .bind (keeps_discardSocket serving.right (Q := fun _ => Keeps i (Stands i) (pure (.client i)))
    ⟨serving.right, rfl, serving.idle⟩ socket)

theorem keeps_beginSession (serving : x.Serving i true s)
    (present : x.desk.slots.handleOf i = s.handle) (address : Address) (port : Nat) :
    Keeps i (Stands i) (Job.beginSession i address port) x := by
  refine .bind (keeps_desk serving.right ?_)
  refine .bind (keeps_hardware serving.right fun socket => ?_)
  refine .bind (keeps_hardware serving.right fun _ => ?_)
  refine .bind (keeps_hardware serving.right fun _ => ?_)
  refine .bind (keeps_await serving.right fun y outside outcome ends => ?_)
  have serving := serving.outside client outside
  rw [present]
  match outcome with
  | .inl (.ok ()) =>
    refine ⟨serving.right, .bind ((keeps_report client serving _).mono fun _ z serving => ?_)⟩
    exact ⟨serving.right, rfl, s, rfl, serving⟩
  | .inl (.error fault) =>
    refine ⟨serving.right, .bind (keeps_log serving.right (.bind ?_))⟩
    exact (keeps_report client serving _).mono fun _ z serving => keeps_finishSession serving socket
  | .inr c =>
    have taken := serving.taken ends
    exact ⟨taken.right, .bind (keeps_log taken.right (keeps_finishSession taken socket))⟩

theorem keeps_awaitConnect (idle : x.Idle i) : Keeps i (Stands i) (Job.awaitConnect i) x := by
  refine .bind (keeps_await idle.right fun y outside c ends => ?_)
  have idle := idle.outside client outside
  obtain ⟨ready, o, behind, orders, command⟩ := idle.ready.taken ends true (by simp)
  have session : (y.done i (.await (.command i)) c).session =
      some ⟨o, y.desk.slots.handleOf i⟩ := by
    simp [Shift.done, session?, orders]
  have resting : Keeps i (Stands i) (pure (.client i)) (y.done i (.await (.command i)) c) :=
    ⟨idle.right, rfl, Fits.idle ready, idle.right⟩
  refine ⟨idle.right, ?_⟩
  cases c with
  | connect address port =>
    have serving : Serving i true ⟨o, y.desk.slots.handleOf i⟩ (y.done i (.await (.command i)) _) :=
      ⟨ready, session, idle.ready.sound orders command, idle.right⟩
    exact keeps_beginSession client serving (handleOf_taken y i) address port
  | close => exact resting
  | abort => exact resting
  | write bytes => exact .bind (keeps_log idle.right resting)
  | listen port => exact .bind (keeps_log idle.right resting)

theorem keeps_serveSession (serving : x.Serving i true s) (socket : Nat) :
    Keeps i (Stands i) (Job.serveSession i socket s.handle) x := by
  refine .bind ((keeps_exchange client serving socket).mono fun ending y stepped => ?_)
  cases ending with
  | none => exact ⟨stepped.right, rfl, s, rfl, stepped⟩
  | some ending => exact keeps_finishSession stepped socket

/-- The work of every stage of the worker ends with such a stage. -/
theorem Stands.keeps {stage : Stage} (stands : Stands i stage x) :
    Keeps i (Stands i) stage.work x := by
  cases stage with
  | client j =>
    obtain ⟨rfl, idle⟩ := stands
    exact keeps_awaitConnect client idle
  | session j socket h =>
    obtain ⟨rfl, s, rfl, serving⟩ := stands
    exact keeps_serveSession client serving socket
  | _ => exact stands.elim

end Shift

end MeterNode
