import MeterNode.Proofs.Schedule.Loans
import MeterNode.Proofs.Schedule.Lookups
import MeterNode.Proofs.Schedule.Ownership
import MeterNode.Proofs.Schedule.Windows

/-!
# The network is shut down

A tick is cut in two at the point where it may shut the network and the radio down.  Up to there it
is `Scheduler.approach`, which ends with the node at that point and says whether the radio goes off
(`Approach.off`), and from there on it is `Scheduler.depart` (`tick_eq`).

When the radio goes off, no batch is out.  Every entry had its turn, none said that it needs the
radio, and later turns do not touch it (`Turns.idle_all`).  So nobody owns a connection, and the
uploaders do not notice that all connections are ended under them.  The visitor of the server is
turned away, but the socket that the transport listens on stays: it was not lent to any connection,
so no call of the run gives it back (`Course.borrows`).
-/

namespace MeterNode

open Connection

/-- The socket that the transport listens on by a call. -/
def NetCall.listening? : NetCall.Done → Option Handle
  | ⟨.listen .., .ok handle⟩ => some handle
  | _ => none

/-- The transport listens on a socket. -/
def Trace.Listens (t : Trace Node) (handle : Handle) : Prop :=
  handle ∈ t.calls.filterMap NetCall.listening?

instance (t : Trace Node) (handle : Handle) : Decidable (t.Listens handle) :=
  inferInstanceAs (Decidable (handle ∈ t.calls.filterMap NetCall.listening?))

/-- The node in a tick, at the point where the radio goes off or not. -/
structure Approach where
  node : Scheduler
  nextDue : Instant
  /-- The processor runs at its default frequency. -/
  atDefault : Bool
  /-- The radio is up. -/
  up : Bool
  /-- The radio goes off. -/
  off : Bool

/-- The connection without its socket and its exchange. -/
def Connection.ended (c : Connection) : Connection := { c.released with state := .init }

theorem Registry.eachConnection_map {f : Connection → Act Connection}
    {g : Connection → Connection} {cs ds : List Connection} (hf : ∀ c d, (f c).Gives d → d = g c)
    (h : (eachConnection f cs).Gives ds) : ds = cs.map g := by
  induction cs generalizing ds with
  | nil => exact Act.gives_pure.1 h
  | cons c rest ih =>
    simp only [eachConnection, Act.gives_bind, Act.gives_pure] at h
    obtain ⟨d, hd, ds', hrest, rfl⟩ := h
    rw [hf c d hd, ih hrest, List.map_cons]

/-- All connections end, also those that hold no socket and have no exchange. -/
theorem Registry.releaseAll_gives {r r' : Registry} (h : r.releaseAll.Gives r') :
    r' = { r with connections := r.connections.map Connection.ended, requests := [] } := by
  simp only [releaseAll, Act.gives_bind, Act.gives_pure] at h
  obtain ⟨ds, heach, rfl⟩ := h
  rw [eachConnection_map (fun c d hd => ?_) heach]
  split at hd
  next => exact abandon_gives hd
  next hfresh =>
    obtain ⟨hhandle, hstate⟩ : c.handle = none ∧ c.state = .init := by simpa using hfresh
    rw [Act.gives_pure.1 hd]
    cases c
    cases hhandle
    cases hstate
    rfl

theorem RadioController.disable_off {r r' : RadioController} (h : r.disable.Gives r') :
    r'.initialized = false := by
  simp only [disable] at h
  split at h
  next hoff =>
    rw [Act.gives_pure.1 h]
    simpa using hoff
  next =>
    simp only [Act.gives_bind, Act.gives_pure] at h
    obtain ⟨_, -, _, -, _, -, _, -, _, -, rfl⟩ := h
    rfl

namespace Scheduler

variable {s s' : Scheduler} {due : Instant} {atDefault keep : Bool} {t : Trace Node} {a : Approach}

/-! ## A tick in two parts -/

/-- What is done while the radio is up.  The answer says whether the radio goes off. -/
def weigh (s : Scheduler) (keep statusTick : Bool) (due : Instant) : Act (Bool × Scheduler) := do
  s.radio.blink
  let s ← s.measureSupply statusTick
  let s ← if s.resyncDue then s.resyncTime else pure s
  return (!keep && s.mayRest due, s)

/-- Look after the radio, up to the point where it goes off.  The answer says whether it is up and
whether it goes off. -/
def attend (s : Scheduler) (keep atDefault statusTick : Bool) (due : Instant) :
    Act (Bool × Bool × Scheduler) := do
  if !atDefault then
    return (false, false, s)
  let (up, s) ← s.askRadio
  if up then
    return (true, ← s.weigh keep statusTick due)
  return (false, false, s)

/-- A tick up to the point where the radio goes off. -/
def approach (s : Scheduler) : Act Approach := do
  let now ← Act.now
  let s ← s.countTick
  let s ← s.serviceNetwork now
  let atDefault ← s.speed.isDefault
  let (keep, atDefault, s) ←
    serveEntries now (List.range s.entries.length) false atDefault s
  let s ← s.completeWindow now
  let nextDue := s.nextDue now
  let (up, off, node) ← s.attend keep atDefault s.isStatusTick nextDue
  return { node, nextDue, atDefault, up, off }

/-- Shut the network and the radio down if the radio goes off.  The answer says whether it is up. -/
def settle (up off : Bool) (s : Scheduler) : Act (Bool × Scheduler) := do
  if off then
    return (false, ← s.radioOff)
  return (up, s)

/-- A tick from the point on where the radio goes off. -/
def depart (a : Approach) : Act (TickReport × Scheduler) := do
  let (radioUp, s) ← settle a.up a.off a.node
  let (atDefault, s) ← s.lowerClock a.atDefault
  let s ← s.report a.nextDue radioUp
  return (⟨a.nextDue, radioUp, atDefault⟩, s)

theorem whileUp_eq {statusTick : Bool} : s.whileUp keep statusTick due = (do
    let (off, s) ← s.weigh keep statusTick due
    settle true off s) := by
  simp only [whileUp, weigh, bind_assoc]
  refine bind_congr fun _ => bind_congr fun s₁ => ?_
  split <;> simp only [bind_assoc, pure_bind, settle]

theorem tendRadio_eq {statusTick : Bool} : s.tendRadio keep atDefault statusTick due = (do
    let (up, off, s) ← s.attend keep atDefault statusTick due
    settle up off s) := by
  cases atDefault with
  | false => rfl
  | true =>
    simp only [tendRadio, attend, Bool.not_true, Bool.false_eq_true, if_false, bind_assoc]
    refine bind_congr fun asked => ?_
    cases asked.1 with
    | false => rfl
    | true => simp only [if_true, whileUp_eq, bind_assoc, pure_bind]

/-- Every tick is its approach and then its departure. -/
theorem tick_eq : s.tick = s.approach >>= depart := by
  simp only [tick, approach, bind_assoc]
  refine bind_congr fun now => bind_congr fun s₁ => bind_congr fun s₂ => bind_congr fun atDefault =>
    bind_congr fun served => bind_congr fun s₃ => ?_
  simp only [tendRadio_eq, bind_assoc, pure_bind, depart, report]
  refine bind_congr fun attended => bind_congr fun settled => bind_congr fun lowered => ?_
  split <;> rfl

/-! ## The approach -/

theorem weigh_gives {statusTick : Bool} {res : Bool × Scheduler}
    (h : (s.weigh keep statusTick due).Gives res) :
    (∃ supply time resyncDue, res.2 = { s with supply, time, resyncDue }) ∧
      (res.1 = true → keep = false) := by
  simp only [weigh, Act.gives_bind] at h
  obtain ⟨_, -, s₁, hmeasure, h⟩ := h
  obtain ⟨supply, rfl⟩ := measureSupply_gives hmeasure
  have hoff {b : Bool} (hb : (!keep && b) = true) : keep = false := by
    cases keep with
    | false => rfl
    | true => cases hb
  split at h
  next =>
    obtain ⟨s₂, hresync, h⟩ := Act.gives_bind.1 h
    obtain ⟨time, resyncDue, rfl⟩ := resyncTime_gives hresync
    rw [Act.gives_pure.1 h]
    exact ⟨⟨supply, time, resyncDue, rfl⟩, hoff⟩
  next =>
    rw [Act.gives_pure.1 h]
    exact ⟨⟨supply, s.time, s.resyncDue, rfl⟩, hoff⟩

theorem weigh_kinds {kinds : List Effect.Kind} {statusTick : Bool}
    (h : [.note, .time, .radio] ⊆ kinds) :
    Prog.Asks (Effect.Of kinds) (s.weigh keep statusTick due) := by
  obtain ⟨hnote, htime, hradio⟩ : .note ∈ kinds ∧ .time ∈ kinds ∧ .radio ∈ kinds := by simpa using h
  have hblink : Prog.Asks (Effect.Of kinds) s.radio.blink :=
    RadioController.blink_kinds (by simp [htime, hradio])
  have hresync {s : Scheduler} : Prog.Asks (Effect.Of kinds) s.resyncTime :=
    resyncTime_kinds (by simp [hnote, htime])
  simp only [weigh, Act.asks_bind, hblink, measureSupply_kinds h, true_and]
  rintro _ - s₁ -
  split <;> simp [hresync]

/-- Looking after the radio leaves the connections, the owners and the entries alone, and the radio
goes off only if no turn needed it. -/
theorem attend_gives {statusTick : Bool} {res : Bool × Bool × Scheduler}
    (h : (s.attend keep atDefault statusTick due).Gives res) :
    (∃ radio supply time resyncDue, res.2.2 = { s with radio, supply, time, resyncDue }) ∧
      (res.2.1 = true → keep = false) := by
  simp only [attend] at h
  split at h
  next =>
    rw [Act.gives_pure.1 h]
    exact ⟨⟨_, _, _, _, rfl⟩, nofun⟩
  next =>
    obtain ⟨⟨up, s₁⟩, hask, h⟩ := Act.gives_bind.1 h
    obtain ⟨radio, rfl⟩ : ∃ radio, s₁ = { s with radio } := askRadio_gives hask
    cases up with
    | false =>
      rw [Act.gives_pure.1 h]
      exact ⟨⟨_, _, _, _, rfl⟩, nofun⟩
    | true =>
      obtain ⟨weighed, hweigh, h⟩ := Act.gives_bind.1 h
      obtain ⟨⟨supply, time, resyncDue, hnode⟩, hoff⟩ := weigh_gives hweigh
      rw [Act.gives_pure.1 h]
      exact ⟨⟨radio, supply, time, resyncDue, hnode⟩, hoff⟩

theorem attend_kinds {kinds : List Effect.Kind} {statusTick : Bool}
    (h : [.note, .time, .link, .radio] ⊆ kinds) :
    Prog.Asks (Effect.Of kinds) (s.attend keep atDefault statusTick due) := by
  obtain ⟨hnote, htime, hlink, hradio⟩ : .note ∈ kinds ∧ .time ∈ kinds ∧ .link ∈ kinds ∧
    .radio ∈ kinds := by simpa using h
  simp only [attend]
  split
  next => exact Act.asks_pure
  next =>
    have hask : Prog.Asks (Effect.Of kinds) s.askRadio :=
      askRadio_kinds (by simp [hnote, htime, hlink])
    simp only [Act.asks_bind, hask, true_and]
    rintro ⟨up, s₁⟩ -
    simp only
    split <;> simp [weigh_kinds, hnote, htime, hradio]

/-- What is so at the point where the radio goes off. -/
structure Approached (s : Scheduler) (t : Trace Node) (a : Approach) : Prop where
  borrows : t.Borrows s.Holds a.node.Holds
  sound : a.node.Sound
  idle : a.off = true → a.node.Idle

theorem approach_ends (hreached : Reached s) (hmarked : s.Marked) (h : s.approach.Ends t a) :
    Approached s t a := by
  obtain ⟨t₀, now, u₀, h₀, k₀, rfl⟩ := Prog.ends_bind.1 h
  obtain ⟨t₁, s₁, u₁, h₁, k₁, rfl⟩ := Prog.ends_bind.1 k₀
  obtain ⟨t₂, s₂, u₂, h₂, k₂, rfl⟩ := Prog.ends_bind.1 k₁
  obtain ⟨t₃, atDefault, u₃, h₃, k₃, rfl⟩ := Prog.ends_bind.1 k₂
  obtain ⟨t₄, ⟨keep, atDefault₁, s₃⟩, u₄, h₄, k₄, rfl⟩ := Prog.ends_bind.1 k₃
  obtain ⟨t₅, s₄, u₅, h₅, k₅, rfl⟩ := Prog.ends_bind.1 k₄
  obtain ⟨⟨up, off, node⟩, h₆, rfl⟩ := Prog.ends_bind_pure.1 k₅
  obtain ⟨turns, hturns, rfl⟩ := serveEntries_ends.1 h₄
  have hmarked₂ : s₂.Marked := by
    obtain ⟨ticks, resyncDue, rfl⟩ := countTick_gives h₁.gives
    obtain ⟨_, _, registry, -, -, -, rfl⟩ := serviceNetwork_gives h₂.gives
    exact hmarked.mild ⟨rfl, rfl⟩
  -- the owners match the batches behind the window, and nothing changes either of them later
  have hreached₄ : Reached s₄ :=
    (((hreached.phase (.count h₁.gives)).phase (.network now h₂.gives)).serveEntries h₄.gives).phase
      (.window now h₅.gives)
  obtain ⟨⟨radio, supply, time, resyncDue, rfl⟩, hkeep⟩ :
    (∃ radio supply time resyncDue, node = { s₄ with radio, supply, time, resyncDue }) ∧
      (off = true → keep = false) := attend_gives h₆.gives
  have hborrows : Trace.Borrows (t₀ ++ (t₁ ++ (t₂ ++ (t₃ ++ (turns.flatten ++ (t₅ ++ u₅))))))
      s.Holds s₄.Holds := by
    have hnow : t₀.Borrows s.Holds s.Holds := Trace.borrows_rest (h₀.calls_eq_nil (by simp))
    have hcount : t₁.Borrows s.Holds s₁.Holds :=
      borrows_still (h₁.of (countTick_kinds (List.Subset.refl _))) (by decide)
        (countTick_still h₁.gives).registry
    have hclock : t₃.Borrows s₂.Holds s₂.Holds :=
      (h₃.of (SpeedController.isDefault_kinds (List.Subset.refl _))).borrows (by decide)
    have hwindow : t₅.Borrows s₃.Holds s₄.Holds :=
      borrows_still (h₅.of (completeWindow_kinds (List.Subset.refl _))) (by decide)
        (completeWindow_still h₅.gives).registry
    have hattend : u₅.Borrows s₄.Holds s₄.Holds :=
      (h₆.of (attend_kinds (List.Subset.refl _))).borrows (by decide)
    exact hnow.append (hcount.append ((serviceNetwork_borrows h₂).append (hclock.append
      (hturns.borrows.append (hwindow.append hattend)))))
  refine ⟨hborrows, ?_, fun hoff => ?_⟩
  · exact hreached₄.sound.calm ⟨id, rfl, rfl⟩
  · exact (completeWindow_passing h₅.gives).idle (hturns.idle_all hmarked₂ (hkeep hoff))

/-! ## The radio goes off -/

/-- A node with no batch out has no owners. -/
theorem Sound.exchanges_nil (h : s.Sound) (hidle : s.Idle) : s.exchanges = [] := by
  cases hx : s.exchanges with
  | nil => rfl
  | cons pair rest =>
    obtain ⟨c, i⟩ := pair
    have howner : s.exchanges.owner? c = some i := by simp [hx, Exchanges.owner?]
    obtain ⟨e, he, hbusy, -⟩ := (seats_getElem? s i c true).1 ((h.owners c i).1 howner)
    rw [hidle e (List.mem_of_getElem? he)] at hbusy
    cases hbusy

/-- The network, the send window and the radio are shut down. -/
structure Closed (s s' : Scheduler) : Prop where
  connections : s'.registry.connections = s.registry.connections.map Connection.ended
  requests : s'.registry.requests = []
  windowOpen : s'.windowOpen = false
  released : ∀ e ∈ s'.entries, e.held = false
  radio : s'.radio.initialized = false

theorem radioOff_closed (h : s.radioOff.Gives s') : Closed s s' := by
  obtain ⟨registry, radio, now, hrelease, hdisable, rfl⟩ := radioOff_gives h
  have hregistry := Registry.releaseAll_gives hrelease
  refine ⟨congrArg Registry.connections hregistry, congrArg Registry.requests hregistry, rfl, ?_,
    RadioController.disable_off hdisable⟩
  intro e he
  obtain ⟨e', -, rfl⟩ := List.mem_map.1 he
  rfl

/-! ## Runs -/

theorem depart_borrows {res : TickReport × Scheduler} (h : (depart a).Ends t res) :
    t.Borrows a.node.Holds res.2.Holds := by
  obtain ⟨t₁, ⟨up, s₁⟩, t₂, h₁, h₂, rfl⟩ := Prog.ends_bind.1 h
  obtain ⟨t₃, ⟨atDefault, s₂⟩, t₄, h₃, h₄, rfl⟩ := Prog.ends_bind.1 h₂
  obtain ⟨s₃, h₅, rfl⟩ := Prog.ends_bind_pure.1 h₄
  have hsettled : t₁.Borrows a.node.Holds s₁.Holds := by
    simp only [settle] at h₁
    split at h₁
    next =>
      obtain ⟨s₄, hoff, heq⟩ := Prog.ends_bind_pure.1 h₁
      cases heq
      exact radioOff_borrows hoff
    next =>
      obtain ⟨rfl, heq⟩ := Prog.ends_pure.1 h₁
      cases heq
      exact Trace.borrows_rest rfl
  obtain ⟨radio, speed, rfl⟩ : ∃ radio speed, s₂ = { s₁ with radio, speed } :=
    lowerClock_gives h₃.gives
  obtain ⟨speed', rfl, -⟩ := report_gives h₅.gives
  have hlower : t₃.Borrows s₁.Holds s₁.Holds :=
    (h₃.of (lowerClock_kinds (List.Subset.refl _))).borrows (by decide)
  have hreport : t₄.Borrows s₁.Holds s₁.Holds :=
    (h₅.of (report_kinds (List.Subset.refl _))).borrows (by decide)
  exact hsettled.append (hlower.append hreport)

variable {setup : NodeSetup} {logs : List TickLog}

/-- In every run, the connections hold and give back only sockets that were lent to them. -/
theorem Course.borrows (h : Course setup t logs s) : t.Borrows (fun _ => False) s.Holds := by
  induction h with
  | built hbuild => exact build_borrows hbuild
  | joined hbuild henable =>
    exact (build_borrows hbuild).append
      ((henable.of (RadioController.enable_kinds (List.Subset.refl _))).borrows (by decide))
  | start _ hstart ih => exact ih.append (start_borrows hstart)
  | tick hcourse hpassed ih =>
    have htick := hpassed.ends
    rw [tick_eq] at htick
    obtain ⟨t₁, a, t₂, happroach, hdepart, heq⟩ := Prog.ends_bind.1 htick
    rw [heq]
    exact ih.append ((approach_ends hcourse.reached hcourse.marked happroach).borrows.append
      (depart_borrows hdepart))

/-- Every tick of every run is its approach, which says whether the radio goes off, and then its
departure.  When the radio goes off, no entry has a batch out and no connection has an owner.
Behind that, all connections are in `Init` without a socket, no request waits, the window is closed,
no entry is held and the radio is off.  A socket that the transport listens on, and does not lend to
a connection as well, was neither closed nor aborted in the whole run. -/
theorem Course.clean_shutdown (h : Course setup t logs s) :
    s.tick = s.approach >>= depart ∧
    ∀ t₁ a, s.approach.Ends t₁ a → a.off = true →
      (∀ e ∈ a.node.entries, e.isBusy = false) ∧ a.node.exchanges = [] ∧
      ∀ t₂ s', a.node.radioOff.Ends t₂ s' →
        s'.registry.connections.map Connection.id = a.node.registry.connections.map Connection.id ∧
        (∀ c ∈ s'.registry.connections, c.state = .init ∧ c.handle = none) ∧
        s'.registry.requests = [] ∧ s'.windowOpen = false ∧ (∀ e ∈ s'.entries, e.held = false) ∧
        s'.radio.initialized = false ∧
        ∀ listener, Trace.Listens (t ++ (t₁ ++ t₂)) listener →
          ¬ Trace.Lends (t ++ (t₁ ++ t₂)) listener →
          ¬ Trace.Frees (t ++ (t₁ ++ t₂)) listener := by
  refine ⟨tick_eq, fun t₁ a happroach hoff => ?_⟩
  obtain ⟨hborrows, hsound, hidle⟩ := approach_ends h.reached h.marked happroach
  refine ⟨hidle hoff, hsound.exchanges_nil (hidle hoff), fun t₂ s' hradio => ?_⟩
  have hclosed := radioOff_closed hradio.gives
  refine ⟨?_, fun c hc => ?_, hclosed.requests, hclosed.windowOpen, hclosed.released, hclosed.radio,
    fun listener _ hunlent hfreed => ?_⟩
  · rw [hclosed.connections, List.map_map]
    exact List.map_congr_left fun c _ => released_id c
  · rw [hclosed.connections] at hc
    obtain ⟨d, -, rfl⟩ := List.mem_map.1 hc
    exact ⟨rfl, released_handle d⟩
  · have hrun := h.borrows.append (hborrows.append (radioOff_borrows hradio))
    exact (hrun.freed listener hfreed).elim False.elim hunlent

/-! ## On the bench -/

/-- The node `lone` with a status server. -/
def hosting : NodeSetup := { lone with serverPort := some 80 }

/-- The node has handed a batch to its collector. -/
def posted : Option Play :=
  play hosting (bench (.ok (.resolved ⟨192, 168, 1, 10⟩)))
    [id, fun w => { w with
      clock := 100000
      events := [⟨⟨0⟩, some ⟨1⟩, .connected (.ok ())⟩] }]

/-- The reply of the collector has arrived, and so has a visitor. -/
def visited (w : Bench.World) : Bench.World :=
  { w with
    clock := 200000
    events :=
      [⟨⟨0⟩, some ⟨1⟩, .received (Text.bytesOf "HTTP/1.1 200 OK\r\n\r\n")⟩,
        ⟨⟨1⟩, none, .accepted (.ok ⟨40⟩)⟩] }

/-- The radio goes off while a visitor is served: he is turned away, and the transport goes on
listening. -/
theorem visitor_turned_away :
    ∃ t logs s t₁ a t₂ s' listener, Course hosting t logs s ∧ s.approach.Ends t₁ a ∧ a.off = true ∧
      (a.node.registry.connections.any fun c => c.state = .server) = true ∧
      a.node.radioOff.Ends t₂ s' ∧
      (∀ c ∈ s'.registry.connections, c.state = .init ∧ c.handle = none) ∧
      Trace.Listens (t ++ (t₁ ++ t₂)) listener ∧ ¬ Trace.Frees (t ++ (t₁ ++ t₂)) listener := by
  obtain ⟨x, hx, hfacts⟩ := Option.any_eq_true _ _ |>.1 (show posted.any (fun x =>
    let (t₁, a, w) := traced (visited x.world) x.node.approach
    let (t₂, _) := traced w a.node.radioOff
    decide (a.off = true ∧ (a.node.registry.connections.any fun c => c.state = .server) = true ∧
      Trace.Listens (x.trace ++ (t₁ ++ t₂)) ⟨2⟩ ∧ ¬ Trace.Lends (x.trace ++ (t₁ ++ t₂)) ⟨2⟩)) = true
    by decide +kernel)
  obtain ⟨hoff, hserved, hlistens, hunlent⟩ := of_decide_eq_true hfacts
  obtain ⟨logs, hcourse, -⟩ := play_course hx
  have happroach := traced_ends (visited x.world) x.node.approach
  have hradio := traced_ends (traced (visited x.world) x.node.approach).2.2
    (traced (visited x.world) x.node.approach).2.1.node.radioOff
  obtain ⟨-, -, hclosed⟩ := hcourse.clean_shutdown.2 _ _ happroach hoff
  obtain ⟨-, hended, -, -, -, -, hkept⟩ := hclosed _ _ hradio
  exact ⟨_, logs, _, _, _, _, _, ⟨2⟩, hcourse, happroach, hoff, hserved, hradio, hended, hlistens,
    hkept _ hlistens hunlent⟩

end Scheduler

end MeterNode
