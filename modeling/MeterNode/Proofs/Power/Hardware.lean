import MeterNode.Bench.World
import MeterNode.Proofs.Observers
import MeterNode.Proofs.Power.Radio
import Mathlib.Data.List.Chain

/-!
# The radio as its calls leave it

The controller remembers whether the radio is powered and in which phase its link is.  What it
asked for tells the same story a second time: the switches of the radio that worked, the light, the
bus, and the link as it was last counted.  A `RadioUnit` keeps these four, and `RadioUnit.after` is
the observer that follows them.

`Driven` is what the memory of the controller and the unit have in common.  It survives every piece
of every operation, also where a radio was just powered up and its link is still off; that a link
is off only in a radio that is not powered (`Powered`) holds again at the end of the operation.
-/

namespace MeterNode

/-! ## The unit -/

/-- What is known of a radio from the calls that were made of it, and the link as it was last
counted. -/
structure RadioUnit where
  /-- The switches that worked so far, in order: on or off. -/
  switches : List Bool := []
  light : Bool := false
  busHeld : Bool := false
  linkUp : Bool := false

namespace RadioUnit

/-- A unit that was never switched is off. -/
def powered (u : RadioUnit) : Bool := u.switches.getLast?.getD false

/-- The radio was switched on and off in turn, and on first. -/
def Alternates (u : RadioUnit) : Prop := (false :: u.switches).IsChain (· ≠ ·)

/-- The unit after it was switched. -/
def switch (u : RadioUnit) (on : Bool) : RadioUnit := { u with switches := u.switches ++ [on] }

/-- The unit after an operation was answered. -/
def after (u : RadioUnit) : (op : Effect) → op.Answer → RadioUnit
  | .radio .powerUp, .ok () => u.switch true
  | .radio .powerDown, () => u.switch false
  | .radio (.light on), () => { u with light := on }
  | .radio .acquireBus, () => { u with busHeld := true }
  | .radio .releaseBus, () => { u with busHeld := false }
  | .count (.linkUp up), () => { u with linkUp := up }
  | _, _ => u

/-- The unit behind a trace. -/
abbrev behind (u : RadioUnit) (t : Trace Node) : RadioUnit := Observer.behind after u t

variable {u : RadioUnit} {t t₁ t₂ : Trace Node}

@[simp] theorem after_log {level : Level} {text : String} {done : Unit} :
    u.after (.log level text) done = u := rfl

@[simp] theorem after_now {at_ : Instant} : u.after .now at_ = u := rfl

@[simp] theorem after_status {status : LinkStatus} : u.after (.radio .status) status = u := rfl

@[simp] theorem after_count_linkUp {up : Bool} {done : Unit} :
    u.after (.count (.linkUp up)) done = { u with linkUp := up } := rfl

@[simp] theorem switch_powered {on : Bool} : (u.switch on).powered = on := by
  simp [switch, powered]

theorem alternates_switch {on : Bool} :
    (u.switch on).Alternates ↔ u.Alternates ∧ u.powered ≠ on := by
  have hswitches : (u.switch on).switches = u.switches ++ [on] := rfl
  rw [Alternates, hswitches, ← List.cons_append, List.isChain_append, List.getLast?_cons]
  simp [Alternates, powered]

theorem switches_prefix_after (u : RadioUnit) (op : Effect) (answer : op.Answer) :
    u.switches <+: (u.after op answer).switches := by
  unfold after
  split
  all_goals first
    | exact List.prefix_append _ _
    | exact List.prefix_rfl

/-- What was switched stays on record. -/
theorem switches_prefix_behind (u : RadioUnit) (t : Trace Node) :
    u.switches <+: (u.behind t).switches := by
  induction t generalizing u with
  | nil => exact List.prefix_rfl
  | cons step t ih => exact (switches_prefix_after u step.1 step.2).trans (ih _)

theorem Alternates.of_behind (h : (u.behind t).Alternates) : u.Alternates :=
  h.prefix ((List.prefix_cons_inj false).2 (switches_prefix_behind u t))

/-- A radio whose switches alternate is powered whenever it is powered down. -/
theorem Alternates.powered_before
    (h : (u.behind (t₁ ++ ⟨.radio .powerDown, ()⟩ :: t₂)).Alternates) :
    (u.behind t₁).powered = true := by
  rw [behind, Observer.behind_append, Observer.behind_cons] at h
  simpa using (alternates_switch.1 h.of_behind).2

/-- The link as it was last counted is the link that the counters show. -/
theorem behind_linkUp {start : Telemetry} (hstart : start.linkUp = u.linkUp) :
    (t.tallies.foldl Telemetry.record start).linkUp = (u.behind t).linkUp := by
  induction t generalizing u start with
  | nil => exact hstart
  | cons step t ih =>
    obtain ⟨op, answer⟩ := step
    cases op with
    | count tally =>
      refine @ih _ (start.record tally) ?_
      cases tally with
      | linkUp up => rfl
      | resync ok => cases ok <;> exact hstart
      | _ => exact hstart
    | radio call =>
      refine @ih _ start ?_
      cases call with
      | powerUp => cases answer <;> exact hstart
      | _ => exact hstart
    | _ => exact @ih _ start hstart

end RadioUnit

/-! ## The controller -/

namespace RadioController

variable {r r' : RadioController} {u : RadioUnit} {t : Trace Node}

/-- What the controller and the unit have in common between any two calls of the radio that switch
it. -/
structure Driven (r : RadioController) (u : RadioUnit) : Prop where
  alternates : u.Alternates
  powered : u.powered = r.initialized
  dark : u.light = false
  free : u.busHeld = false
  linkUp : u.linkUp = true ↔ r.phase = .up

/-- An event of the link is seen only by an observer that reads the log. -/
theorem note_leaves_of_misses {σ : Type} {o : Observer σ} {s : σ} {event : LinkEvent}
    (hlog : ∀ level text, o.Misses (.log level text)) :
    (r.note event).Leaves o s fun r' s' => r' = { r with link := r.link.step event } ∧ s' = s := by
  simp only [note]
  split
  next => simp [hlog _ _ s ()]
  next => simp

theorem note_leaves {event : LinkEvent} :
    (r.note event).Leaves RadioUnit.after u fun r' u' =>
      r' = { r with link := r.link.step event } ∧ u' = u :=
  note_leaves_of_misses fun _ _ _ _ => rfl

theorem disable_driven (h : Driven r u) : r.disable.Leaves RadioUnit.after u Driven := by
  simp only [disable]
  split
  next => exact Act.leaves_pure.2 h
  next hinit =>
    simp only [Act.leaves_bind, Act.leaves_pure, Act.leaves_log, Act.leaves_now, Act.leaves_radio,
      Act.leaves_count]
    refine fun now => note_leaves.imp ?_
    rintro _ u ⟨rfl, rfl⟩ -
    have hpowered : u.powered = true := by simpa [h.powered] using hinit
    have hphase : (r.link.step (.powerOff now)).phase = .off := by
      cases hphase : r.link.phase <;> simp [RadioLink.step, RadioLink.enter, hphase]
    exact {
      alternates := RadioUnit.alternates_switch.2 ⟨h.alternates, by simp [hpowered]⟩
      powered := RadioUnit.switch_powered
      dark := h.dark
      free := h.free
      linkUp := by simp [phase, hphase] }

theorem isConnected_driven (h : Driven r u) :
    r.isConnected.Leaves RadioUnit.after u fun res => Driven res.2 := by
  have hstatus : r.linkStatus.Leaves RadioUnit.after u fun _ u' => u' = u := by
    simp only [linkStatus]
    split <;> simp
  rw [isConnected, Act.leaves_bind]
  refine hstatus.imp ?_
  rintro status _ rfl
  rw [Act.leaves_bind, Act.leaves_log]
  split
  next hlost =>
    simp only [Act.leaves_bind, Act.leaves_pure, Act.leaves_log, Act.leaves_now, Act.leaves_count]
    refine fun now => note_leaves.imp ?_
    rintro _ u ⟨rfl, rfl⟩
    have hup : r.link.phase = .up := (show status ≠ .up ∧ r.phase = .up by simpa using hlost).2
    exact { h with linkUp := by simp [phase, RadioLink.step, RadioLink.enter, hup] }
  next => exact Act.leaves_pure.2 h

/-- A join leaves the light off. -/
theorem joinOnce_driven {attempt tries : Nat} (h : Driven r u) :
    (r.joinOnce attempt tries).Leaves RadioUnit.after u fun _ => Driven r := by
  simp only [joinOnce, Act.leaves_bind, Act.leaves_pure, Act.leaves_log, Act.leaves_count,
    Act.leaves_radio]
  exact fun _ _ _ => { h with dark := rfl }

theorem joinTries_driven {tries left : Nat} {cause : RadioError} (hphase : r.phase = .connecting)
    (h : Driven r u) :
    (joinTries tries left cause r).Leaves RadioUnit.after u fun res => Driven res.2 := by
  induction left generalizing r u cause with
  | zero =>
    simp only [joinTries, giveUp, Act.leaves_bind, Act.leaves_pure, Act.leaves_log,
      Act.leaves_count]
    exact disable_driven h
  | succ left ih =>
    rw [joinTries, Act.leaves_bind]
    refine (joinOnce_driven h).imp fun result u h => ?_
    cases result with
    | ok u =>
      simp only [Act.leaves_bind, Act.leaves_pure, Act.leaves_log, Act.leaves_now,
        Act.leaves_count, Act.leaves_radio]
      refine fun now => note_leaves.imp ?_
      rintro _ u ⟨rfl, rfl⟩ -
      have hconnecting : r.link.phase = .connecting := hphase
      exact { h with linkUp := by simp [phase, RadioLink.step, RadioLink.enter, hconnecting] }
    | error cause =>
      simp only [Act.leaves_bind, Act.leaves_log]
      refine note_leaves.imp ?_
      rintro r' u ⟨hr', rfl⟩
      have hstill : r'.phase = .connecting := by
        rw [phase] at hphase
        simp [hr', phase, RadioLink.step, hphase]
      have h' : Driven r' u := by
        rw [hr'] at hstill ⊢
        exact { h with linkUp := by rw [hstill, h.linkUp, hphase] }
      split
      next => exact (Act.leaves_bind.trans Act.leaves_pause).2 (ih hstill h')
      next => exact ih hstill h'

theorem powerUp_driven (h : Driven r u) :
    r.powerUp.Leaves RadioUnit.after u fun res => Driven res.2 := by
  simp only [powerUp]
  split
  next =>
    simp only [Act.leaves_bind, Act.leaves_pure, Act.leaves_log, Act.leaves_radio]
    exact fun _ => h
  next hinit =>
    simp only [Act.leaves_bind, Act.leaves_radio]
    intro result
    cases result with
    | ok done =>
      have hpowered : u.powered = false := by simpa [h.powered] using hinit
      refine Act.leaves_pure.2 ?_
      exact {
        alternates := RadioUnit.alternates_switch.2 ⟨h.alternates, by simp [hpowered]⟩
        powered := RadioUnit.switch_powered
        dark := h.dark
        free := h.free
        linkUp := h.linkUp }
    | error cause =>
      simp only [Act.leaves_bind, Act.leaves_pure, Act.leaves_log, Act.leaves_count]
      exact h

theorem enable_driven {retries : Nat} (hr : r.Powered) (h : Driven r u) :
    (r.enable retries).Leaves RadioUnit.after u fun res => Driven res.2 := by
  have halready : r.alreadyUp.Leaves RadioUnit.after u fun res => Driven res.2 := by
    simp only [alreadyUp]
    split
    next => exact isConnected_driven h
    next => exact Act.leaves_pure.2 h
  rw [enable, Act.leaves_bind]
  refine halready.gives.imp ?_
  rintro ⟨up, r₁⟩ u ⟨hgives, h₁⟩
  rcases alreadyUp_gives hr hgives with ⟨-, rfl⟩ | ⟨-, hnotup, rfl⟩
  · simpa using h₁
  · simp only [Bool.false_eq_true, if_false, Act.leaves_bind, Act.leaves_log]
    refine (powerUp_driven h₁).gives.imp ?_
    rintro ⟨powered, r₂⟩ u ⟨hgives, h₂⟩
    rcases powerUp_gives hgives with hon | ⟨-, hstill⟩
    · obtain ⟨rfl, rfl⟩ := Prod.mk.inj hon
      simp only [Bool.not_true, Bool.false_eq_true, if_false, Act.leaves_bind, Act.leaves_now]
      refine fun now => note_leaves.imp ?_
      rintro r' u ⟨hr', rfl⟩
      -- the link of a radio that was powered all along may be connecting already
      have hconnecting : r'.phase = .connecting := by
        cases hphase : r₁.link.phase with
        | off | connecting => simp [hr', phase, RadioLink.step, RadioLink.enter, hphase]
        | up => exact absurd hphase hnotup
      refine joinTries_driven hconnecting ?_
      have hdown : u.linkUp ≠ true := fun hup => hnotup (h₂.linkUp.1 hup)
      rw [hr'] at hconnecting ⊢
      exact { h₂ with linkUp := by simp [hconnecting, hdown] }
    · obtain ⟨rfl, rfl⟩ := Prod.mk.inj hstill
      simpa using h₂

theorem linkStatus_driven (h : Driven r u) :
    r.linkStatus.Leaves RadioUnit.after u fun _ => Driven r := by
  simp only [linkStatus]
  split
  next => exact Act.leaves_radio.2 fun _ => h
  next => exact Act.leaves_pure.2 h

theorem blink_driven (h : Driven r u) : r.blink.Leaves RadioUnit.after u fun _ => Driven r := by
  simp only [blink]
  split
  next =>
    simp only [Act.leaves_bind, Act.leaves_pause, Act.leaves_radio]
    exact fun _ _ => { h with dark := rfl }
  next => exact Act.leaves_pure.2 h

theorem measure_driven {utcMs : Nat} (h : Driven r u) :
    (r.measure utcMs).Leaves RadioUnit.after u fun _ => Driven r := by
  simp only [measure]
  split
  next => exact Act.leaves_pure.2 h
  next =>
    simp only [Act.leaves_bind, Act.leaves_radio]
    intro level
    cases level with
    | none => exact Act.leaves_pure.2 h
    | some level =>
      simp only [Act.leaves_bind, Act.leaves_pure, Act.leaves_count]
      exact h

theorem withBus_driven {α : Type} {body : Act α}
    (hbody : Prog.Asks (Observer.Misses RadioUnit.after) body) (h : Driven r u) :
    (r.withBus body).Leaves RadioUnit.after u fun _ => Driven r := by
  simp only [withBus]
  split
  next =>
    simp only [Act.leaves_bind, Act.leaves_pure, Act.leaves_radio]
    refine fun _ => (Act.leaves_misses hbody).imp ?_
    rintro a _ rfl
    exact fun _ => { h with free := rfl }
  next =>
    refine (Act.leaves_misses hbody).imp ?_
    rintro a _ rfl
    exact h

/-! ## Runs -/

/-- What may be asked of the controller. -/
inductive Operation where
  | enable (retries : Nat)
  | disable
  | isConnected
  | linkStatus
  | blink
  | measure (utcMs : Nat)
  /-- Something else is done while the bus is held. -/
  | withBus (body : Act Unit) (apart : Prog.Asks (Observer.Misses RadioUnit.after) body)

/-- The controller after an operation; what the operation is answered is left out. -/
def Operation.act (r : RadioController) : Operation → Act RadioController
  | enable retries => Prod.snd <$> r.enable retries
  | disable => r.disable
  | isConnected => Prod.snd <$> r.isConnected
  | linkStatus => (fun _ => r) <$> r.linkStatus
  | blink => (fun _ => r) <$> r.blink
  | measure utcMs => (fun _ => r) <$> r.measure utcMs
  | withBus body _ => (fun _ => r) <$> r.withBus body

/-- The controllers that operations lead to from a radio that was never switched, with everything
that was asked for on the way. -/
inductive Reached (policy : RadioPolicy) : Trace Node → RadioController → Prop where
  | new {t : Trace Node} {r : RadioController} :
      (RadioController.new policy).Ends t r → Reached policy t r
  | act {t t' : Trace Node} {r r' : RadioController} (op : Operation) :
      Reached policy t r → (op.act r).Ends t' r' → Reached policy (t ++ t') r'

variable {policy : RadioPolicy}

theorem Operation.act_driven (op : Operation) (hr : r.Powered) (h : Driven r u) :
    (op.act r).Leaves RadioUnit.after u Driven := by
  cases op with
  | enable retries => exact Act.leaves_map.2 (enable_driven hr h)
  | disable => exact disable_driven h
  | isConnected => exact Act.leaves_map.2 (isConnected_driven h)
  | linkStatus => exact Act.leaves_map.2 (linkStatus_driven h)
  | blink => exact Act.leaves_map.2 (blink_driven h)
  | measure utcMs => exact Act.leaves_map.2 (measure_driven h)
  | withBus body apart => exact Act.leaves_map.2 (withBus_driven apart h)

theorem Operation.act_powered (op : Operation) (hr : r.Powered) (h : (op.act r).Gives r') :
    r'.Powered := by
  cases op with
  | enable retries =>
    obtain ⟨res, hres, rfl⟩ := Act.gives_map.1 h
    exact (enable_raised hr hres).powered
  | disable => exact (disable_raised hr h).powered
  | isConnected =>
    obtain ⟨res, ⟨t, hres⟩, rfl⟩ := Act.gives_map.1 h
    exact (isConnected_asked hr hres).powered hr
  | linkStatus | blink | measure | withBus =>
    obtain ⟨_, -, rfl⟩ := Act.gives_map.1 h
    exact hr

/-- A new controller knows a radio that was never switched. -/
theorem new_driven :
    (RadioController.new policy).Leaves RadioUnit.after {} fun r u => r.Powered ∧ Driven r u := by
  simp only [new, Act.leaves_bind, Act.leaves_now, Act.leaves_pure]
  intro now
  refine ⟨by simp [Powered, phase], ?_⟩
  exact {
    alternates := .singleton false
    powered := rfl
    dark := rfl
    free := rfl
    linkUp := by simp [phase] }

theorem Reached.driven (h : Reached policy t r) :
    r.Powered ∧ Driven r (RadioUnit.behind {} t) := by
  induction h with
  | new hnew => exact new_driven _ _ hnew
  | act op _ hact ih =>
    rw [RadioUnit.behind, Observer.behind_append]
    exact ⟨op.act_powered ih.1 hact.gives, op.act_driven ih.1 ih.2 _ _ hact⟩

/-- Between operations, the controller, the counters and the radio agree: the radio is powered
exactly while the link is not off, and counted as connected exactly while the link is up.  The radio
was switched on and off in turn, beginning with on, and was powered whenever it was powered down;
the light is off and the bus is free.  Bringing the link up is answered with whether it is up, and
if not, the radio is off. -/
theorem Reached.agrees (h : Reached policy t r) :
    (r.initialized = true ↔ r.phase ≠ .off) ∧
    (∀ start : Telemetry, start.linkUp = false →
      ((t.tallies.foldl Telemetry.record start).linkUp = true ↔ r.phase = .up)) ∧
    (RadioUnit.behind {} t).Alternates ∧
    (RadioUnit.behind {} t).powered = r.initialized ∧
    (∀ t₁ t₂, t = t₁ ++ ⟨.radio .powerDown, ()⟩ :: t₂ →
      (RadioUnit.behind {} t₁).powered = true) ∧
    (RadioUnit.behind {} t).light = false ∧
    (RadioUnit.behind {} t).busHeld = false ∧
    ∀ retries t' up r', (r.enable retries).Ends t' (up, r') →
      (up = true → r'.initialized = true ∧ r'.phase = .up) ∧
      (up = false → r'.initialized = false ∧ r'.phase = .off) := by
  obtain ⟨hpowered, hdriven⟩ := h.driven
  refine ⟨hpowered, fun start hstart => ?_, hdriven.alternates, hdriven.powered, ?_, hdriven.dark,
    hdriven.free, fun retries t' up r' henable => ?_⟩
  · rw [RadioUnit.behind_linkUp (u := {}) hstart]
    exact hdriven.linkUp
  · rintro t₁ t₂ rfl
    exact hdriven.alternates.powered_before
  · have hraised : Raised up r' := enable_raised hpowered henable.gives
    constructor <;> rintro rfl <;> exact hraised

/-! ## On the bench -/

/-- A controller on a bench, with everything it asked for so far. -/
structure Play where
  trace : Trace Node
  controller : RadioController
  world : Bench.World

/-- Ask something of the controller, after something has happened to the bench. -/
def Play.next (x : Play) (step : (Bench.World → Bench.World) × Operation) : Play :=
  let w := step.1 x.world
  let act := step.2.act x.controller
  let (controller, world) := w.run act
  ⟨x.trace ++ act.transcript (fun op w => w.answer op) w, controller, world⟩

/-- A new controller that is asked some things. -/
def play (policy : RadioPolicy) (w : Bench.World)
    (steps : List ((Bench.World → Bench.World) × Operation)) : Play :=
  let new := RadioController.new policy
  let (controller, world) := w.run new
  steps.foldl Play.next ⟨new.transcript (fun op w => w.answer op) w, controller, world⟩

theorem play_reached (w : Bench.World) (steps : List ((Bench.World → Bench.World) × Operation)) :
    Reached policy (play policy w steps).trace (play policy w steps).controller := by
  have hfold : ∀ x : Play, Reached policy x.trace x.controller →
      Reached policy (steps.foldl Play.next x).trace (steps.foldl Play.next x).controller := by
    induction steps with
    | nil => exact fun x h => h
    | cons step steps ih =>
      exact fun x h => ih (x.next step) (h.act step.2 (Prog.run_ends _ _ _))
  have hnew : (RadioController.new policy).Ends _ _ :=
    Prog.run_ends (fun op w => Bench.World.answer w op) _ w
  exact hfold _ (.new hnew)

/-- The link comes up at the second join, is lost, and comes up again; then the radio is powered
down, and the next join fails. -/
def lostAndRejoined : Play :=
  play {} { radio := { joins := [some .timeout, none, none] } }
    [(id, .enable 0), (fun w => { w with radio := { w.radio with status := .noIp } }, .isConnected),
      (id, .blink), (id, .enable 1), (id, .disable), (id, .enable 1)]

theorem lostAndRejoined_agrees :
    Reached {} lostAndRejoined.trace lostAndRejoined.controller ∧
      (RadioUnit.behind {} lostAndRejoined.trace).switches = [true, false, true, false] ∧
      (RadioUnit.behind {} lostAndRejoined.trace).Alternates ∧
      lostAndRejoined.controller.initialized = false :=
  have h := play_reached _ _
  ⟨h, by decide +kernel, (Reached.agrees h).2.2.1, by decide +kernel⟩

end RadioController

end MeterNode
