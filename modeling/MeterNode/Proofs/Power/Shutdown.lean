import MeterNode.Proofs.Power.Saving

/-!
# Shutting the radio down

A turn asks to keep the radio only for an entry that has a batch out or samples to send, and that
entry still has them at the end of the tick (`Turns.needs`).  So behind a tick that leaves all
entries drained, no turn asked, and the radio goes off if there is time to rest.  What is left of it
is a link that was lost: the question for the link is answered with no, and a tick that finds the
link down takes the radio for off (`Course.powered_at_rest_iff`).
-/

namespace MeterNode

namespace Scheduler

variable {s s' : Scheduler} {index : Nat} {now : Instant} {atDefault keep : Bool}
  {t t' : Trace Node} {p p' : Pace}

/-- No entry has a batch out or holds samples. -/
def Drained (s : Scheduler) : Prop :=
  ∀ e ∈ s.entries, e.isBusy = false ∧ ∀ c ∈ e.channels, c.isEmpty = true

instance (s : Scheduler) : Decidable s.Drained :=
  inferInstanceAs (Decidable (∀ e ∈ s.entries,
    e.isBusy = false ∧ ∀ c ∈ e.channels, c.isEmpty = true))

theorem drained_closeWindow : (s.closeWindow now).Drained ↔ s.Drained := by
  rw [Drained, closeWindow, List.forall_mem_map]
  rfl

theorem Drained.needsRadio (h : s.Drained) (i : Nat) : s.needsRadio i = false := by
  rw [Scheduler.needsRadio]
  cases he : s.entries[i]? with
  | none => rfl
  | some e =>
    obtain ⟨hidle, hempty⟩ := h e (List.mem_of_getElem? he)
    have hready : e.readyToSend = false := by
      rw [Entry.readyToSend, Uploader.ready, List.any_eq_false]
      intro c hc
      simp [hempty c hc]
    simp [hidle, Entry.sendPending, hready]

/-- A turn asks to keep the radio only for an entry that needs it. -/
theorem turn_needs {res : Bool × Bool × Scheduler} (h : (s.turn index now atDefault).Ends t res)
    (hneeds : res.1 = true) : res.2.2.needsRadio index = true := by
  obtain ⟨t₁, ⟨atDefault', s₁⟩, t₂, -, hsend, rfl⟩ := Prog.ends_bind.1 h
  cases sendIfReady_sent hsend with
  | nothing | deferred => cases hneeds
  | goesOn | begun => exact hneeds

theorem Turns.needs {indices : List Nat} {ts : List (Trace Node)} {res : Bool × Bool × Scheduler}
    (h : Turns now indices keep atDefault s ts res) (hmarked : s.Marked)
    (hdistinct : indices.Nodup) (hkeep : res.1 = true) :
    keep = true ∨ ∃ i, res.2.2.needsRadio i = true := by
  induction h with
  | nil => exact Or.inl hkeep
  | @cons index rest keep atDefault needs atDefault' s s' t ts res hturn hrest ih =>
    obtain ⟨hfresh, hdistinct⟩ := List.nodup_cons.1 hdistinct
    have hmarked' := (turn_ends_turn hmarked hturn).marked hmarked
    rcases ih hmarked' hdistinct hkeep with hkept | hlater
    · rcases (Bool.or_eq_true ..).mp hkept with hkept | hneeds
      · exact Or.inl hkept
      · refine Or.inr ⟨index, ?_⟩
        rw [needsRadio, hrest.others hmarked' hfresh]
        exact turn_needs hturn hneeds
    · exact Or.inr hlater

/-! ## Behind the turns -/

/-- Looking after the radio leaves the samples alone. -/
theorem tendRadio_drained {statusTick : Bool} {due : Instant} {res : Bool × Scheduler}
    (h : (s.tendRadio keep atDefault statusTick due).Gives res) :
    res.2.policy = s.policy ∧ (res.2.Drained ↔ s.Drained) := by
  obtain ⟨radio, hres | hup⟩ := tendRadio_gives h
  · rw [hres]
    exact ⟨rfl, Iff.rfl⟩
  · obtain ⟨supply, time, resyncDue, ⟨rfl, -⟩ | ⟨-, -, -, hoff⟩⟩ := whileUp_gives hup
    · exact ⟨rfl, Iff.rfl⟩
    · obtain ⟨registry, radio', at_, -, -, hs'⟩ := radioOff_gives hoff
      rw [hs', drained_closeWindow]
      exact ⟨rfl, Iff.rfl⟩

/-- If no turn asked to keep the radio and there is time to rest, the link is not up. -/
theorem tendRadio_down {statusTick : Bool} {due : Instant} {res : Bool × Scheduler}
    (h : (s.tendRadio false atDefault statusTick due).Ends t res) (hr : s.radio.Powered)
    (hslow : atDefault = false → s.radio.phase ≠ .up) (hrest : s.mayRest due = true) :
    res.2.radio.phase ≠ .up := by
  cases atDefault with
  | false =>
    obtain ⟨-, rfl⟩ := Prog.ends_pure.1 h
    exact hslow rfl
  | true =>
    obtain ⟨t₁, ⟨up, s₁⟩, t₂, hask, hend, rfl⟩ := Prog.ends_bind.1 h
    obtain ⟨radio, hasked, rfl⟩ : ∃ radio, s.radio.Asked t₁ (up, radio) ∧ s₁ = { s with radio } :=
      askRadio_asked hr hask
    cases up with
    | false =>
      obtain ⟨-, rfl⟩ := Prog.ends_pure.1 hend
      exact hasked.down hr
    | true =>
      obtain ⟨-, ⟨-, hkept⟩ | hoff⟩ := whileUp_devices (hasked.powered hr) hend.gives
      · have hsame : ({ s with radio } : Scheduler).mayRest due = s.mayRest due := rfl
        rw [hsame, hrest] at hkept
        cases hkept
      · rw [hoff.2]
        decide

theorem lowerClock_down {res : Bool × Scheduler} (h : (s.lowerClock atDefault).Ends t res)
    (hr : s.radio.Powered) (hdown : s.radio.phase ≠ .up) : res.2.radio.phase ≠ .up := by
  cases atDefault with
  | false =>
    obtain ⟨-, rfl⟩ := Prog.ends_pure.1 h
    exact hdown
  | true =>
    obtain ⟨t₁, ⟨up, s₁⟩, t₂, hask, hend, rfl⟩ := Prog.ends_bind.1 h
    obtain ⟨radio, hasked, rfl⟩ : ∃ radio, s.radio.Asked t₁ (up, radio) ∧ s₁ = { s with radio } :=
      askRadio_asked hr hask
    simp only at hend
    split at hend
    next =>
      obtain ⟨-, rfl⟩ := Prog.ends_pure.1 hend
      exact hasked.phase_ne_up hdown
    next =>
      obtain ⟨t₃, at_, t₄, -, hset, rfl⟩ := Prog.ends_bind.1 hend
      obtain ⟨t₅, ⟨low, speed⟩, t₆, -, hlast, rfl⟩ := Prog.ends_bind.1 hset
      obtain ⟨-, rfl⟩ := Prog.ends_pure.1 hlast
      exact hasked.phase_ne_up hdown

/-! ## Ticks -/

/-- A tick that leaves the entries drained and has time to rest leaves no link up, if the processor
takes every frequency. -/
theorem Passed.down {turns : List (Trace Node)} {res : TickReport × Scheduler}
    (h : Passed s now turns t' res) (hfit : Fit t p atDefault s) (hp : p.follow t' = some p')
    (hrefused : p.refused = false) (hobeyed : t'.Obeyed) (hmarked : s.Marked)
    (hdrained : res.2.Drained) (hrest : res.2.mayRest res.1.nextDue = true) :
    res.2.radio.phase ≠ .up := by
  cases h with
  | @intro s₁ s₂ s₃ s₄ s₅ s₆ s₇ _ atDefault₁ _ keep _ tcount tnetwork tclock twindow tradio tlower
      treport _ hcount hnetwork hclock hturns hwindow hradio hlower hreport =>
    simp only [← List.append_assoc] at hp hobeyed
    obtain ⟨p₃, hq₃, -⟩ := Pace.follow_append.1 hp
    obtain ⟨p₂, hq₂, -⟩ := Pace.follow_append.1 hq₃
    obtain ⟨p₁, hp₁, hp₂⟩ := Pace.follow_append.1 hq₂
    have hserved := hfit.served hcount hnetwork hclock hturns hwindow hp₁
    have htended := hserved.tendRadio hradio hp₂
    have hwilling : p₁.refused = false := by
      refine Pace.follow_obeyed ?_ hrefused hp₁
      simp only [Trace.obeyed_append] at hobeyed ⊢
      exact hobeyed.1.1.1
    obtain ⟨radio, speed, rfl⟩ : ∃ radio speed, s₆ = { s₅ with radio, speed } :=
      lowerClock_gives hlower.gives
    obtain ⟨speed', rfl, -⟩ := report_gives hreport.gives
    obtain ⟨hpolicy, hsamples⟩ : s₅.policy = s₄.policy ∧ (s₅.Drained ↔ s₄.Drained) :=
      tendRadio_drained hradio.gives
    have hdrained₄ : s₄.Drained := hsamples.1 hdrained
    have hdrained₃ : s₃.Drained := by
      rcases completeWindow_gives hwindow.gives with rfl | ⟨-, rfl, -⟩
      · exact hdrained₄
      · exact drained_closeWindow.1 hdrained₄
    have hmarked₂ : s₂.Marked := by
      obtain ⟨ticks, resyncDue, rfl⟩ := countTick_gives hcount.gives
      obtain ⟨_, _, registry, -, -, -, rfl⟩ := serviceNetwork_gives hnetwork.gives
      exact hmarked.mild ⟨rfl, rfl⟩
    have hunneeded : keep = false := by
      refine Bool.eq_false_iff.2 fun hkeep => ?_
      rcases hturns.needs hmarked₂ List.nodup_range hkeep with hfalse | ⟨i, hneeds⟩
      · cases hfalse
      · rw [hdrained₃.needsRadio i] at hneeds
        cases hneeds
    subst hunneeded
    have hrest₄ : s₄.mayRest (s₄.nextDue now) = true := by
      rw [mayRest, ← hpolicy]
      exact hrest
    have hslow : atDefault₁ = false → s₄.radio.phase ≠ .up := fun hslow hphase => by
      have := hserved.slow hslow hphase
      rw [hwilling] at this
      cases this
    exact lowerClock_down hlower htended.powered
      (tendRadio_down hradio hserved.powered hslow hrest₄)

/-! ## Runs -/

variable {setup : NodeSetup} {logs : List TickLog}

/-- Behind every tick of every run on a processor that takes every frequency: if no entry has a
batch out or holds samples, and no read is due soon or uploads have an interval, then the radio is
off unless its link was lost.  In particular the radio is off if it never answered a question for
its link with anything but up. -/
theorem Course.powered_at_rest_iff {mhz : Nat} {res : TickReport × Scheduler}
    (h : Course setup t logs s) (htick : s.tick.Ends t' res)
    (hp : (Pace.mk mhz false).follow (t ++ t') = some p)
    (hobeyed : Trace.Obeyed (t ++ t')) (hdrained : res.2.Drained)
    (hrest : Instant.ofSeconds res.2.policy.radioOffHorizonS < res.1.nextDue ∨
      0 < res.2.policy.sendIntervalS) :
    (res.2.radio.initialized = true ↔ res.2.radio.phase = .connecting) ∧
    (Trace.LinkHeld (t ++ t') → res.2.radio.initialized = false) := by
  obtain ⟨now, turns, t₁, rfl, hpassed⟩ := tick_passed htick
  obtain ⟨p₁, hp₁, hp₂⟩ := Pace.follow_append.1 hp
  obtain ⟨hobeyed₁, hobeyed₂⟩ := Trace.obeyed_append.1 hobeyed
  obtain ⟨atDefault, hfit⟩ := h.fit hp₁
  obtain ⟨atDefault', hfit'⟩ := (h.tick hpassed).fit hp
  have hdown : res.2.radio.phase ≠ .up :=
    hpassed.down hfit hp₂ (Pace.follow_obeyed hobeyed₁ rfl hp₁)
      (List.forall_mem_cons.1 hobeyed₂).2 h.marked hdrained (by simpa [mayRest] using hrest)
  have hexact : res.2.radio.initialized = true ↔ res.2.radio.phase = .connecting := by
    refine Iff.trans hfit'.powered ?_
    cases hphase : res.2.radio.phase with
    | off | connecting => simp
    | up => exact absurd hphase hdown
  exact ⟨hexact, fun hheld => Bool.eq_false_iff.2 fun hinit =>
    hfit'.held hheld (hexact.1 hinit)⟩

/-! ## On the bench -/

/-- The link is up when the reply arrives: the node is at rest with its radio off. -/
theorem off_at_rest :
    ∃ t logs s t' res p, Course lone t logs s ∧ s.tick.Ends t' res ∧
      (Pace.mk 240 false).follow (t ++ t') = some p ∧ Trace.Obeyed (t ++ t') ∧ res.2.Drained ∧
      Instant.ofSeconds res.2.policy.radioOffHorizonS < res.1.nextDue ∧
      res.2.radio.initialized = false := by
  obtain ⟨x, hx, hfacts⟩ := Option.any_eq_true _ _ |>.1 (show handed.any (fun x =>
    let y := x.tick (replied .up)
    decide ((Pace.mk 240 false).follow y.trace = some ⟨80, false⟩ ∧ Trace.Obeyed y.trace ∧
      y.node.Drained ∧
      (∀ r ∈ y.report, Instant.ofSeconds y.node.policy.radioOffHorizonS < r.nextDue) ∧
      Trace.LinkHeld y.trace)) = true by decide +kernel)
  obtain ⟨logs, t', res, hcourse, htick, hy⟩ := play_tick hx (replied .up)
  rw [hy] at hfacts
  obtain ⟨hp, hobeyed, hdrained, hrest, hheld⟩ := of_decide_eq_true hfacts
  have hdue := hrest res.1 rfl
  exact ⟨_, logs, _, t', res, _, hcourse, htick, hp, hobeyed, hdrained, hdue,
    (hcourse.powered_at_rest_iff htick hp hobeyed hdrained (Or.inl hdue)).2 hheld⟩

/-- The link is lost when the reply arrives: the node is at rest with its radio on. -/
theorem lost_at_rest :
    ∃ t logs s t' res p, Course lone t logs s ∧ s.tick.Ends t' res ∧
      (Pace.mk 240 false).follow (t ++ t') = some p ∧ Trace.Obeyed (t ++ t') ∧ res.2.Drained ∧
      Instant.ofSeconds res.2.policy.radioOffHorizonS < res.1.nextDue ∧
      res.2.radio.initialized = true := by
  obtain ⟨x, hx, hfacts⟩ := Option.any_eq_true _ _ |>.1 (show handed.any (fun x =>
    let y := x.tick (replied .down)
    decide ((Pace.mk 240 false).follow y.trace = some ⟨80, false⟩ ∧ Trace.Obeyed y.trace ∧
      y.node.Drained ∧
      (∀ r ∈ y.report, Instant.ofSeconds y.node.policy.radioOffHorizonS < r.nextDue) ∧
      y.node.radio.initialized = true)) = true by decide +kernel)
  obtain ⟨logs, t', res, hcourse, htick, hy⟩ := play_tick hx (replied .down)
  rw [hy] at hfacts
  obtain ⟨hp, hobeyed, hdrained, hrest, hinit⟩ := of_decide_eq_true hfacts
  exact ⟨_, logs, _, t', res, _, hcourse, htick, hp, hobeyed, hdrained, hrest res.1 rfl, hinit⟩

end Scheduler

end MeterNode
