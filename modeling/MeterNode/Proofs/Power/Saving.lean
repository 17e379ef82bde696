import MeterNode.Proofs.Power.Default
import MeterNode.Proofs.Power.Radio
import MeterNode.Proofs.Schedule.Lookups
import MeterNode.Proofs.Schedule.Windows

/-!
# Saving power

`Scheduler.Fit` relates the radio and the processor, and every phase of a tick keeps it.  The
processor is slowed down only behind a question for the link that was not answered with up, and the
link is brought up only behind a change to the default frequency.  So while the processor is slow,
the link is not up, unless the processor has refused that change.

The two policies are read off it.

* While the processor is slow, the radio is off, unless the link was lost or the processor has
  refused (`Course.powered_while_slow_iff`).
* If nothing needs the radio at the end of a tick, the radio is off, unless the link was lost
  (`Course.powered_at_rest_iff`).

A lost link is the exception in both, because both decisions look at the link and not at the power:
a radio that looks for its network again is neither shut down nor kept from a slow processor.
-/

namespace MeterNode

open MeterNode.Text

namespace Scheduler

variable {s s₁ s₂ s' : Scheduler} {index : Nat} {now : Instant} {atDefault keep : Bool}
  {t t' : Trace Node} {p p' : Pace} {kinds : List Effect.Kind}

/-- What every phase keeps of the radio and the processor, behind a trace.  The flag is what the
tick takes for the answer whether the processor runs at its default frequency. -/
structure Fit (t : Trace Node) (p : Pace) (atDefault : Bool) (s : Scheduler) : Prop where
  powered : s.radio.Powered
  held : t.LinkHeld → s.radio.phase ≠ .connecting
  flag : atDefault = true ↔ p.mhz = s.speed.defaultMhz
  slow : atDefault = false → s.radio.phase = .up → p.refused = true

theorem Fit.told (h : Fit t p atDefault s) : Told s.speed.defaultMhz p atDefault s :=
  ⟨rfl, h.flag⟩

/-- A phase that leaves both alone. -/
theorem Fit.frame (h : Fit t p atDefault s) (hof : t'.Of kinds) (hclock : .clock ∉ kinds)
    (hp : p.follow t' = some p') (hradio : s'.radio = s.radio)
    (hdefault : s'.speed.defaultMhz = s.speed.defaultMhz) : Fit (t ++ t') p' atDefault s' := by
  rw [Pace.follow_of hof hclock hp]
  refine ⟨?_, fun hheld => ?_, ?_, fun hslow => ?_⟩
  · rw [hradio]
    exact h.powered
  · rw [hradio]
    exact h.held (Trace.linkHeld_append.1 hheld).1
  · rw [hdefault]
    exact h.flag
  · rw [hradio]
    exact h.slow hslow

/-! ## Turns -/

/-- Behind a change to the default frequency, a processor that is slow has refused. -/
theorem Fit.raiseClock {res : Bool × Scheduler} (h : Fit t p atDefault s)
    (hraise : (s.raiseClock now atDefault).Ends t' res) (hp : p.follow t' = some p') :
    Fit (t ++ t') p' res.1 res.2 ∧ (res.1 = false → p'.refused = true) := by
  obtain ⟨-, -, hrefused⟩ := raiseClock_follow hraise h.flag.1 hp
  obtain ⟨speed, hs'⟩ := raiseClock_gives hraise.gives
  have hradio : res.2.radio = s.radio := by rw [hs']
  refine ⟨⟨?_, fun hheld => ?_, (h.told.raiseClock hraise hp).fits, fun hslow _ => hrefused hslow⟩,
    hrefused⟩
  · rw [hradio]
    exact h.powered
  · rw [hradio]
    exact h.held (Trace.linkHeld_append.1 hheld).1

/-- The link is brought up with a processor that is not slow, or has refused. -/
theorem Fit.raiseRadio {res : Bool × Scheduler} (h : Fit t p atDefault s)
    (hrefused : atDefault = false → p.refused = true) (hraise : s.raiseRadio.Ends t' res)
    (hp : p.follow t' = some p') : Fit (t ++ t') p' atDefault res.2 := by
  rw [Pace.follow_of (hraise.of (raiseRadio_kinds (List.Subset.refl _))) (by decide) hp]
  obtain ⟨t₁, ⟨up, radio⟩, t₂, hask, hrest, rfl⟩ := Prog.ends_bind.1 hraise
  have hasked := RadioController.isConnected_asked h.powered hask
  cases up with
  | true =>
    obtain ⟨rfl, rfl⟩ := Prog.ends_pure.1 hrest
    refine ⟨hasked.powered h.powered, fun hheld => ?_, h.flag, fun hslow _ => hrefused hslow⟩
    have hparts := Trace.linkHeld_append.1 hheld
    exact hasked.held (h.held hparts.1) (Trace.linkHeld_append.1 hparts.2).1
  | false =>
    obtain ⟨t₃, ⟨up', radio'⟩, t₄, henable, hend, rfl⟩ := Prog.ends_bind.1 hrest
    obtain ⟨rfl, rfl⟩ := Prog.ends_pure.1 hend
    have hraised := RadioController.enable_raised (hasked.powered h.powered) henable.gives
    exact ⟨hraised.powered, fun _ => hraised.phase_ne, h.flag, fun hslow _ => hrefused hslow⟩

theorem Fit.readIfDue {res : Bool × Scheduler} (h : Fit t p atDefault s)
    (hread : (s.readIfDue index now atDefault).Ends t' res) (hp : p.follow t' = some p') :
    Fit (t ++ t') p' res.1 res.2 := by
  obtain ⟨speed, entries, hs', -⟩ := readIfDue_gives hread.gives
  have hradio : res.2.radio = s.radio := by rw [hs']
  cases readIfDue_raises hread with
  | never hof hclock hspeed => exact h.frame hof hclock hp hradio (by rw [hspeed])
  | first hraise hof hclock hspeed =>
    obtain ⟨p₁, hp₁, hp₂⟩ := Pace.follow_append.1 hp
    obtain ⟨speed₁, hs₁⟩ := raiseClock_gives hraise.gives
    rw [← List.append_assoc]
    exact (h.raiseClock hraise hp₁).1.frame hof hclock hp₂ (hradio.trans (by rw [hs₁]))
      (by rw [hspeed])

theorem serviceEntry_devices (h : (s.serviceEntry index now).Gives s') :
    s'.radio = s.radio ∧ s'.speed = s.speed := by
  obtain ⟨registry, entries, exchanges, rfl⟩ := serviceEntry_fields h
  exact ⟨rfl, rfl⟩

theorem beginUpload_devices {conn : ConnId} (h : (s.beginUpload index conn).Gives s') :
    s'.radio = s.radio ∧ s'.speed = s.speed := by
  obtain ⟨registry, entries, exchanges, rfl⟩ := beginUpload_fields h
  exact ⟨rfl, rfl⟩

theorem Fit.sendIfReady {res : Bool × Bool × Scheduler} (h : Fit t p atDefault s)
    (hsend : (s.sendIfReady index now atDefault).Ends t' res) (hp : p.follow t' = some p') :
    Fit (t ++ t') p' res.2.1 res.2.2 := by
  cases sendIfReady_sent hsend with
  | nothing => exact h.frame Trace.of_nil List.not_mem_nil hp rfl rfl
  | @goesOn e _ s' _ _ hservice =>
    obtain ⟨hradio, hspeed⟩ := serviceEntry_devices hservice.gives
    exact h.frame (hservice.of (serviceEntry_kinds (List.Subset.refl _))) (by decide) hp hradio
      (by rw [hspeed])
  | @deferred _ t₁ t₂ t₃ _ speed radio _ hclock hradio hlog =>
    obtain ⟨p₁, hp₁, hq₁⟩ := Pace.follow_append.1 hp
    obtain ⟨p₂, hp₂, hp₃⟩ := Pace.follow_append.1 hq₁
    obtain ⟨hraised, hrefused⟩ := h.raiseClock hclock hp₁
    rw [← List.append_assoc, ← List.append_assoc]
    exact (hraised.raiseRadio hrefused hradio hp₂).frame hlog (by decide) hp₃ rfl rfl
  | @begun _ t₁ t₂ t₃ _ speed radio s' _ hclock hradio hbegin =>
    obtain ⟨p₁, hp₁, hq₁⟩ := Pace.follow_append.1 hp
    obtain ⟨p₂, hp₂, hp₃⟩ := Pace.follow_append.1 hq₁
    obtain ⟨hraised, hrefused⟩ := h.raiseClock hclock hp₁
    obtain ⟨hsameRadio, hsameSpeed⟩ := beginUpload_devices hbegin.gives
    rw [← List.append_assoc, ← List.append_assoc]
    exact (hraised.raiseRadio hrefused hradio hp₂).frame
      (hbegin.of (beginUpload_kinds (List.Subset.refl _))) (by decide) hp₃ hsameRadio
      (by rw [hsameSpeed])

theorem Fit.turns {indices : List Nat} {ts : List (Trace Node)} {res : Bool × Bool × Scheduler}
    (hturns : Turns now indices keep atDefault s ts res) (h : Fit t p atDefault s)
    (hp : p.follow ts.flatten = some p') : Fit (t ++ ts.flatten) p' res.2.1 res.2.2 := by
  induction hturns generalizing t p with
  | nil => exact h.frame Trace.of_nil List.not_mem_nil hp rfl rfl
  | @cons index rest keep atDefault needs atDefault' s s' t₁ ts res hturn _ ih =>
    rw [List.flatten_cons] at hp ⊢
    obtain ⟨p₁, hp₁, hp₂⟩ := Pace.follow_append.1 hp
    obtain ⟨t₂, ⟨atDefault₁, s₁⟩, t₃, hread, hsend, rfl⟩ := Prog.ends_bind.1 hturn
    obtain ⟨p₂, hread₁, hsend₁⟩ := Pace.follow_append.1 hp₁
    have hfit := (h.readIfDue hread hread₁).sendIfReady hsend hsend₁
    rw [List.append_assoc] at hfit
    rw [← List.append_assoc]
    exact ih hfit hp₂

/-! ## Behind the turns -/

theorem askRadio_asked {res : Bool × Scheduler} (hr : s.radio.Powered)
    (h : s.askRadio.Ends t res) :
    ∃ radio, s.radio.Asked t (res.1, radio) ∧ res.2 = { s with radio } := by
  obtain ⟨t₁, ⟨up, radio⟩, t₂, hask, hrest, rfl⟩ := Prog.ends_bind.1 h
  obtain ⟨rfl, rfl⟩ := Prog.ends_pure.1 hrest
  rw [List.append_nil]
  exact ⟨radio, RadioController.isConnected_asked hr hask, rfl⟩

/-- A question for the link, with the processor at its default frequency. -/
theorem Fit.ask {res : Bool × Scheduler} (h : Fit t p true s) (hask : s.askRadio.Ends t' res)
    (hp : p.follow t' = some p') :
    Fit (t ++ t') p' true res.2 ∧ (res.1 = false → res.2.radio.phase ≠ .up) := by
  rw [Pace.follow_of (hask.of (askRadio_kinds (List.Subset.refl _))) (by decide) hp]
  obtain ⟨up, s₁⟩ := res
  obtain ⟨radio, hasked, rfl⟩ := askRadio_asked h.powered hask
  refine ⟨⟨hasked.powered h.powered, fun hheld => ?_, h.flag, nofun⟩, ?_⟩
  · have hparts := Trace.linkHeld_append.1 hheld
    exact hasked.held (h.held hparts.1) hparts.2
  · rintro rfl
    exact hasked.down h.powered

/-- While the radio is up, it stays as it is, or is shut down. -/
theorem whileUp_devices {statusTick : Bool} {due : Instant} {res : Bool × Scheduler}
    (hr : s.radio.Powered) (h : (s.whileUp keep statusTick due).Gives res) :
    res.2.speed = s.speed ∧ (res.2.radio = s.radio ∧ (keep || !s.mayRest due) = true ∨
      res.2.radio.Raised false) := by
  obtain ⟨supply, time, resyncDue, ⟨rfl, hkept⟩ | ⟨-, -, -, hoff⟩⟩ := whileUp_gives h
  · exact ⟨rfl, Or.inl ⟨rfl, hkept⟩⟩
  · obtain ⟨registry, radio, now, -, hdisable, hs'⟩ := radioOff_gives hoff
    rw [hs']
    exact ⟨rfl, Or.inr (RadioController.disable_raised hr hdisable)⟩

theorem Fit.tendRadio {statusTick : Bool} {due : Instant} {res : Bool × Scheduler}
    (h : Fit t p atDefault s)
    (htend : (s.tendRadio keep atDefault statusTick due).Ends t' res)
    (hp : p.follow t' = some p') : Fit (t ++ t') p' atDefault res.2 := by
  cases atDefault with
  | false =>
    obtain ⟨rfl, rfl⟩ := Prog.ends_pure.1 htend
    exact h.frame Trace.of_nil List.not_mem_nil hp rfl rfl
  | true =>
    obtain ⟨t₁, ⟨up, s₁⟩, t₂, hask, hrest, rfl⟩ := Prog.ends_bind.1 htend
    obtain ⟨p₁, hp₁, hp₂⟩ := Pace.follow_append.1 hp
    obtain ⟨hasked, -⟩ := h.ask hask hp₁
    rw [← List.append_assoc]
    cases up with
    | false =>
      obtain ⟨rfl, rfl⟩ := Prog.ends_pure.1 hrest
      exact hasked.frame Trace.of_nil List.not_mem_nil hp₂ rfl rfl
    | true =>
      have hof := hrest.of (whileUp_kinds (List.Subset.refl _))
      obtain ⟨hspeed, ⟨hradio, -⟩ | hoff⟩ := whileUp_devices hasked.powered hrest.gives
      · exact hasked.frame hof (by decide) hp₂ hradio (by rw [hspeed])
      · rw [Pace.follow_of hof (by decide) hp₂]
        refine ⟨hoff.powered, fun _ => hoff.phase_ne, ?_, nofun⟩
        rw [hspeed]
        exact hasked.flag

/-- The processor is slowed down only if the link is not up. -/
theorem Fit.lowerClock {res : Bool × Scheduler} (h : Fit t p atDefault s)
    (hlower : (s.lowerClock atDefault).Ends t' res) (hp : p.follow t' = some p') :
    Fit (t ++ t') p' res.1 res.2 := by
  cases atDefault with
  | false =>
    obtain ⟨rfl, rfl⟩ := Prog.ends_pure.1 hlower
    exact h.frame Trace.of_nil List.not_mem_nil hp rfl rfl
  | true =>
    have htold := h.told.lowerClock hlower hp
    obtain ⟨t₁, ⟨up, s₁⟩, t₂, hask, hrest, rfl⟩ := Prog.ends_bind.1 hlower
    obtain ⟨p₁, hp₁, hp₂⟩ := Pace.follow_append.1 hp
    obtain ⟨hasked, hdown⟩ := h.ask hask hp₁
    rw [← List.append_assoc]
    simp only at hrest
    split at hrest
    next =>
      obtain ⟨rfl, rfl⟩ := Prog.ends_pure.1 hrest
      exact hasked.frame Trace.of_nil List.not_mem_nil hp₂ rfl rfl
    next hoff =>
      obtain ⟨rfl, -⟩ : up = false ∧ _ := by simpa using hoff
      obtain ⟨t₃, now, t₄, hnow, hset, rfl⟩ := Prog.ends_bind.1 hrest
      obtain ⟨t₅, ⟨low, speed⟩, t₆, hlow, hend, rfl⟩ := Prog.ends_bind.1 hset
      obtain ⟨rfl, rfl⟩ := Prog.ends_pure.1 hend
      exact ⟨hasked.powered, fun hheld => hasked.held (Trace.linkHeld_append.1 hheld).1,
        htold.fits, fun _ hphase => absurd hphase (hdown rfl)⟩

theorem Fit.report {due : Instant} {up : Bool} (h : Fit t p atDefault s)
    (hreport : (s.report due up).Ends t' s') (hp : p.follow t' = some p') :
    Fit (t ++ t') p' atDefault s' := by
  obtain ⟨speed, rfl, hdefault⟩ := report_gives hreport.gives
  exact h.frame (hreport.of (report_kinds (List.Subset.refl _))) (by decide) hp rfl hdefault

/-! ## Ticks -/

/-- The phases of a tick ahead of the turns.  The answer to its question was known before. -/
theorem Fit.opened {before : Bool} (h : Fit t p before s) (hopened : Opened s now t' atDefault s')
    (hp : p.follow t' = some p') : Fit (t ++ t') p' atDefault s' := by
  obtain ⟨-, -, -, hspeed, hradio⟩ := hopened.keeps
  have hflag := (hopened.told hp).flag
  rw [Pace.follow_of hopened.of (by decide) hp] at hflag
  rw [← Bool.eq_iff_iff.2 (h.flag.trans hflag.symm)]
  exact h.frame hopened.of (by decide) hp hradio (by rw [hspeed])

/-- The phases of a tick up to the turns and the end of the send window. -/
theorem Fit.served {tcount tnetwork tclock twindow : Trace Node} {turns : List (Trace Node)}
    {s₁ s₂ s₃ s₄ : Scheduler} {before atDefault₁ : Bool} (h : Fit t p before s)
    (hcount : s.countTick.Ends tcount s₁) (hnetwork : (s₁.serviceNetwork now).Ends tnetwork s₂)
    (hclock : s₂.speed.isDefault.Ends tclock atDefault)
    (hturns : Turns now (List.range s₂.entries.length) false atDefault s₂ turns
      (keep, atDefault₁, s₃))
    (hwindow : (s₃.completeWindow now).Ends twindow s₄)
    (hp : p.follow (tcount ++ tnetwork ++ tclock ++ turns.flatten ++ twindow) = some p') :
    Fit (t ++ tcount ++ tnetwork ++ tclock ++ turns.flatten ++ twindow) p' atDefault₁ s₄ := by
  obtain ⟨p₂, hq₂, hp₃⟩ := Pace.follow_append.1 hp
  obtain ⟨p₁, hp₁, hp₂⟩ := Pace.follow_append.1 hq₂
  rw [List.append_assoc tcount] at hp₁
  have hopened := h.opened (.intro hcount hnetwork hclock) hp₁
  simp only [← List.append_assoc] at hopened
  have hserved := hopened.turns hturns hp₂
  have hof := hwindow.of (completeWindow_kinds (List.Subset.refl _))
  rcases completeWindow_gives hwindow.gives with rfl | ⟨-, rfl, -⟩
  · exact hserved.frame hof (by decide) hp₃ rfl rfl
  · exact hserved.frame hof (by decide) hp₃ rfl rfl

/-- A tick, and what it reports of the processor. -/
theorem Passed.fit {turns : List (Trace Node)} {res : TickReport × Scheduler}
    (h : Passed s now turns t' res) (hfit : Fit t p atDefault s) (hp : p.follow t' = some p') :
    Fit (t ++ t') p' res.1.clockDefault res.2 := by
  cases h with
  | @intro s₁ s₂ s₃ s₄ s₅ s₆ s₇ _ _ _ _ _ tcount tnetwork tclock twindow tradio tlower treport _
      hcount hnetwork hclock hturns hwindow hradio hlower hreport =>
    simp only [← List.append_assoc] at hp ⊢
    obtain ⟨p₃, hq₃, hp₄⟩ := Pace.follow_append.1 hp
    obtain ⟨p₂, hq₂, hp₃⟩ := Pace.follow_append.1 hq₃
    obtain ⟨p₁, hp₁, hp₂⟩ := Pace.follow_append.1 hq₂
    have hserved := hfit.served hcount hnetwork hclock hturns hwindow hp₁
    exact ((hserved.tendRadio hradio hp₂).lowerClock hlower hp₃).report hreport hp₄

/-! ## Runs -/

variable {setup : NodeSetup} {logs : List TickLog}

/-- A node is put together with its radio off, and takes the frequency it finds for the default. -/
theorem build_devices (h : setup.build.Ends t (.ok s)) (hp : p.follow t = some p') :
    p' = p ∧ s.speed.defaultMhz = p.mhz ∧ s.radio.Raised false := by
  obtain ⟨t₁, ⟨result, r⟩, u₁, hconnect, k₁, rfl⟩ := Prog.ends_bind.1 h
  obtain ⟨p₁, hp₁, hq₁⟩ := Pace.follow_append.1 hp
  have hof₁ := hconnect.of (NodeSetup.connectEach_kinds (List.Subset.refl _))
  obtain rfl : p₁ = p := Pace.follow_of hof₁ (by decide) hp₁
  cases result with
  | error cause => cases (Prog.ends_pure.1 k₁).2
  | ok entries =>
    obtain ⟨t₂, ⟨result, r₁⟩, u₂, hserver, k₂, rfl⟩ := Prog.ends_bind.1 k₁
    obtain ⟨p₂, hp₂, hq₂⟩ := Pace.follow_append.1 hq₁
    have hof₂ := hserver.of (NodeSetup.startServer_kinds (List.Subset.refl _))
    obtain rfl : p₂ = p₁ := Pace.follow_of hof₂ (by decide) hp₂
    cases result with
    | error cause => cases (Prog.ends_pure.1 k₂).2
    | ok u =>
      obtain ⟨t₃, now, u₃, hnow, k₃, rfl⟩ := Prog.ends_bind.1 k₂
      obtain ⟨p₃, hp₃, hq₃⟩ := Pace.follow_append.1 hq₂
      have hof₃ : t₃.Of [.time] := hnow.of (by simp)
      obtain rfl : p₃ = p₂ := Pace.follow_of hof₃ (by decide) hp₃
      split at k₃
      next => cases (Prog.ends_pure.1 k₃).2
      next =>
        obtain ⟨t₄, radio, u₄, hradio, k₄, rfl⟩ := Prog.ends_bind.1 k₃
        obtain ⟨p₄, hp₄, hq₄⟩ := Pace.follow_append.1 hq₃
        have hof₄ : t₄.Of [.time] := hradio.of (by simp [RadioController.new])
        obtain rfl : p₄ = p₃ := Pace.follow_of hof₄ (by decide) hp₄
        obtain ⟨at_, -, rfl⟩ := Prog.ends_bind_pure.1 hradio
        obtain ⟨speed, hspeed, heq⟩ := Prog.ends_bind_pure.1 k₄
        obtain ⟨mhz, hmhz, rfl⟩ := Prog.ends_bind_pure.1 hspeed
        obtain ⟨rfl, rfl⟩ := SpeedController.currentMhz_follow hmhz hq₄
        cases heq
        exact ⟨rfl, rfl, rfl, rfl⟩

/-- Between the ticks of every run on a processor that tells its frequency. -/
theorem Course.fit {mhz : Nat} (h : Course setup t logs s)
    (hp : (Pace.mk mhz false).follow t = some p) : ∃ atDefault, Fit t p atDefault s := by
  induction h generalizing p with
  | built hbuild =>
    obtain ⟨rfl, hdefault, hoff⟩ := build_devices hbuild hp
    exact ⟨true, hoff.powered, fun _ => hoff.phase_ne, iff_of_true rfl hdefault.symm, nofun⟩
  | joined hbuild henable =>
    obtain ⟨p₁, hp₁, hp₂⟩ := Pace.follow_append.1 hp
    obtain ⟨rfl, hdefault, hoff⟩ := build_devices hbuild hp₁
    have hraised := RadioController.enable_raised hoff.powered henable.gives
    have hof := henable.of (RadioController.enable_kinds (List.Subset.refl _))
    rw [Pace.follow_of hof (by decide) hp₂]
    exact ⟨true, hraised.powered, fun _ => hraised.phase_ne, iff_of_true rfl hdefault.symm, nofun⟩
  | start _ hstart ih =>
    obtain ⟨p₁, hp₁, hp₂⟩ := Pace.follow_append.1 hp
    obtain ⟨atDefault, hfit⟩ := ih hp₁
    obtain ⟨entries, lastSendComplete, hs', -⟩ := start_gives hstart.gives
    exact ⟨atDefault, hfit.frame (hstart.of (start_kinds (List.Subset.refl _))) (by decide) hp₂
      (by rw [hs']) (by rw [hs'])⟩
  | @tick t t' logs s now turns res _ hpassed ih =>
    obtain ⟨p₁, hp₁, hp₂⟩ := Pace.follow_append.1 hp
    obtain ⟨atDefault, hfit⟩ := ih hp₁
    have hof : Trace.Of [.time] [⟨.now, now⟩] := List.forall_mem_singleton.2 (by simp)
    have hbegun : Fit (t ++ [⟨.now, now⟩]) p₁ atDefault s :=
      hfit.frame hof (by decide) rfl rfl rfl
    exact ⟨_, List.append_cons t _ t' ▸ hpassed.fit hbegun hp₂⟩

/-- Behind every tick of every run on a processor that starts at its default frequency: while it is
slow, the radio is powered only if its link was lost, or if it is up and the processor has refused
to go faster.  In particular the radio is off if it never answered a question for its link with
anything but up, and the processor did not refuse. -/
theorem Course.powered_while_slow_iff {mhz : Nat} {res : TickReport × Scheduler}
    (h : Course setup t logs s) (htick : s.tick.Ends t' res)
    (hp : (Pace.mk mhz false).follow (t ++ t') = some p)
    (hslow : p.mhz ≠ res.2.speed.defaultMhz) :
    (res.2.radio.initialized = true ↔
      res.2.radio.phase = .connecting ∨ res.2.radio.phase = .up ∧ p.refused = true) ∧
    (Trace.LinkHeld (t ++ t') → p.refused = false → res.2.radio.initialized = false) := by
  obtain ⟨_, -, -, -, -, hcourse⟩ := h.tick_ends htick
  obtain ⟨atDefault, hfit⟩ := hcourse.fit hp
  have hflag : atDefault = false := Bool.eq_false_iff.2 (mt hfit.flag.1 hslow)
  have hexact : res.2.radio.initialized = true ↔
      res.2.radio.phase = .connecting ∨ res.2.radio.phase = .up ∧ p.refused = true := by
    refine Iff.trans hfit.powered ?_
    cases hphase : res.2.radio.phase with
    | off | connecting => simp
    | up => simpa using hfit.slow hflag hphase
  refine ⟨hexact, fun hheld hrefused => Bool.eq_false_iff.2 fun hinit => ?_⟩
  rcases hexact.1 hinit with hconnecting | ⟨-, hslow⟩
  · exact hfit.held hheld hconnecting
  · rw [hrefused] at hslow
    cases hslow

/-! ## On the bench -/

/-- The node `lone` has handed a batch to its collector. -/
def handed : Option Play :=
  play lone (bench (.ok (.resolved ⟨192, 168, 1, 10⟩)))
    [id, fun w => { w with
      clock := 100000
      events := [⟨⟨0⟩, some ⟨1⟩, .connected (.ok ())⟩] }]

/-- The reply of the collector has arrived, and the radio finds its link in some state. -/
def replied (status : LinkStatus) (w : Bench.World) : Bench.World :=
  { w with
    clock := 200000
    events := [⟨⟨0⟩, some ⟨1⟩, .received (bytesOf "HTTP/1.1 200 OK\r\n\r\n")⟩]
    radio := { w.radio with status } }

/-- The link is up when the reply arrives: the radio goes off, and then the processor slows down. -/
theorem off_while_slow :
    ∃ t logs s t' res p, Course lone t logs s ∧ s.tick.Ends t' res ∧
      (Pace.mk 240 false).follow (t ++ t') = some p ∧ p.mhz ≠ res.2.speed.defaultMhz ∧
      res.2.radio.initialized = false := by
  obtain ⟨x, hx, hfacts⟩ := Option.any_eq_true _ _ |>.1 (show handed.any (fun x =>
    let y := x.tick (replied .up)
    decide ((Pace.mk 240 false).follow y.trace = some ⟨80, false⟩ ∧
      80 ≠ y.node.speed.defaultMhz ∧ Trace.LinkHeld y.trace)) = true by decide +kernel)
  obtain ⟨logs, t', res, hcourse, htick, hy⟩ := play_tick hx (replied .up)
  rw [hy] at hfacts
  obtain ⟨hp, hslow, hheld⟩ := of_decide_eq_true hfacts
  exact ⟨_, logs, _, t', res, _, hcourse, htick, hp, hslow,
    (hcourse.powered_while_slow_iff htick hp hslow).2 hheld rfl⟩

/-- A second has passed, and the link is down. -/
def dropped (w : Bench.World) : Bench.World :=
  { w with clock := 1000000, radio := { w.radio with status := .down } }

/-- The link is lost while a batch is out: the radio stays on, and the processor slows down. -/
theorem lost_while_slow :
    ∃ t logs s t' res p, Course lone t logs s ∧ s.tick.Ends t' res ∧
      (Pace.mk 240 false).follow (t ++ t') = some p ∧ p.mhz ≠ res.2.speed.defaultMhz ∧
      res.2.radio.initialized = true := by
  obtain ⟨x, hx, hfacts⟩ := Option.any_eq_true _ _ |>.1 (show
    (play lone (bench (.ok .pending)) [id]).any (fun x =>
      let y := x.tick dropped
      decide ((Pace.mk 240 false).follow y.trace = some ⟨80, false⟩ ∧
        80 ≠ y.node.speed.defaultMhz ∧ y.node.radio.initialized = true)) = true by decide +kernel)
  obtain ⟨logs, t', res, hcourse, htick, hy⟩ := play_tick hx dropped
  rw [hy] at hfacts
  obtain ⟨hp, hslow, hinit⟩ := of_decide_eq_true hfacts
  exact ⟨_, logs, _, t', res, _, hcourse, htick, hp, hslow, hinit⟩

end Scheduler

end MeterNode
