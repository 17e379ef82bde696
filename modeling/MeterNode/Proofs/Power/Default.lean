import MeterNode.Proofs.Power.Pace
import MeterNode.Proofs.Schedule.Ticks

/-!
# The default frequency in a tick

A tick asks once whether the processor runs at its default frequency, and from then on goes by the
answers of the changes that it asks for.  `Scheduler.Told` says that what it goes by is right, and
every phase keeps it, whatever the processor refuses: a refused change is answered as what it is.

The frequency changes in two places only.  Each half of a turn may go to the default frequency
first, and leaves the processor alone from there on (`Scheduler.Raises`); the end of the tick may
slow it down.
-/

namespace MeterNode

/-- The answer is not the refusal of this frequency. -/
def Effect.grants (mhz : Nat) : (op : Effect) → op.Answer → Bool
  | .cpu (.setMhz wanted), accepted => accepted || wanted != mhz
  | _, _ => true

/-- The processor accepted a frequency whenever it was asked for it. -/
def Trace.Grants (mhz : Nat) (t : Trace Node) : Prop :=
  ∀ step ∈ t, Effect.grants mhz step.1 step.2 = true

instance (mhz : Nat) (t : Trace Node) : Decidable (Trace.Grants mhz t) :=
  inferInstanceAs (Decidable (∀ step ∈ t, Effect.grants mhz step.1 step.2 = true))

theorem Trace.grants_append {mhz : Nat} {t₁ t₂ : Trace Node} :
    Trace.Grants mhz (t₁ ++ t₂) ↔ Trace.Grants mhz t₁ ∧ Trace.Grants mhz t₂ :=
  List.forall_mem_append

/-- A processor that accepts its default frequency goes there. -/
theorem SpeedController.setDefault_granted {c : SpeedController} {now : Instant} {t : Trace Node}
    {res : Bool × SpeedController} (h : (c.setDefault now).Ends t res)
    (hgrants : Trace.Grants c.defaultMhz t) : res.1 = true := by
  obtain ⟨t₁, atDefault, t₂, -, hswitch, rfl⟩ := Prog.ends_bind.1 h
  split at hswitch
  next =>
    obtain ⟨-, rfl⟩ := Prog.ends_pure.1 hswitch
    rfl
  next =>
    obtain ⟨before, behind, rfl, -⟩ := switchTo_ends hswitch
    have hgranted := (Trace.grants_append.1 hgrants).2 _ List.mem_append_cons_self
    simpa [Effect.grants] using hgranted

namespace Scheduler

variable {s s' : Scheduler} {index mhz : Nat} {now : Instant} {atDefault keep : Bool}
  {t : Trace Node} {p p' : Pace} {kinds : List Effect.Kind}

/-! ## What the halves of a turn ask the processor for -/

/-- Something may go to the default frequency first, and leaves the processor alone from there on.
The answer goes along with the node. -/
inductive Raises (now : Instant) (atDefault : Bool) (s : Scheduler) :
    Trace Node → Bool × Scheduler → Prop where
  | never {t : Trace Node} {s' : Scheduler} {kinds : List Effect.Kind} : t.Of kinds →
      .clock ∉ kinds → s'.speed = s.speed → Raises now atDefault s t (atDefault, s')
  | first {t t' : Trace Node} {res : Bool × Scheduler} {s' : Scheduler}
      {kinds : List Effect.Kind} : (s.raiseClock now atDefault).Ends t res → t'.Of kinds →
      .clock ∉ kinds → s'.speed = res.2.speed → Raises now atDefault s (t ++ t') (res.1, s')

theorem readIfDue_raises {res : Bool × Scheduler}
    (h : (s.readIfDue index now atDefault).Ends t res) : Raises now atDefault s t res := by
  have hentry {e : Entry} {s₁ s₂ : Scheduler} {t : Trace Node}
      (h : (s₁.readEntry index e now).Ends t s₂) :
      t.Of [.note, .radio, .input] ∧ s₂.speed = s₁.speed := by
    obtain ⟨e', rfl, -⟩ := readEntry_gives h.gives
    exact ⟨h.of (readEntry_kinds (List.Subset.refl _)), rfl⟩
  cases readIfDue_gathered h with
  | nothing => exact .never Trace.of_nil List.not_mem_nil rfl
  | plain _ _ _ hread =>
    obtain ⟨hof, hspeed⟩ := hentry hread
    exact .never hof (by decide) hspeed
  | raised _ _ _ hraise hread =>
    obtain ⟨hof, hspeed⟩ := hentry hread
    exact .first hraise hof (by decide) hspeed

theorem sendIfReady_raises {res : Bool × Bool × Scheduler}
    (h : (s.sendIfReady index now atDefault).Ends t res) : Raises now atDefault s t res.2 := by
  cases sendIfReady_sent h with
  | nothing => exact .never Trace.of_nil List.not_mem_nil rfl
  | goesOn _ _ hservice =>
    obtain ⟨registry, entries, exchanges, rfl⟩ := serviceEntry_fields hservice.gives
    exact .never (hservice.of (serviceEntry_kinds (List.Subset.refl _))) (by decide) rfl
  | deferred _ hclock hradio hlog =>
    have hof := Trace.of_append.2 ⟨hradio.of (raiseRadio_kinds (List.Subset.refl _)),
      hlog.widen (by decide)⟩
    exact .first hclock hof (by decide) rfl
  | begun _ hclock hradio hbegin =>
    have hof : Trace.Of [.note, .failure, .time, .socket, .dial, .send, .reports, .link, .radio,
        .wake] _ := Trace.of_append.2 ⟨hradio.of (raiseRadio_kinds (by decide)),
      hbegin.of (beginUpload_kinds (by decide))⟩
    obtain ⟨registry, entries, exchanges, rfl⟩ := beginUpload_fields hbegin.gives
    exact .first hclock hof (by decide) rfl

/-- If the processor is not at its default frequency behind a change to it, it has refused. -/
theorem raiseClock_follow {res : Bool × Scheduler} (h : (s.raiseClock now atDefault).Ends t res)
    (hflag : atDefault = true → p.mhz = s.speed.defaultMhz) (hp : p.follow t = some p') :
    res.2.speed.defaultMhz = s.speed.defaultMhz ∧
      (res.1 = true ↔ p'.mhz = s.speed.defaultMhz) ∧ (res.1 = false → p'.refused = true) := by
  simp only [raiseClock] at h
  split at h
  next hdefault =>
    obtain ⟨rfl, rfl⟩ := Prog.ends_pure.1 h
    cases Option.some.inj hp
    exact ⟨rfl, iff_of_true rfl (hflag hdefault), by simp⟩
  next =>
    obtain ⟨t₁, ⟨answer, speed⟩, t₂, hset, hrest, rfl⟩ := Prog.ends_bind.1 h
    obtain ⟨rfl, rfl⟩ := Prog.ends_pure.1 hrest
    rw [List.append_nil] at hp
    exact SpeedController.setDefault_follow hset hp

theorem raiseClock_granted {res : Bool × Scheduler} (h : (s.raiseClock now atDefault).Ends t res)
    (hgrants : Trace.Grants s.speed.defaultMhz t) : res.1 = true := by
  simp only [raiseClock] at h
  split at h
  next =>
    obtain ⟨-, rfl⟩ := Prog.ends_pure.1 h
    rfl
  next =>
    obtain ⟨t₁, ⟨answer, speed⟩, t₂, hset, hrest, rfl⟩ := Prog.ends_bind.1 h
    obtain ⟨rfl, rfl⟩ := Prog.ends_pure.1 hrest
    exact SpeedController.setDefault_granted hset (Trace.grants_append.1 hgrants).1

/-! ## What a tick goes by -/

/-- What a tick takes for the answer whether the processor runs at its default frequency is right,
and the default is still the same. -/
structure Told (mhz : Nat) (p : Pace) (atDefault : Bool) (s : Scheduler) : Prop where
  default : s.speed.defaultMhz = mhz
  flag : atDefault = true ↔ p.mhz = mhz

theorem Told.fits (h : Told mhz p atDefault s) : atDefault = true ↔ p.mhz = s.speed.defaultMhz := by
  rw [h.default]
  exact h.flag

/-- A phase that leaves the processor alone. -/
theorem Told.frame (h : Told mhz p atDefault s) (hof : t.Of kinds) (hclock : .clock ∉ kinds)
    (hp : p.follow t = some p') (hdefault : s'.speed.defaultMhz = s.speed.defaultMhz) :
    Told mhz p' atDefault s' := by
  rw [Pace.follow_of hof hclock hp]
  exact ⟨hdefault.trans h.default, h.flag⟩

theorem Told.raiseClock {res : Bool × Scheduler} (h : Told mhz p atDefault s)
    (hraise : (s.raiseClock now atDefault).Ends t res) (hp : p.follow t = some p') :
    Told mhz p' res.1 res.2 := by
  obtain ⟨hsame, hanswer, -⟩ := raiseClock_follow hraise h.fits.1 hp
  rw [h.default] at hsame hanswer
  exact ⟨hsame, hanswer⟩

theorem Told.raises {res : Bool × Scheduler} (h : Told mhz p atDefault s)
    (hraises : Raises now atDefault s t res) (hp : p.follow t = some p') :
    Told mhz p' res.1 res.2 := by
  cases hraises with
  | never hof hclock hspeed => exact h.frame hof hclock hp (by rw [hspeed])
  | first hraise hof hclock hspeed =>
    obtain ⟨p₁, hp₁, hp₂⟩ := Pace.follow_append.1 hp
    exact (h.raiseClock hraise hp₁).frame hof hclock hp₂ (by rw [hspeed])

theorem Told.turns {indices : List Nat} {ts : List (Trace Node)} {res : Bool × Bool × Scheduler}
    (hturns : Turns now indices keep atDefault s ts res) (h : Told mhz p atDefault s)
    (hp : p.follow ts.flatten = some p') : Told mhz p' res.2.1 res.2.2 := by
  induction hturns generalizing p with
  | nil => exact h.frame Trace.of_nil List.not_mem_nil hp rfl
  | cons hturn _ ih =>
    rw [List.flatten_cons] at hp
    obtain ⟨p₂, hp₂, hp'⟩ := Pace.follow_append.1 hp
    obtain ⟨t₁, _, t₂, hread, hsend, rfl⟩ := Prog.ends_bind.1 hturn
    obtain ⟨p₁, hp₁, hq₂⟩ := Pace.follow_append.1 hp₂
    exact ih ((h.raises (readIfDue_raises hread) hp₁).raises (sendIfReady_raises hsend) hq₂) hp'

/-- The question at the beginning of the tick, whatever went before. -/
theorem Opened.told (h : Opened s now t atDefault s') (hp : p.follow t = some p') :
    Told s.speed.defaultMhz p' atDefault s' := by
  obtain ⟨-, -, -, hspeed, -⟩ := h.keeps
  refine ⟨by rw [hspeed], ?_⟩
  cases h with
  | intro _ _ hclock =>
    obtain ⟨p₁, -, hq₁⟩ := Pace.follow_append.1 hp
    obtain ⟨p₂, -, hp₂⟩ := Pace.follow_append.1 hq₁
    obtain ⟨rfl, hanswer⟩ := SpeedController.isDefault_follow hclock hp₂
    rwa [hspeed] at hanswer

theorem tendRadio_speed {statusTick : Bool} {due : Instant} {res : Bool × Scheduler}
    (h : (s.tendRadio keep atDefault statusTick due).Gives res) : res.2.speed = s.speed := by
  obtain ⟨radio, rfl | hwhile⟩ := tendRadio_gives h
  · rfl
  · obtain ⟨supply, time, resyncDue, ⟨rfl, -⟩ | ⟨-, -, -, hoff⟩⟩ := whileUp_gives hwhile
    · rfl
    · obtain ⟨registry, radio', now, -, -, hs'⟩ := radioOff_gives hoff
      rw [hs']
      rfl

/-- The processor is slowed down only if it runs at its default frequency. -/
theorem Told.lowerClock {res : Bool × Scheduler} (h : Told mhz p atDefault s)
    (hlower : (s.lowerClock atDefault).Ends t res) (hp : p.follow t = some p') :
    Told mhz p' res.1 res.2 := by
  cases atDefault with
  | false =>
    obtain ⟨rfl, rfl⟩ := Prog.ends_pure.1 hlower
    exact h.frame Trace.of_nil List.not_mem_nil hp rfl
  | true =>
    obtain ⟨t₁, ⟨up, s₁⟩, t₂, hask, hrest, rfl⟩ := Prog.ends_bind.1 hlower
    obtain ⟨p₁, hp₁, hp₂⟩ := Pace.follow_append.1 hp
    obtain ⟨radio, rfl⟩ : ∃ radio, s₁ = { s with radio } := askRadio_gives hask.gives
    have hasked : Told mhz p₁ true { s with radio } :=
      h.frame (hask.of (askRadio_kinds (List.Subset.refl _))) (by decide) hp₁ rfl
    simp only at hrest
    split at hrest
    next =>
      obtain ⟨rfl, rfl⟩ := Prog.ends_pure.1 hrest
      exact hasked.frame Trace.of_nil List.not_mem_nil hp₂ rfl
    next =>
      obtain ⟨t₃, now, t₄, hnow, hset, rfl⟩ := Prog.ends_bind.1 hrest
      obtain ⟨t₅, ⟨low, speed⟩, t₆, hlow, hend, rfl⟩ := Prog.ends_bind.1 hset
      obtain ⟨rfl, rfl⟩ := Prog.ends_pure.1 hend
      obtain ⟨p₃, hp₃, hp₄⟩ := Pace.follow_append.1 hp₂
      rw [List.append_nil] at hp₄
      have hnow : t₃.Of [.time] := hnow.of (by simp)
      rw [Pace.follow_of hnow (by decide) hp₃] at hp₄
      obtain ⟨hsame, hanswer⟩ := SpeedController.setLow_follow hlow (hasked.fits.1 rfl) hp₄
      refine ⟨hsame.trans h.default, ?_⟩
      rw [Bool.not_eq_true', hanswer, ← h.default]

/-- The report of a tick. -/
theorem Passed.told {turns : List (Trace Node)} {res : TickReport × Scheduler}
    (h : Passed s now turns t res) (hp : p.follow t = some p') :
    Told s.speed.defaultMhz p' res.1.clockDefault res.2 := by
  cases h with
  | @intro s₁ s₂ s₃ s₄ s₅ s₆ s₇ _ _ _ _ _ tcount tnetwork tclock twindow tradio tlower treport turns
      hcount hnetwork hclock hturns hwindow hradio hlower hreport =>
    have hshape : tcount ++ (tnetwork ++ (tclock ++ (turns.flatten ++
        (twindow ++ (tradio ++ (tlower ++ treport)))))) =
        (tcount ++ (tnetwork ++ tclock)) ++ (turns.flatten ++
          (twindow ++ (tradio ++ (tlower ++ treport)))) := by simp
    rw [hshape] at hp
    obtain ⟨p₁, hp₁, hp⟩ := Pace.follow_append.1 hp
    obtain ⟨p₂, hp₂, hp⟩ := Pace.follow_append.1 hp
    obtain ⟨p₃, hp₃, hp⟩ := Pace.follow_append.1 hp
    obtain ⟨p₄, hp₄, hp⟩ := Pace.follow_append.1 hp
    obtain ⟨p₅, hp₅, hp₆⟩ := Pace.follow_append.1 hp
    have hserved := ((Opened.intro hcount hnetwork hclock).told hp₁).turns hturns hp₂
    have hsame : s₄.speed = s₃.speed := by
      rcases completeWindow_gives hwindow.gives with rfl | ⟨-, rfl, -⟩ <;> rfl
    have hclosed : Told s.speed.defaultMhz p₃ _ s₄ :=
      hserved.frame (hwindow.of (completeWindow_kinds (List.Subset.refl _))) (by decide) hp₃
        (congrArg _ hsame)
    have htended : Told s.speed.defaultMhz p₄ _ s₅ :=
      hclosed.frame (hradio.of (tendRadio_kinds (List.Subset.refl _))) (by decide) hp₄
        (congrArg _ (tendRadio_speed hradio.gives))
    obtain ⟨speed, rfl, hdefault⟩ := report_gives hreport.gives
    exact (htended.lowerClock hlower hp₅).frame (hreport.of (report_kinds (List.Subset.refl _)))
      (by decide) hp₆ hdefault

end Scheduler

end MeterNode
