import MeterNode.Proofs.Power.Pace

/-!
# Calls of the speed controller

`SpeedCall` has the calls of the controller in one type.  `Turn` says what a call can do: it does
nothing, it books the time, or it books the time and asks the processor for another frequency, which
may be refused.  Whatever is asked for is the default or a lower step (`Allowed`), and it is not in
force yet.  `SpeedCall.turn` shows that there is nothing else, and what the call answers.

`LowSetting` says which step is the low setting for a divisor.  The quotient is a whole number, as
frequencies are.
-/

namespace MeterNode

/-! ## The low setting -/

/-- A step is nearer to the wanted frequency than another one, or as near and not higher. -/
def Prefers (wanted step other : Nat) : Prop :=
  ((step : Int) - wanted).natAbs < ((other : Int) - wanted).natAbs ∨
    ((step : Int) - wanted).natAbs = ((other : Int) - wanted).natAbs ∧ step ≤ other

theorem distance_eq (a b : Nat) : distance a b = ((a : Int) - b).natAbs := by
  unfold distance
  omega

theorem Prefers.antisymm {wanted step other : Nat} (h : Prefers wanted step other)
    (h' : Prefers wanted other step) : step = other := by
  unfold Prefers at h h'
  omega

theorem nearestStep_eq_none {wanted : Nat} {steps : List Nat}
    (h : nearestStep wanted steps = none) : steps = [] := by
  cases steps with
  | nil => rfl
  | cons step rest =>
    rw [nearestStep] at h
    split at h
    next => cases h
    next => split at h <;> cases h

theorem nearestStep_prefers {wanted best : Nat} {steps : List Nat}
    (h : nearestStep wanted steps = some best) : ∀ other ∈ steps, Prefers wanted best other := by
  induction steps generalizing best with
  | nil => cases h
  | cons step rest ih =>
    rw [nearestStep] at h
    unfold Prefers at ih ⊢
    simp only [distance_eq] at h
    rw [List.forall_mem_cons]
    split at h
    next hrest =>
      cases h
      rw [nearestStep_eq_none hrest]
      exact ⟨Or.inr ⟨rfl, Nat.le_refl _⟩, by simp⟩
    next later hlater =>
      have hprefers := ih hlater
      split at h
      next hnear =>
        cases h
        exact ⟨by omega, hprefers⟩
      next hfar =>
        cases h
        refine ⟨Or.inr ⟨rfl, Nat.le_refl _⟩, fun other hother => ?_⟩
        have := hprefers other hother
        omega

/-- The low setting for a divisor, of a processor with some steps and a default frequency. -/
inductive LowSetting (steps : List Nat) (mhz divisor : Nat) : Option Nat → Prop where
  /-- Zero keeps the default, and there may be no step below it. -/
  | keep : divisor = 0 ∨ (∀ step ∈ steps, mhz ≤ step) → LowSetting steps mhz divisor none
  /-- Of the steps below the default, the nearest to the quotient. -/
  | lower {step : Nat} : divisor ≠ 0 → step ∈ steps → step < mhz →
      (∀ other ∈ steps, other < mhz → Prefers (mhz / divisor) step other) →
      LowSetting steps mhz divisor (some step)

theorem LowSetting.unique {steps : List Nat} {mhz divisor : Nat} {target target' : Option Nat}
    (h : LowSetting steps mhz divisor target) (h' : LowSetting steps mhz divisor target') :
    target = target' := by
  cases h with
  | keep hkeep =>
    cases h' with
    | keep => rfl
    | lower hdivisor hmem hlow =>
      rcases hkeep with hzero | hnone
      · exact absurd hzero hdivisor
      · exact absurd (hnone _ hmem) (Nat.not_le.2 hlow)
  | lower hdivisor hmem hlow hprefers =>
    cases h' with
    | keep hkeep =>
      rcases hkeep with hzero | hnone
      · exact absurd hzero hdivisor
      · exact absurd (hnone _ hmem) (Nat.not_le.2 hlow)
    | lower _ hmem' hlow' hprefers' =>
      rw [(hprefers _ hmem' hlow').antisymm (hprefers' _ hmem hlow)]

/-- The search finds the low setting. -/
theorem nearestStep_lowSetting {steps : List Nat} {mhz divisor : Nat} (hdivisor : divisor ≠ 0) :
    LowSetting steps mhz divisor (nearestStep (mhz / divisor) (steps.filter (· < mhz))) := by
  cases hstep : nearestStep (mhz / divisor) (steps.filter (· < mhz)) with
  | none =>
    have hnone := List.filter_eq_nil_iff.1 (nearestStep_eq_none hstep)
    exact .keep (Or.inr fun step hmem => by simpa using hnone step hmem)
  | some step =>
    obtain ⟨hmem, hlow⟩ := List.mem_filter.1 (nearestStep_mem hstep)
    refine .lower hdivisor hmem (by simpa using hlow) fun other hother hbelow => ?_
    exact nearestStep_prefers hstep other (List.mem_filter.2 ⟨hother, by simpa using hbelow⟩)

/-- The answer is not another list of steps. -/
def Effect.offers (steps : List Nat) : (op : Effect) → op.Answer → Bool
  | .cpu .lowSteps, answer => answer = steps
  | _, _ => true

/-- The processor always has the same low steps. -/
def Trace.Offers (steps : List Nat) (t : Trace Node) : Prop :=
  ∀ step ∈ t, Effect.offers steps step.1 step.2 = true

instance (steps : List Nat) (t : Trace Node) : Decidable (Trace.Offers steps t) :=
  inferInstanceAs (Decidable (∀ step ∈ t, Effect.offers steps step.1 step.2 = true))

@[simp] theorem Trace.offers_append {steps : List Nat} {t₁ t₂ : Trace Node} :
    Trace.Offers steps (t₁ ++ t₂) ↔ Trace.Offers steps t₁ ∧ Trace.Offers steps t₂ :=
  List.forall_mem_append

/-- There is a processor for every program that asks for nothing else, whether it accepts changes of
its frequency or not. -/
theorem Pace.exists_ends {α : Type} {act : Act α}
    (h : act.Asks (Effect.Of [.note, .clock, .processor])) (steps : List Nat) (p : Pace)
    (accept : Bool) : ∃ t a p', act.Ends t a ∧ t.Offers steps ∧ p.follow t = some p' ∧
      ∀ step ∈ t, step.1.kind = .clock → Effect.accepted step.1 step.2 = accept := by
  induction act generalizing p with
  | pure a => exact ⟨[], a, p, .pure a, by simp [Trace.Offers], rfl, by simp⟩
  | ask op rest ih =>
    obtain ⟨hop, hrest⟩ := h
    have hanswer : ∃ (answer : op.Answer) (p₁ : Pace), p.next? op answer = some p₁ ∧
        Effect.offers steps op answer = true ∧
        (op.kind = .clock → Effect.accepted op answer = accept) := by
      cases op with
      | log => exact ⟨(), p, rfl, rfl, by simp⟩
      | count tally => exact ⟨(), p, rfl, rfl, by cases htally : tally.isFailure <;> simp [htally]⟩
      | counters => exact ⟨{}, p, rfl, rfl, by simp⟩
      | cpu call =>
        cases call with
        | currentMhz => exact ⟨p.mhz, p, if_pos rfl, rfl, by simp⟩
        | lowSteps => exact ⟨steps, p, rfl, by simp [Effect.offers], by simp⟩
        | setMhz mhz => exact ⟨accept, _, rfl, rfl, fun _ => rfl⟩
      | net call => cases call <;> simp at hop
      | radio call => cases call <;> simp at hop
      | now | takeEvents | meter | pause | utc => simp at hop
    obtain ⟨answer, p₁, hnext, hoffers, haccepted⟩ := hanswer
    obtain ⟨t, a, p', hends, hsteps, hfollow, hall⟩ := ih answer (hrest answer) p₁
    refine ⟨⟨op, answer⟩ :: t, a, p', Prog.ends_ask.2 ⟨answer, t, rfl, hends⟩, ?_, ?_, ?_⟩
    · exact List.forall_mem_cons.2 ⟨hoffers, hsteps⟩
    · exact Option.bind_eq_some_iff.2 ⟨p₁, hnext, hfollow⟩
    · exact List.forall_mem_cons.2 ⟨haccepted, hall⟩

/-- Some frequency is asked for. -/
def Trace.asksSpeed (t : Trace Node) : Bool := t.any fun step => step.1.kind = .clock

theorem Trace.asksSpeed_append {t₁ t₂ : Trace Node} :
    Trace.asksSpeed (t₁ ++ t₂) = (t₁.asksSpeed || t₂.asksSpeed) :=
  List.any_append

theorem Trace.Of.asksSpeed {kinds : List Effect.Kind} {t : Trace Node} (h : t.Of kinds)
    (hclock : .clock ∉ kinds) : t.asksSpeed = false := by
  refine List.any_eq_false.2 fun step hstep => ?_
  rw [decide_eq_true_eq]
  exact h.kind_ne hclock step hstep

/-- The frequencies that may be in force. -/
def Allowed (steps : List Nat) (mhz frequency : Nat) : Prop :=
  frequency = mhz ∨ frequency ∈ steps ∧ frequency < mhz

theorem LowSetting.allowed {steps : List Nat} {mhz divisor target : Nat}
    (h : LowSetting steps mhz divisor (some target)) :
    Allowed steps mhz target ∧ target < mhz := by
  cases h with
  | lower _ hmem hlow => exact ⟨Or.inr ⟨hmem, hlow⟩, hlow⟩

namespace SpeedController

variable {steps : List Nat} {c c' : SpeedController} {p p' : Pace} {t : Trace Node} {now : Instant}
  {divisor : Nat} {books : Bool}

theorem lowTarget_lowSetting {target : Option Nat} (h : (c.lowTarget divisor).Ends t target)
    (hsteps : t.Offers steps) : LowSetting steps c.defaultMhz divisor target := by
  simp only [lowTarget] at h
  split at h
  next hzero =>
    obtain ⟨rfl, rfl⟩ := Prog.ends_pure.1 h
    exact .keep (Or.inl hzero)
  next hdivisor =>
    obtain ⟨offered, hasked, rfl⟩ := Prog.ends_bind_pure.1 h
    cases Prog.ends_perform.1 hasked
    obtain rfl : offered = steps := by simpa [Trace.Offers, Effect.offers] using hsteps
    exact nearestStep_lowSetting hdivisor

theorem lowTarget_iff {target : Option Nat} :
    (∃ t, (c.lowTarget divisor).Ends t target ∧ t.Offers steps) ↔
      LowSetting steps c.defaultMhz divisor target := by
  constructor
  · rintro ⟨t, h, hsteps⟩
    exact lowTarget_lowSetting h hsteps
  · intro htarget
    have hkinds : Prog.Asks (Effect.Of [.note, .clock, .processor]) (c.lowTarget divisor) :=
      lowTarget_kinds (by decide)
    obtain ⟨t, target', -, h, hsteps, -⟩ := Pace.exists_ends hkinds steps { mhz := 0 } true
    rw [htarget.unique (lowTarget_lowSetting h hsteps)]
    exact ⟨t, h, hsteps⟩

/-! ## What a call does -/

/-- What a call comes to: whether it books the time, what the processor is asked, and what becomes
of the processor and of the controller. -/
inductive Turn (steps : List Nat) (c : SpeedController) (p : Pace) (now : Instant) :
    Bool → Trace Node → Pace → SpeedController → Prop where
  /-- There is nothing to do. -/
  | still {t : Trace Node} : t.Of [.processor] → Turn steps c p now false t p c
  /-- The time is booked, and that is all. -/
  | booked {t : Trace Node} : t.Of [.processor] →
      Turn steps c p now true t p (c.book now (p.mhz == c.defaultMhz))
  /-- The time is booked, and then the processor is asked for another frequency. -/
  | asked {before behind : Trace Node} {target : Nat} {accepted : Bool} :
      before.Of [.processor] → behind.Of [.note] → Allowed steps c.defaultMhz target →
      p.mhz ≠ target →
      Turn steps c p now true (before ++ ⟨.cpu (.setMhz target), accepted⟩ :: behind)
        (if accepted then { mhz := target } else { p with refused := true })
        (if accepted then (c.book now (p.mhz == c.defaultMhz)).addSwitch
          else c.book now (p.mhz == c.defaultMhz))

/-- More may be asked before it. -/
theorem Turn.prepend {t₁ : Trace Node} (h : Turn steps c p now books t p' c')
    (hof : t₁.Of [.processor]) : Turn steps c p now books (t₁ ++ t) p' c' := by
  cases h with
  | still hrest => exact .still (Trace.of_append.2 ⟨hof, hrest⟩)
  | booked hrest => exact .booked (Trace.of_append.2 ⟨hof, hrest⟩)
  | asked hbefore hbehind hallowed hother =>
    rw [← List.append_assoc]
    exact .asked (Trace.of_append.2 ⟨hof, hbefore⟩) hbehind hallowed hother

/-- A switch to a frequency that is not in force says whether it is in force now. -/
theorem switchTo_turn {target : Nat} {res : Bool × SpeedController}
    (h : (c.switchTo target now).Ends t res) (hp : p.follow t = some p')
    (hallowed : Allowed steps c.defaultMhz target) (hother : p.mhz ≠ target) :
    Turn steps c p now true t p' res.2 ∧ t.asksSpeed = true ∧ (res.1 = true ↔ p'.mhz = target) := by
  obtain ⟨source, atDefault, t₁, t₂, behind, rfl, hsource, hasked, hbehind, hres⟩ :=
    switchTo_parts h
  obtain ⟨accepted, c'⟩ := res
  obtain ⟨-, rfl⟩ := switchTo_follow h hp
  obtain ⟨p₁, hbefore, -⟩ := Pace.follow_append.1 hp
  obtain ⟨p₂, hp₁, hp₂⟩ := Pace.follow_append.1 hbefore
  obtain ⟨rfl, -⟩ := currentMhz_follow hsource hp₁
  obtain ⟨-, hdefault⟩ := isDefault_follow hasked hp₂
  obtain rfl : atDefault = (p₂.mhz == c.defaultMhz) := by
    rw [Bool.eq_iff_iff, hdefault, beq_iff_eq]
  have hof : Trace.Of [.processor] (t₁ ++ t₂) :=
    Trace.of_append.2 ⟨hsource.of (by simp), hasked.of (isDefault_kinds (List.Subset.refl _))⟩
  refine ⟨?_, by simp [Trace.asksSpeed], ?_⟩
  · rw [hres]
    exact .asked hof hbehind hallowed hother
  · cases accepted with
    | true => simp
    | false => simpa using hother

theorem setDefault_turn {res : Bool × SpeedController} (h : (c.setDefault now).Ends t res)
    (hp : p.follow t = some p') :
    Turn steps c p now t.asksSpeed t p' res.2 ∧ (res.1 = true ↔ p'.mhz = c.defaultMhz) := by
  refine ⟨?_, (setDefault_follow h hp).2.1⟩
  obtain ⟨t₁, atDefault, t₂, hasked, hrest, rfl⟩ := Prog.ends_bind.1 h
  obtain ⟨p₁, hp₁, hp₂⟩ := Pace.follow_append.1 hp
  have hof : t₁.Of [.processor] := hasked.of (isDefault_kinds (List.Subset.refl _))
  obtain ⟨rfl, hdefault⟩ := isDefault_follow hasked hp₁
  split at hrest
  next =>
    obtain ⟨rfl, rfl⟩ := Prog.ends_pure.1 hrest
    cases Option.some.inj hp₂
    rw [List.append_nil, hof.asksSpeed (by decide)]
    exact .still hof
  next hlow =>
    have hallowed : Allowed steps c.defaultMhz c.defaultMhz := Or.inl rfl
    obtain ⟨hturn, hasks, -⟩ := switchTo_turn hrest hp₂ hallowed (mt hdefault.2 hlow)
    have hall : Trace.asksSpeed (t₁ ++ t₂) = true := by
      rw [Trace.asksSpeed_append, hasks, Bool.or_true]
    rw [hall]
    exact hturn.prepend hof

theorem setLow_turn {res : Bool × SpeedController} (h : (c.setLow divisor now).Ends t res)
    (hsteps : t.Offers steps) (hp : p.follow t = some p') :
    Turn steps c p now t.asksSpeed t p' res.2 ∧ (res.1 = true ↔
      ∃ target, LowSetting steps c.defaultMhz divisor (some target) ∧ p'.mhz = target) := by
  obtain ⟨t₁, target, t₂, hasked, hrest, rfl⟩ := Prog.ends_bind.1 h
  obtain ⟨p₁, hp₁, hp₂⟩ := Pace.follow_append.1 hp
  obtain ⟨hsteps₁, -⟩ := Trace.offers_append.1 hsteps
  have hof : t₁.Of [.processor] := hasked.of (lowTarget_kinds (List.Subset.refl _))
  have hlow := lowTarget_lowSetting hasked hsteps₁
  obtain rfl := Pace.follow_of hof (by decide) hp₁
  cases target with
  | none =>
    obtain ⟨rfl, rfl⟩ := Prog.ends_pure.1 hrest
    cases Option.some.inj hp₂
    rw [List.append_nil, hof.asksSpeed (by decide)]
    refine ⟨.still hof, iff_of_false Bool.false_ne_true ?_⟩
    rintro ⟨target, htarget, -⟩
    cases hlow.unique htarget
  | some target =>
    have hin : (∃ target', LowSetting steps c.defaultMhz divisor (some target') ∧
        p'.mhz = target') ↔ p'.mhz = target := by
      constructor
      · rintro ⟨target', htarget', hin⟩
        rwa [Option.some.inj (hlow.unique htarget')]
      · intro hin
        exact ⟨target, hlow, hin⟩
    obtain ⟨t₃, mhz, t₄, hmhz, hswitch, rfl⟩ := Prog.ends_bind.1 hrest
    obtain ⟨p₃, hp₃, hp₄⟩ := Pace.follow_append.1 hp₂
    have hof₃ : t₃.Of [.processor] := hmhz.of (by simp)
    obtain ⟨rfl, rfl⟩ := currentMhz_follow hmhz hp₃
    rw [hin, ← List.append_assoc]
    split at hswitch
    next hthere =>
      obtain ⟨rfl, rfl⟩ := Prog.ends_pure.1 hswitch
      cases Option.some.inj hp₄
      rw [List.append_nil, (Trace.of_append.2 ⟨hof, hof₃⟩).asksSpeed (by decide)]
      exact ⟨.still (Trace.of_append.2 ⟨hof, hof₃⟩), iff_of_true rfl hthere⟩
    next hother =>
      obtain ⟨hturn, hasks, hanswer⟩ := switchTo_turn hswitch hp₄ hlow.allowed.1 hother
      rw [Trace.asksSpeed_append, hasks, Bool.or_true]
      exact ⟨hturn.prepend (Trace.of_append.2 ⟨hof, hof₃⟩), hanswer⟩

theorem account_turn (h : (c.account now).Ends t c') (hp : p.follow t = some p') :
    Turn steps c p now true t p' c' := by
  obtain ⟨atDefault, hasked, rfl⟩ := Prog.ends_bind_pure.1 h
  obtain ⟨rfl, hdefault⟩ := isDefault_follow hasked hp
  obtain rfl : atDefault = (p'.mhz == c.defaultMhz) := by
    rw [Bool.eq_iff_iff, hdefault, beq_iff_eq]
  exact .booked (hasked.of (isDefault_kinds (List.Subset.refl _)))

end SpeedController

/-! ## The calls -/

/-- A call of the controller. -/
inductive SpeedCall where
  | setDefault
  | setLow (divisor : Nat)
  | account
  | stats

/-- What a call answers. -/
inductive SpeedAnswer where
  | done
  /-- Whether the frequency that was asked for is in force. -/
  | inForce (yes : Bool)
  | shown (stats : ClockStats)

namespace SpeedCall

variable {steps : List Nat} {c c' : SpeedController} {p p' : Pace} {t : Trace Node} {now : Instant}
  {call : SpeedCall} {answer : SpeedAnswer}

/-- Make a call. -/
def perform (call : SpeedCall) (c : SpeedController) (now : Instant) :
    Act (SpeedAnswer × SpeedController) :=
  match call with
  | .setDefault => do
      let (yes, c) ← c.setDefault now
      return (.inForce yes, c)
  | .setLow divisor => do
      let (yes, c) ← c.setLow divisor now
      return (.inForce yes, c)
  | .account => do
      let c ← c.account now
      return (.done, c)
  | .stats => do
      let c ← c.account now
      return (.shown c.stats, c)

/-- The call books the time: it is made for that, or it has asked for another frequency. -/
def books : SpeedCall → Trace Node → Bool
  | .account, _ | .stats, _ => true
  | .setDefault, t | .setLow _, t => t.asksSpeed

/-- What a call has to answer: for a setting, whether the processor runs at it now. -/
def Answers (steps : List Nat) (mhz : Nat) (p : Pace) (c : SpeedController) :
    SpeedCall → SpeedAnswer → Prop
  | .setDefault, .inForce yes => yes = true ↔ p.mhz = mhz
  | .setLow divisor, .inForce yes =>
      yes = true ↔ ∃ target, LowSetting steps mhz divisor (some target) ∧ p.mhz = target
  | .account, .done => True
  | .stats, .shown shown => shown = c.stats
  | _, _ => False

theorem perform_kinds :
    (call.perform c now).Asks (Effect.Of [.note, .clock, .processor]) := by
  have hkinds := List.Subset.refl [Effect.Kind.note, .clock, .processor]
  cases call with
  | setDefault => simp [perform, SpeedController.setDefault_kinds hkinds]
  | setLow divisor => simp [perform, SpeedController.setLow_kinds hkinds]
  | account | stats => simp [perform, SpeedController.account, SpeedController.isDefault]

/-- A call comes to a turn and answers as it has to. -/
theorem turn (h : (call.perform c now).Ends t (answer, c')) (hsteps : t.Offers steps)
    (hp : p.follow t = some p') :
    c.Turn steps p now (call.books t) t p' c' ∧ call.Answers steps c.defaultMhz p' c' answer := by
  cases call with
  | setDefault =>
    obtain ⟨res, hset, hres⟩ := Prog.ends_bind_pure.1 h
    cases hres
    exact SpeedController.setDefault_turn hset hp
  | setLow divisor =>
    obtain ⟨res, hset, hres⟩ := Prog.ends_bind_pure.1 h
    cases hres
    exact SpeedController.setLow_turn hset hsteps hp
  | account =>
    obtain ⟨c₁, haccount, hres⟩ := Prog.ends_bind_pure.1 h
    cases hres
    exact ⟨SpeedController.account_turn haccount hp, trivial⟩
  | stats =>
    obtain ⟨c₁, haccount, hres⟩ := Prog.ends_bind_pure.1 h
    cases hres
    exact ⟨SpeedController.account_turn haccount hp, rfl⟩

end SpeedCall

end MeterNode
