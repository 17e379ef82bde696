import MeterNode.Proofs.Devices

/-!
# The processor through a run

`Pace.follow` goes through a trace of the node together with the processor.  The processor changes
its frequency when it is asked to and accepts, and not otherwise, and it always says which frequency
is in force; a trace in which it says anything else leads nowhere.

The lemmas `..._follow` say what becomes of the processor in the programs of the speed controller.
-/

namespace MeterNode

/-- A processor: the frequency in force, and whether it refused the last change. -/
structure Pace where
  mhz : Nat
  refused : Bool := false
deriving DecidableEq

namespace Pace

/-- The processor behind an operation, unless it does not say which frequency is in force. -/
def next? (p : Pace) : (op : Effect) → op.Answer → Option Pace
  | .cpu .currentMhz, mhz => if mhz = p.mhz then some p else none
  | .cpu (.setMhz mhz), accepted =>
      some (if accepted then { mhz } else { p with refused := true })
  | _, _ => some p

/-- The processor behind a trace. -/
def follow : Pace → Trace Node → Option Pace
  | p, [] => some p
  | p, ⟨op, answer⟩ :: t => (p.next? op answer).bind fun p => p.follow t

variable {p p' : Pace} {t t₁ t₂ : Trace Node} {kinds : List Effect.Kind}

theorem follow_append :
    p.follow (t₁ ++ t₂) = some p' ↔ ∃ p₁, p.follow t₁ = some p₁ ∧ p₁.follow t₂ = some p' := by
  induction t₁ generalizing p with
  | nil => simp [follow]
  | cons step t ih =>
    obtain ⟨op, answer⟩ := step
    constructor
    · intro h
      obtain ⟨p₂, hnext, hrest⟩ := Option.bind_eq_some_iff.1 h
      obtain ⟨p₁, hp₁, hp'⟩ := ih.1 hrest
      exact ⟨p₁, Option.bind_eq_some_iff.2 ⟨p₂, hnext, hp₁⟩, hp'⟩
    · rintro ⟨p₁, h, hp'⟩
      obtain ⟨p₂, hnext, hp₁⟩ := Option.bind_eq_some_iff.1 h
      exact Option.bind_eq_some_iff.2 ⟨p₂, hnext, ih.2 ⟨p₁, hp₁, hp'⟩⟩

/-- Only changes of the frequency change the processor. -/
theorem follow_of (h : t.Of kinds) (hclock : .clock ∉ kinds) (hp : p.follow t = some p') :
    p' = p := by
  induction t generalizing p with
  | nil => exact (Option.some.inj hp).symm
  | cons step t ih =>
    obtain ⟨op, answer⟩ := step
    obtain ⟨hop, ht⟩ := List.forall_mem_cons.1 h
    obtain ⟨p₁, hnext, hrest⟩ := Option.bind_eq_some_iff.1 hp
    rw [ih ht hrest]
    cases op with
    | cpu call =>
      cases call with
      | currentMhz =>
        simp only [next?] at hnext
        split at hnext
        · exact (Option.some.inj hnext).symm
        · cases hnext
      | lowSteps => exact (Option.some.inj hnext).symm
      | setMhz mhz => exact absurd hop hclock
    | log | count | counters | now | net | takeEvents | radio | meter | pause | utc =>
      exact (Option.some.inj hnext).symm

/-- In particular it is the same all along. -/
theorem follow_take (h : t.Of kinds) (hclock : .clock ∉ kinds) (hp : p.follow t = some p')
    (n : Nat) : p.follow (t.take n) = some p := by
  rw [← List.take_append_drop n t] at h hp
  obtain ⟨p₁, hp₁, -⟩ := follow_append.1 hp
  rw [hp₁, follow_of (Trace.of_append.1 h).1 hclock hp₁]

end Pace

/-- The answer is not the refusal of a frequency. -/
def Effect.accepted : (op : Effect) → op.Answer → Bool
  | .cpu (.setMhz _), accepted => accepted
  | _, _ => true

/-- The processor accepted every change of its frequency. -/
def Trace.Obeyed (t : Trace Node) : Prop := ∀ step ∈ t, Effect.accepted step.1 step.2 = true

instance (t : Trace Node) : Decidable (Trace.Obeyed t) :=
  inferInstanceAs (Decidable (∀ step ∈ t, Effect.accepted step.1 step.2 = true))

@[simp] theorem Trace.obeyed_append {t₁ t₂ : Trace Node} :
    Trace.Obeyed (t₁ ++ t₂) ↔ Trace.Obeyed t₁ ∧ Trace.Obeyed t₂ :=
  List.forall_mem_append

namespace Pace

variable {p p' : Pace} {t : Trace Node}

theorem follow_obeyed (hobeyed : t.Obeyed) (hbefore : p.refused = false)
    (hp : p.follow t = some p') : p'.refused = false := by
  induction t generalizing p with
  | nil => rwa [← Option.some.inj hp]
  | cons step t ih =>
    obtain ⟨op, answer⟩ := step
    obtain ⟨hop, ht⟩ := List.forall_mem_cons.1 hobeyed
    obtain ⟨p₁, hnext, hrest⟩ := Option.bind_eq_some_iff.1 hp
    refine ih ht ?_ hrest
    cases op with
    | cpu call =>
      cases call with
      | currentMhz =>
        simp only [next?] at hnext
        split at hnext
        · rwa [← Option.some.inj hnext]
        · cases hnext
      | lowSteps => rwa [← Option.some.inj hnext]
      | setMhz mhz =>
        cases answer with
        | false => cases hop
        | true =>
          rw [← Option.some.inj hnext]
          rfl
    | log | count | counters | now | net | takeEvents | radio | meter | pause | utc =>
      rwa [← Option.some.inj hnext]

end Pace

/-- A chosen step is one of those there are. -/
theorem nearestStep_mem {wanted step : Nat} {steps : List Nat}
    (h : nearestStep wanted steps = some step) : step ∈ steps := by
  induction steps generalizing step with
  | nil => cases h
  | cons first rest ih =>
    rw [nearestStep] at h
    split at h
    next =>
      cases h
      exact List.mem_cons_self ..
    next best hbest =>
      split at h
      next =>
        cases h
        exact List.mem_cons_of_mem first (ih hbest)
      next =>
        cases h
        exact List.mem_cons_self ..

namespace SpeedController

variable {c c' : SpeedController} {p p' : Pace} {t : Trace Node} {now : Instant} {mhz : Nat}

theorem currentMhz_follow (h : (Act.cpu .currentMhz).Ends t mhz) (hp : p.follow t = some p') :
    p' = p ∧ mhz = p.mhz := by
  cases Prog.ends_perform.1 h
  obtain ⟨p₁, hnext, hrest⟩ := Option.bind_eq_some_iff.1 hp
  simp only [Pace.next?] at hnext
  split at hnext
  next hsame =>
    cases hnext
    exact ⟨(Option.some.inj hrest).symm, hsame⟩
  next => cases hnext

theorem isDefault_follow {answer : Bool} (h : c.isDefault.Ends t answer)
    (hp : p.follow t = some p') : p' = p ∧ (answer = true ↔ p.mhz = c.defaultMhz) := by
  obtain ⟨mhz, hmhz, rfl⟩ := Prog.ends_bind_pure.1 h
  obtain ⟨rfl, rfl⟩ := currentMhz_follow hmhz hp
  exact ⟨rfl, beq_iff_eq⟩

/-- Count a change of the frequency. -/
def addSwitch (c : SpeedController) : SpeedController :=
  { c with stats := { c.stats with switches := min (c.stats.switches + 1) switchesMax } }

/-- The time is booked, the processor is asked for one change, and the change is counted if it is
accepted. -/
theorem switchTo_parts {target : Nat} {res : Bool × SpeedController}
    (h : (c.switchTo target now).Ends t res) :
    ∃ source atDefault t₁ t₂ behind, t = t₁ ++ t₂ ++ ⟨.cpu (.setMhz target), res.1⟩ :: behind ∧
      (Act.cpu .currentMhz).Ends t₁ source ∧ c.isDefault.Ends t₂ atDefault ∧
      Trace.Of [.note] behind ∧
      res.2 = if res.1 then (c.book now atDefault).addSwitch else c.book now atDefault := by
  obtain ⟨t₁, source, u₁, hsource, k₁, rfl⟩ := Prog.ends_bind.1 h
  obtain ⟨t₂, c₁, u₂, haccount, k₂, rfl⟩ := Prog.ends_bind.1 k₁
  obtain ⟨t₃, accepted, t₄, hset, hlog, rfl⟩ := Prog.ends_bind.1 k₂
  obtain ⟨answer, hasked, rfl⟩ := Prog.ends_bind_pure.1 haccount
  cases Prog.ends_perform.1 hset
  cases accepted
  all_goals
    obtain ⟨_, hlogged, rfl⟩ := Prog.ends_bind_pure.1 hlog
    exact ⟨source, answer, t₁, t₂, t₄, by simp, hsource, hasked, hlogged.of (by simp), rfl⟩

/-- The processor is asked for one change, and the default stays. -/
theorem switchTo_ends {target : Nat} {res : Bool × SpeedController}
    (h : (c.switchTo target now).Ends t res) :
    ∃ before behind, t = before ++ ⟨.cpu (.setMhz target), res.1⟩ :: behind ∧
      Trace.Of [.processor] before ∧ Trace.Of [.note] behind ∧ res.2.defaultMhz = c.defaultMhz := by
  obtain ⟨source, atDefault, t₁, t₂, behind, rfl, hsource, hasked, hbehind, hres⟩ :=
    switchTo_parts h
  refine ⟨t₁ ++ t₂, behind, rfl, Trace.of_append.2 ⟨hsource.of (by simp), ?_⟩, hbehind, ?_⟩
  · exact hasked.of (isDefault_kinds (List.Subset.refl _))
  · rw [hres]
    split <;> rfl

/-- A change is accepted or refused, and the default stays. -/
theorem switchTo_follow {target : Nat} {res : Bool × SpeedController}
    (h : (c.switchTo target now).Ends t res) (hp : p.follow t = some p') :
    res.2.defaultMhz = c.defaultMhz ∧
      p' = if res.1 then { mhz := target } else { p with refused := true } := by
  obtain ⟨before, behind, rfl, hbefore, hbehind, hsame⟩ := switchTo_ends h
  obtain ⟨p₁, hp₁, hq₁⟩ := Pace.follow_append.1 hp
  rw [Pace.follow_of hbefore (by decide) hp₁] at hq₁
  exact ⟨hsame, Pace.follow_of hbehind (by decide) hq₁⟩

/-- The answer of `setDefault` is true, and a processor that is not at its default has refused. -/
theorem setDefault_follow {res : Bool × SpeedController} (h : (c.setDefault now).Ends t res)
    (hp : p.follow t = some p') :
    res.2.defaultMhz = c.defaultMhz ∧ (res.1 = true ↔ p'.mhz = c.defaultMhz) ∧
      (res.1 = false → p'.refused = true) := by
  obtain ⟨t₁, atDefault, t₂, h₁, h₂, rfl⟩ := Prog.ends_bind.1 h
  obtain ⟨p₁, hp₁, hp₂⟩ := Pace.follow_append.1 hp
  obtain ⟨rfl, hasked⟩ := isDefault_follow h₁ hp₁
  split at h₂
  next hdefault =>
    obtain ⟨rfl, rfl⟩ := Prog.ends_pure.1 h₂
    cases Option.some.inj hp₂
    exact ⟨rfl, iff_of_true rfl (hasked.1 hdefault), fun hfalse => nomatch hfalse⟩
  next hslow =>
    obtain ⟨hsame, rfl⟩ := switchTo_follow h₂ hp₂
    refine ⟨hsame, ?_⟩
    cases res.1 with
    | true => simp
    | false => simp [mt hasked.2 hslow]

/-- The low setting is below the default. -/
theorem lowTarget_lt {divisor target : Nat} (h : (c.lowTarget divisor).Gives (some target)) :
    target < c.defaultMhz := by
  simp only [lowTarget] at h
  split at h
  next => cases Act.gives_pure.1 h
  next =>
    obtain ⟨steps, -, h⟩ := Act.gives_bind.1 h
    have hmem := nearestStep_mem (Act.gives_pure.1 h).symm
    simpa using (List.mem_filter.1 hmem).2

/-- The answer of `setLow` to a processor at its default is true. -/
theorem setLow_follow {divisor : Nat} {res : Bool × SpeedController}
    (h : (c.setLow divisor now).Ends t res) (hbefore : p.mhz = c.defaultMhz)
    (hp : p.follow t = some p') :
    res.2.defaultMhz = c.defaultMhz ∧ (res.1 = false ↔ p'.mhz = c.defaultMhz) := by
  obtain ⟨t₁, target, t₂, h₁, h₂, rfl⟩ := Prog.ends_bind.1 h
  obtain ⟨p₁, hp₁, hp₂⟩ := Pace.follow_append.1 hp
  have hasked : t₁.Of [.processor] := h₁.of (lowTarget_kinds (List.Subset.refl _))
  rw [Pace.follow_of hasked (by decide) hp₁] at hp₂
  cases target with
  | none =>
    obtain ⟨rfl, rfl⟩ := Prog.ends_pure.1 h₂
    cases Option.some.inj hp₂
    exact ⟨rfl, iff_of_true rfl hbefore⟩
  | some target =>
    have hlow := lowTarget_lt h₁.gives
    obtain ⟨t₃, mhz, t₄, h₃, h₄, rfl⟩ := Prog.ends_bind.1 h₂
    obtain ⟨p₃, hp₃, hp₄⟩ := Pace.follow_append.1 hp₂
    obtain ⟨rfl, rfl⟩ := currentMhz_follow h₃ hp₃
    split at h₄
    next hthere => omega
    next =>
      obtain ⟨hsame, rfl⟩ := switchTo_follow h₄ hp₄
      refine ⟨hsame, ?_⟩
      cases res.1 with
      | true =>
        simp
        omega
      | false => simpa using hbefore

end SpeedController

end MeterNode
