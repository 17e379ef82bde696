import MeterNode.Proofs.Kinds
import MeterNode.Radio.Controller

/-!
# The link of a powered radio

The controller has the radio powered exactly while its link is not off (`RadioController.Powered`).
Bringing the link up ends with a link that is up or with a radio that is off (`Raised`), and so does
shutting it down.  Only a question for the link leaves a powered radio with a link that is not up,
and only if the radio says so (`Asked`): the link was lost, and is connecting again.

`Trace.LinkHeld` says that the radio never said so.
-/

namespace MeterNode

/-- The answer is not that the link is down. -/
def Effect.linked : (op : Effect) → op.Answer → Bool
  | .radio .status, status => status = .up
  | _, _ => true

/-- Whenever the radio was asked for its link, the link was up. -/
def Trace.LinkHeld (t : Trace Node) : Prop := ∀ step ∈ t, Effect.linked step.1 step.2 = true

instance (t : Trace Node) : Decidable (Trace.LinkHeld t) :=
  inferInstanceAs (Decidable (∀ step ∈ t, Effect.linked step.1 step.2 = true))

@[simp] theorem Trace.linkHeld_append {t₁ t₂ : Trace Node} :
    Trace.LinkHeld (t₁ ++ t₂) ↔ Trace.LinkHeld t₁ ∧ Trace.LinkHeld t₂ :=
  List.forall_mem_append

namespace RadioController

variable {r r' : RadioController} {t : Trace Node}

/-- The radio is powered unless its link is off. -/
def Powered (r : RadioController) : Prop := r.initialized = true ↔ r.phase ≠ .off

/-- The link was brought up, or the radio is off. -/
def Raised (up : Bool) (r : RadioController) : Prop :=
  r.initialized = up ∧ r.phase = if up then .up else .off

theorem Raised.powered {up : Bool} (h : Raised up r) : r.Powered := by
  rw [Powered, h.1, h.2]
  cases up <;> decide

theorem Raised.phase_ne {up : Bool} (h : Raised up r) : r.phase ≠ .connecting := by
  rw [h.2]
  cases up <;> decide

theorem Powered.phase_off (h : r.Powered) (hoff : r.initialized = false) : r.phase = .off := by
  refine Decidable.not_not.1 fun hphase => ?_
  rw [h.2 hphase] at hoff
  cases hoff

theorem note_gives {event : LinkEvent} (h : (r.note event).Gives r') :
    r' = { r with link := r.link.step event } := by
  simp only [note] at h
  split at h
  next =>
    obtain ⟨_, -, h⟩ := Act.gives_bind.1 h
    exact Act.gives_pure.1 h
  next => exact Act.gives_pure.1 h

/-! ## Asking -/

/-- What comes of a question for the link: the radio is off, or the link is up as far as the radio
says, or it was lost. -/
inductive Asked (r : RadioController) (t : Trace Node) : Bool × RadioController → Prop where
  | off : r.initialized = false → Asked r t (false, r)
  | up : r.initialized = true → Asked r t (true, r)
  | lost {r' : RadioController} : r'.initialized = true → r'.phase = .connecting → ¬ t.LinkHeld →
      Asked r t (false, r')

theorem isConnected_asked {res : Bool × RadioController} (hr : r.Powered)
    (h : r.isConnected.Ends t res) : Asked r t res := by
  obtain ⟨t₁, status, t₂, hstatus, h₂, rfl⟩ := Prog.ends_bind.1 h
  obtain ⟨t₃, _, t₄, -, h₄, rfl⟩ := Prog.ends_bind.1 h₂
  cases hinit : r.initialized with
  | false =>
    rw [linkStatus, hinit] at hstatus
    obtain ⟨-, rfl⟩ := Prog.ends_pure.1 hstatus
    have hphase : r.phase ≠ .up := by
      rw [hr.phase_off hinit]
      decide
    rw [if_neg (by simpa using hphase)] at h₄
    obtain ⟨-, rfl⟩ := Prog.ends_pure.1 h₄
    exact .off hinit
  | true =>
    rw [linkStatus, hinit] at hstatus
    have ht₁ : t₁ = [⟨.radio .status, status⟩] := Prog.ends_perform.1 hstatus
    by_cases hup : status = .up
    · rw [if_neg (by simp [hup])] at h₄
      obtain ⟨-, rfl⟩ := Prog.ends_pure.1 h₄
      rw [decide_eq_true hup]
      exact .up hinit
    · have hlost : ¬ Trace.LinkHeld (t₁ ++ (t₃ ++ t₄)) := fun hheld => by
        refine hup (of_decide_eq_true (hheld ⟨.radio .status, status⟩ ?_))
        simp [ht₁]
      split at h₄
      next hbefore =>
        obtain ⟨_, _, _, -, h₅, rfl⟩ := Prog.ends_bind.1 h₄
        obtain ⟨_, now, _, -, h₆, rfl⟩ := Prog.ends_bind.1 h₅
        obtain ⟨_, r₁, _, hnote, h₇, rfl⟩ := Prog.ends_bind.1 h₆
        obtain ⟨_, -, rfl⟩ := Prog.ends_bind_pure.1 h₇
        obtain rfl : r₁ = _ := note_gives hnote.gives
        have hphase : r.phase = .up := by simpa [hup] using hbefore
        rw [phase] at hphase
        refine .lost hinit ?_ hlost
        simp [phase, RadioLink.step, RadioLink.enter, hphase]
      next hbefore =>
        obtain ⟨-, rfl⟩ := Prog.ends_pure.1 h₄
        have hnotup : r.phase ≠ .up := by simpa [hup] using hbefore
        have hnotoff : r.phase ≠ .off := hr.1 hinit
        rw [decide_eq_false hup]
        refine .lost hinit ?_ hlost
        cases hphase : r.phase with
        | off => exact absurd hphase hnotoff
        | connecting => rfl
        | up => exact absurd hphase hnotup

theorem Asked.powered {res : Bool × RadioController} (h : Asked r t res) (hr : r.Powered) :
    res.2.Powered := by
  cases h with
  | off | up => exact hr
  | lost hinit hphase =>
    rw [Powered, hinit, hphase]
    decide

/-- A link that was not lost is not lost by a question that the radio answers with up. -/
theorem Asked.held {res : Bool × RadioController} (h : Asked r t res)
    (hphase : r.phase ≠ .connecting) (hheld : t.LinkHeld) : res.2.phase ≠ .connecting := by
  cases h with
  | off | up => exact hphase
  | lost _ _ hlost => exact absurd hheld hlost

/-- A question does not bring a link up. -/
theorem Asked.phase_ne_up {res : Bool × RadioController} (h : Asked r t res)
    (hphase : r.phase ≠ .up) : res.2.phase ≠ .up := by
  cases h with
  | off | up => exact hphase
  | lost _ hconnecting =>
    rw [hconnecting]
    decide

/-- Behind a question that was not answered with up, the link is not up. -/
theorem Asked.down (h : Asked r t (false, r')) (hr : r.Powered) : r'.phase ≠ .up := by
  cases h with
  | off hinit =>
    rw [hr.phase_off hinit]
    decide
  | lost _ hconnecting =>
    rw [hconnecting]
    decide

/-! ## Switching -/

/-- Shutting down a radio that is powered is an event of its link. -/
theorem disable_gives (h : r.disable.Gives r') : r.initialized = false ∧ r' = r ∨
    ∃ now, r' = { r with link := r.link.step (.powerOff now), initialized := false } := by
  simp only [disable] at h
  split at h
  next hinit =>
    rw [Bool.not_eq_true'] at hinit
    exact Or.inl ⟨hinit, Act.gives_pure.1 h⟩
  next =>
    simp only [Act.gives_bind, Act.gives_pure] at h
    obtain ⟨_, -, now, -, r₁, hnote, _, -, _, -, rfl⟩ := h
    obtain rfl : r₁ = _ := note_gives hnote
    exact Or.inr ⟨now, rfl⟩

theorem disable_raised (hr : r.Powered) (h : r.disable.Gives r') : Raised false r' := by
  rcases disable_gives h with ⟨hinit, rfl⟩ | ⟨now, rfl⟩
  · exact ⟨hinit, hr.phase_off hinit⟩
  · refine ⟨rfl, ?_⟩
    cases hphase : r.link.phase <;> simp [phase, RadioLink.step, RadioLink.enter, hphase]

/-- What comes of up to a number of joins: one of them works, or all of them fail and the radio is
shut down. -/
inductive Joins : Nat → RadioController → Bool × RadioController → Prop where
  | gaveUp {r r' : RadioController} : r.disable.Gives r' → Joins 0 r (false, r')
  | joined {left : Nat} {r : RadioController} {now : Instant} :
      Joins (left + 1) r (true, { r with link := r.link.step (.joined now) })
  | failed {left : Nat} {r : RadioController} {res : Bool × RadioController} :
      Joins left { r with link := r.link.step .joinFailed } res → Joins (left + 1) r res

theorem joinTries_gives {tries left : Nat} {cause : RadioError} {res : Bool × RadioController}
    (h : (joinTries tries left cause r).Gives res) : Joins left r res := by
  induction left generalizing r cause with
  | zero =>
    simp only [joinTries, giveUp, Act.gives_bind, Act.gives_pure] at h
    obtain ⟨r', ⟨_, -, _, -, hdisable⟩, rfl⟩ := h
    exact .gaveUp hdisable
  | succ left ih =>
    obtain ⟨result, -, h⟩ := Act.gives_bind.1 h
    cases result with
    | ok u =>
      simp only [Act.gives_bind, Act.gives_pure] at h
      obtain ⟨now, -, r', hnote, _, -, _, -, _, -, rfl⟩ := h
      obtain rfl : r' = _ := note_gives hnote
      exact .joined
    | error cause =>
      obtain ⟨r', hnote, h⟩ := Act.gives_bind.1 h
      obtain ⟨_, -, h⟩ := Act.gives_bind.1 h
      obtain rfl : r' = _ := note_gives hnote
      refine .failed ?_
      split at h
      next =>
        obtain ⟨_, -, h⟩ := Act.gives_bind.1 h
        exact ih h
      next => exact ih h

theorem Joins.raised {left : Nat} {res : Bool × RadioController} (h : Joins left r res)
    (hinit : r.initialized = true) (hphase : r.phase = .connecting) : Raised res.1 res.2 := by
  induction h with
  | @gaveUp r r' hdisable =>
    refine disable_raised ?_ hdisable
    rw [Powered, hinit, hphase]
    decide
  | joined =>
    rw [phase] at hphase
    exact ⟨hinit, by simp [phase, RadioLink.step, RadioLink.enter, hphase]⟩
  | failed _ ih =>
    rw [phase] at hphase
    exact ih hinit (by simp [phase, RadioLink.step, hphase])

/-- A radio that is powered up or was powered before. -/
theorem powerUp_gives {res : Bool × RadioController} (h : r.powerUp.Gives res) :
    res = (true, { r with initialized := true }) ∨ r.initialized = false ∧ res = (false, r) := by
  simp only [powerUp] at h
  split at h
  next hinit =>
    simp only [Act.gives_bind, Act.gives_pure] at h
    obtain ⟨_, -, _, -, rfl⟩ := h
    exact Or.inl (by rw [← hinit])
  next hinit =>
    obtain ⟨result, -, h⟩ := Act.gives_bind.1 h
    cases result with
    | ok u => exact Or.inl (Act.gives_pure.1 h)
    | error cause =>
      simp only [Act.gives_bind, Act.gives_pure] at h
      obtain ⟨_, -, _, -, rfl⟩ := h
      exact Or.inr ⟨Bool.eq_false_iff.2 hinit, rfl⟩

/-- What is asked before the link is brought up.  If the link is not up already, it is not up at
all. -/
theorem alreadyUp_gives {res : Bool × RadioController} (hr : r.Powered)
    (h : r.alreadyUp.Gives res) :
    Raised true res.2 ∧ res.1 = true ∨ res.2.Powered ∧ res.2.phase ≠ .up ∧ res.1 = false := by
  simp only [alreadyUp] at h
  split at h
  next hup =>
    obtain ⟨hinit, hphase⟩ : r.initialized = true ∧ r.phase = .up := by simpa using hup
    obtain ⟨t, h⟩ := h
    have hasked := isConnected_asked hr h
    have hpowered := hasked.powered hr
    cases hasked with
    | off hoff =>
      rw [hinit] at hoff
      cases hoff
    | up => exact Or.inl ⟨⟨hinit, hphase⟩, rfl⟩
    | lost _ hconnecting => exact Or.inr ⟨hpowered, by simp [hconnecting], rfl⟩
  next hdown =>
    obtain rfl : res = _ := Act.gives_pure.1 h
    refine Or.inr ⟨hr, fun hphase => hdown ?_, rfl⟩
    have hinit : r.initialized = true := hr.2 (by simp [show r.phase = .up from hphase])
    simpa using ⟨hinit, hphase⟩

theorem enable_raised {retries : Nat} {res : Bool × RadioController} (hr : r.Powered)
    (h : (r.enable retries).Gives res) : Raised res.1 res.2 := by
  obtain ⟨⟨up, r₁⟩, halready, h₁⟩ := Act.gives_bind.1 h
  rcases alreadyUp_gives hr halready with ⟨hraised, rfl⟩ | ⟨hpowered, hnotup, rfl⟩
  · obtain ⟨_, -, h₂⟩ := Act.gives_bind.1 h₁
    rw [Act.gives_pure.1 h₂]
    exact hraised
  · obtain ⟨_, -, h₂⟩ := Act.gives_bind.1 h₁
    obtain ⟨⟨powered, r₂⟩, hpower, h₃⟩ := Act.gives_bind.1 h₂
    rcases powerUp_gives hpower with hon | ⟨hoff, hstill⟩
    · cases hon
      obtain ⟨now, -, h₄⟩ := Act.gives_bind.1 h₃
      obtain ⟨r₃, hnote, h₅⟩ := Act.gives_bind.1 h₄
      obtain rfl : r₃ = _ := note_gives hnote
      refine (joinTries_gives h₅).raised rfl ?_
      cases hphase : r₁.link.phase with
      | off | connecting => simp [phase, RadioLink.step, RadioLink.enter, hphase]
      | up => exact absurd hphase hnotup
    · cases hstill
      rw [Act.gives_pure.1 h₃]
      exact ⟨hoff, hpowered.phase_off hoff⟩

end RadioController

end MeterNode
