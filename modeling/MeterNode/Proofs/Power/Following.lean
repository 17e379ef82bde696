import MeterNode.Proofs.Power.Hardware

/-!
# The link as it was answered

A link may be lost and come back at any time, and the controller learns of it only by asking.  It
books the loss when a question is answered with down (`isConnected_gives`), but a link that is back
is not booked: only a join leads from connecting to up.

So the phase follows the answers that the controller has given (`told`, `Followed.phase_eq`).  The
link is up from an enable that worked until something is answered with down or the radio is shut
down.  The phase is right behind a question unless the link was lost before and is up again
(`Lost`); then the link is in use, but counted as down and booked as connecting.
-/

namespace MeterNode.RadioController

variable {r r' : RadioController} {t t' : Trace Node} {policy : RadioPolicy}

/-- A question changes nothing, or books the loss of a link that was up. -/
theorem isConnected_gives {res : Bool × RadioController} (h : r.isConnected.Gives res) :
    res.2 = r ∧ (res.1 = false → r.phase ≠ .up) ∧ (res.1 = true → r.initialized = true) ∨
    res.1 = false ∧ r.phase = .up ∧
      ∃ now, res.2 = { r with link := r.link.step (.linkLost now) } := by
  obtain ⟨status, hstatus, h₁⟩ := Act.gives_bind.1 h
  obtain ⟨_, -, h₂⟩ := Act.gives_bind.1 h₁
  split at h₂
  next hlost =>
    simp only [Act.gives_bind, Act.gives_pure] at h₂
    obtain ⟨_, -, now, -, r₁, hnote, _, -, rfl⟩ := h₂
    obtain rfl : r₁ = _ := note_gives hnote
    obtain ⟨-, hup⟩ : status ≠ .up ∧ r.phase = .up := by simpa using hlost
    exact .inr ⟨rfl, hup, now, rfl⟩
  next hkept =>
    obtain rfl : res = _ := Act.gives_pure.1 h₂
    refine .inl ⟨rfl, fun hdown hup => hkept ?_, fun hup => ?_⟩
    · simpa [hup] using hdown
    · simp only [decide_eq_true_eq] at hup
      unfold linkStatus at hstatus
      split at hstatus
      next hinit => exact hinit
      next =>
        rw [Act.gives_pure.1 hstatus] at hup
        cases hup

/-! ## Answers -/

/-- Something that was asked of the controller, and what it answered. -/
inductive Deal where
  | enabled (up : Bool)
  | disabled
  | asked (up : Bool)
deriving DecidableEq

/-- The phase as some answers tell it, the latest of them first. -/
def told : List Deal → LinkPhase
  | [] => .off
  | .enabled up :: _ => if up then .up else .off
  | .disabled :: _ => .off
  | .asked up :: ds => if up = false ∧ told ds = .up then .connecting else told ds

/-- The link was brought up, and since then nothing was done but asking for it, and an answer was
that it is down. -/
def Lost (ds : List Deal) : Prop :=
  ∃ (answers : List Bool) (older : List Deal),
    ds = answers.map .asked ++ .enabled true :: older ∧ false ∈ answers

theorem told_answers (answers : List Bool) (older : List Deal) :
    told (answers.map .asked ++ .enabled true :: older) =
      if false ∈ answers then .connecting else .up := by
  induction answers with
  | nil => rfl
  | cons up answers ih =>
    rw [List.map_cons, List.cons_append, told, ih]
    cases up <;> by_cases hdown : false ∈ answers <;> simp [hdown]

theorem told_off_or_answers (ds : List Deal) : told ds = .off ∨
    ∃ (answers : List Bool) (older : List Deal),
      ds = answers.map .asked ++ .enabled true :: older := by
  induction ds with
  | nil => exact .inl rfl
  | cons d ds ih =>
    cases d with
    | enabled up =>
      cases up with
      | false => exact .inl rfl
      | true => exact .inr ⟨[], ds, rfl⟩
    | disabled => exact .inl rfl
    | asked up =>
      rcases ih with hoff | ⟨answers, older, rfl⟩
      · exact .inl (by simp [told, hoff])
      · exact .inr ⟨up :: answers, older, rfl⟩

theorem told_eq_connecting_iff {ds : List Deal} : told ds = .connecting ↔ Lost ds := by
  constructor
  · intro h
    rcases told_off_or_answers ds with hoff | ⟨answers, older, rfl⟩
    · rw [hoff] at h
      cases h
    · refine ⟨answers, older, rfl, Decidable.byContradiction fun hdown => ?_⟩
      rw [told_answers, if_neg hdown] at h
      cases h
  · rintro ⟨answers, older, rfl, hdown⟩
    rw [told_answers, if_pos hdown]

/-! ## Runs -/

/-- The controllers that calls lead to, with the answers that they gave, the latest first, and
everything that was asked for on the way.  What the radio says of its link at a call need not agree
with what it said before. -/
inductive Followed (policy : RadioPolicy) : List Deal → Trace Node → RadioController → Prop where
  | new {t : Trace Node} {r : RadioController} :
      (RadioController.new policy).Ends t r → Followed policy [] t r
  | enable {ds : List Deal} {t t' : Trace Node} {r r' : RadioController} {up : Bool}
      (retries : Nat) : Followed policy ds t r → (r.enable retries).Ends t' (up, r') →
      Followed policy (.enabled up :: ds) (t ++ t') r'
  | disable {ds : List Deal} {t t' : Trace Node} {r r' : RadioController} :
      Followed policy ds t r → r.disable.Ends t' r' → Followed policy (.disabled :: ds) (t ++ t') r'
  | ask {ds : List Deal} {t t' : Trace Node} {r r' : RadioController} {up : Bool} :
      Followed policy ds t r → r.isConnected.Ends t' (up, r') →
      Followed policy (.asked up :: ds) (t ++ t') r'

variable {ds : List Deal}

theorem Followed.reached (h : Followed policy ds t r) : Reached policy t r := by
  induction h with
  | new hnew => exact .new hnew
  | enable retries _ hends ih =>
    exact ih.act (.enable retries) (Prog.ends_bind_pure.2 ⟨_, hends, rfl⟩)
  | disable _ hends ih => exact ih.act .disable hends
  | ask _ hends ih => exact ih.act .isConnected (Prog.ends_bind_pure.2 ⟨_, hends, rfl⟩)

/-- The phase follows the answers. -/
theorem Followed.phase_eq (h : Followed policy ds t r) : r.phase = told ds := by
  induction h with
  | new hnew =>
    obtain ⟨now, -, hr⟩ := Act.gives_bind.1 hnew.gives
    rw [Act.gives_pure.1 hr]
    rfl
  | enable retries hrun hends ih =>
    exact (enable_raised hrun.reached.driven.1 hends.gives).2
  | disable hrun hends ih =>
    exact (disable_raised hrun.reached.driven.1 hends.gives).2
  | @ask ds t t' r r' up hrun hends ih =>
    rw [told, ← ih]
    rcases isConnected_gives hends.gives with ⟨hr, hdown, -⟩ | ⟨hdown, hup, now, hr⟩
    · obtain rfl : r' = r := hr
      rw [if_neg fun h => hdown h.1 h.2]
    · obtain rfl : r' = _ := hr
      obtain rfl : up = false := hdown
      rw [if_pos ⟨rfl, hup⟩]
      rw [phase] at hup
      simp [phase, RadioLink.step, RadioLink.enter, hup]

/-- Behind a question the phase is up if the answer was up and the link was not lost before. -/
theorem Followed.phase_eq_up_iff {up : Bool} (h : Followed policy ds t r)
    (hasked : r.isConnected.Ends t' (up, r')) : r'.phase = .up ↔ up = true ∧ ¬ Lost ds := by
  have hbefore : r.phase = told ds := h.phase_eq
  rw [(h.ask hasked).phase_eq, told, ← told_eq_connecting_iff]
  cases up with
  | false =>
    by_cases hup : told ds = .up
    · simp [hup]
    · simp [hup]
  | true =>
    have hpowered : told ds ≠ .off := by
      rw [← hbefore]
      rcases isConnected_gives hasked.gives with ⟨-, -, hinit⟩ | ⟨hdown, -⟩
      · exact h.reached.driven.1.1 (hinit rfl)
      · cases hdown
    cases htold : told ds with
    | off => exact absurd htold hpowered
    | connecting | up => simp

/-- Behind a question the phase is up if and only if the answer was up, unless the link was lost
before and is up again.  Then it is still connecting.  What the counters show of the link is the
phase, so it is the answer under the same condition. -/
theorem Followed.follows_answer_iff {up : Bool} (h : Followed policy ds t r)
    (hasked : r.isConnected.Ends t' (up, r')) :
    ((r'.phase = .up ↔ up = true) ↔ ¬ (up = true ∧ Lost ds)) ∧
    (up = true → Lost ds → r'.phase = .connecting) ∧
    ∀ start : Telemetry, start.linkUp = false →
      (((t ++ t').tallies.foldl Telemetry.record start).linkUp = true ↔ r'.phase = .up) ∧
      (((t ++ t').tallies.foldl Telemetry.record start).linkUp = up ↔
        ¬ (up = true ∧ Lost ds)) := by
  have hphase : r'.phase = .up ↔ up = true ∧ ¬ Lost ds := h.phase_eq_up_iff hasked
  have hanswer : (r'.phase = .up ↔ up = true) ↔ ¬ (up = true ∧ Lost ds) := by
    rw [hphase]
    tauto
  refine ⟨hanswer, ?_, fun start hstart => ?_⟩
  · rintro rfl hlost
    rw [(h.ask hasked).phase_eq, told, if_neg (by simp)]
    exact told_eq_connecting_iff.2 hlost
  · have hcounted : ((t ++ t').tallies.foldl Telemetry.record start).linkUp = true ↔
        r'.phase = .up := by
      rw [RadioUnit.behind_linkUp (u := {}) hstart]
      exact (h.ask hasked).reached.driven.2.linkUp
    refine ⟨hcounted, ?_⟩
    rw [← hanswer, ← hcounted, Bool.eq_iff_iff]

/-! ## On the bench -/

/-- What a program asks for on a bench. -/
def onBench {α : Type} (p : Act α) (w : Bench.World) : Trace Node :=
  Prog.transcript (fun op w => Bench.World.answer w op) p w

theorem onBench_ends {α : Type} (p : Act α) (w : Bench.World) :
    Prog.Ends p (onBench p w) (w.run p).1 :=
  Prog.run_ends _ p w

/-- A controller on a bench, with its answers so far, the latest first. -/
structure Trial where
  deals : List Deal
  trace : Trace Node
  controller : RadioController
  world : Bench.World

namespace Trial

/-- A new controller. -/
def new (policy : RadioPolicy) (w : Bench.World) : Trial :=
  let act := RadioController.new policy
  ⟨[], onBench act w, (w.run act).1, (w.run act).2⟩

/-- Ask something of the controller. -/
def next (x : Trial) (deal : Bool → Deal) (act : Act (Bool × RadioController)) : Trial :=
  let ran := x.world.run act
  ⟨deal ran.1.1 :: x.deals, x.trace ++ onBench act x.world, ran.1.2, ran.2⟩

/-- Bring the link up. -/
def enable (x : Trial) (retries : Nat) : Trial := x.next .enabled (x.controller.enable retries)

/-- Ask for the link. -/
def ask (x : Trial) : Trial := x.next .asked x.controller.isConnected

/-- The radio says from now on how its link is. -/
def turn (x : Trial) (status : LinkStatus) : Trial :=
  { x with world := { x.world with radio := { x.world.radio with status } } }

/-- What was done on the bench can be done. -/
def Sound (policy : RadioPolicy) (x : Trial) : Prop :=
  Followed policy x.deals x.trace x.controller

variable {x : Trial}

theorem new_sound (policy : RadioPolicy) (w : Bench.World) : (new policy w).Sound policy :=
  .new (onBench_ends _ w)

theorem Sound.enable (h : x.Sound policy) (retries : Nat) : (x.enable retries).Sound policy :=
  Followed.enable retries h (onBench_ends _ x.world)

theorem Sound.turn (h : x.Sound policy) (status : LinkStatus) : (x.turn status).Sound policy := h

theorem Sound.ask (h : x.Sound policy) : x.ask.Sound policy :=
  Followed.ask h (onBench_ends _ x.world)

end Trial

/-- A link that came up at the first join and was found lost once; now it is back. -/
def cameBack : Trial :=
  (((Trial.new {} { radio := { joins := [none] } }).enable 1).turn .noIp).ask.turn .up

theorem cameBack_sound : cameBack.Sound {} :=
  (((Trial.new_sound _ _).enable 1).turn .noIp).ask.turn .up

/-- The link that came back is in use, but it is not booked as up. -/
theorem follows_of_cameBack : Lost cameBack.deals ∧ cameBack.ask.deals.head? = some (.asked true) ∧
    cameBack.ask.controller.phase = .connecting := by
  have hlost : Lost cameBack.deals := ⟨[false], [], by decide, by decide⟩
  have hasked : cameBack.controller.isConnected.Ends _ (true, cameBack.ask.controller) :=
    onBench_ends _ cameBack.world
  exact ⟨hlost, by decide, (cameBack_sound.follows_answer_iff hasked).2.1 rfl hlost⟩

/-- The phase does not follow the answers. -/
theorem back_without_notice : ¬ ∀ (ds : List Deal) (t t' : Trace Node) (r r' : RadioController)
    (up : Bool), Followed {} ds t r → r.isConnected.Ends t' (up, r') →
      (r'.phase = .up ↔ up = true) := by
  intro h
  have hasked : cameBack.controller.isConnected.Ends _ (true, cameBack.ask.controller) :=
    onBench_ends _ cameBack.world
  have hup := (h _ _ _ _ _ _ cameBack_sound hasked).2 rfl
  exact absurd hup (by decide)

end MeterNode.RadioController
