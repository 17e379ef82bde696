import MeterNode.Proofs.Power.Accounts
import MeterNode.Proofs.Power.Following

/-!
# Joining

`enable` is followed call by call.  A `RadioRecord` keeps what was done with the radio, in order,
and how it answered.

Up to a number of joins are tried, and the first that works is the last (`Conclusive`).  So the
number of joins is a function of what the radio would answer, had it been asked every time
(`Conclusive.length_eq`).  Around each join the light is on, and between two of them there is one
pause (`rounds`).  The induction on the joins that are left carries the whole account (`Tried`).

In front of the joins come the question whether the link is up (`Checked`) and the powering of the
radio (`Powering`).  The question may book a link that was lost just now, but nothing that the
account of the joins begins with (`Unlinked`).  A controller that is reached went on from a new one
by events of its link alone (`Reached.noted`), so what it counted is within its limits.
-/

namespace MeterNode

/-! ## Records -/

/-- What was done with the radio, how it answered, and the counters. -/
structure RadioRecord where
  /-- The calls that do something, and the pauses, in order. -/
  acts : List Effect := []
  powerUps : List (Except RadioError Unit) := []
  joins : List (Except RadioError Unit) := []
  statuses : List LinkStatus := []
  counters : Telemetry

namespace RadioRecord

/-- The record after an operation was answered. -/
def after (k : RadioRecord) : (op : Effect) → op.Answer → RadioRecord
  | .radio .status, status => { k with statuses := k.statuses ++ [status] }
  | .radio .powerUp, result =>
      { k with acts := k.acts ++ [.radio .powerUp], powerUps := k.powerUps ++ [result] }
  | .radio (.join timeoutMs), result =>
      { k with acts := k.acts ++ [.radio (.join timeoutMs)], joins := k.joins ++ [result] }
  | .radio call, _ => { k with acts := k.acts ++ [.radio call] }
  | .pause who ms, _ => { k with acts := k.acts ++ [.pause who ms] }
  | .count tally, _ => { k with counters := k.counters.record tally }
  | _, _ => k

/-- The record behind a trace. -/
abbrev behind (k : RadioRecord) (t : Trace Node) : RadioRecord := Observer.behind after k t

variable {k : RadioRecord}

@[simp] theorem after_log {level : Level} {text : String} {done : Unit} :
    k.after (.log level text) done = k := rfl

@[simp] theorem after_now {at_ : Instant} : k.after .now at_ = k := rfl

@[simp] theorem after_count {tally : Tally} {done : Unit} :
    k.after (.count tally) done = { k with counters := k.counters.record tally } := rfl

@[simp] theorem after_status {status : LinkStatus} :
    k.after (.radio .status) status = { k with statuses := k.statuses ++ [status] } := rfl

end RadioRecord

/-- The event is the outcome of a join. -/
def LinkEvent.isJoin : LinkEvent → Bool
  | .joined _ | .joinFailed => true
  | .powerOn _ | .linkLost _ | .powerOff _ => false

/-- Only joins are counted. -/
theorem RadioLink.step_counts (l : RadioLink) (event : LinkEvent) (h : event.isJoin = false) :
    (l.step event).stats.failures = l.stats.failures ∧
      (l.step event).stats.sessions = l.stats.sessions := by
  cases event with
  | joined | joinFailed => cases h
  | powerOn | linkLost | powerOff => cases hphase : l.phase <;> simp [step, enter, hphase]

namespace RadioController

variable {r r' : RadioController} {k k' : RadioRecord}

theorem note_record {event : LinkEvent} :
    (r.note event).Leaves RadioRecord.after k fun r' k' =>
      r' = { r with link := r.link.step event } ∧ k' = k :=
  note_leaves_of_misses fun _ _ _ _ => rfl

/-! ## Joins -/

/-- A join with the light on. -/
def round (p : RadioPolicy) : List Effect :=
  [.radio (.light true), .radio (.join p.joinTimeoutMs), .radio (.light false)]

/-- Some joins, with a pause between any two of them. -/
def rounds (p : RadioPolicy) (n : Nat) : List Effect :=
  [Effect.pause .radio p.retryBackoffMs].intercalate (List.replicate n (round p))

theorem rounds_succ {p : RadioPolicy} {n : Nat} (h : n ≠ 0) :
    rounds p (n + 1) = round p ++ Effect.pause .radio p.retryBackoffMs :: rounds p n := by
  obtain ⟨n, rfl⟩ := Nat.exists_eq_succ_of_ne_zero h
  rfl

/-- Up to a number of joins were tried, and the first that worked was the last. -/
inductive Conclusive : Nat → List (Except RadioError Unit) → Bool → Prop where
  | gaveUp : Conclusive 0 [] false
  | joined {left : Nat} : Conclusive (left + 1) [.ok ()] true
  | failed {left : Nat} {cause : RadioError} {joins : List (Except RadioError Unit)} {up : Bool} :
      Conclusive left joins up → Conclusive (left + 1) (.error cause :: joins) up

namespace Conclusive

variable {left : Nat} {joins script : List (Except RadioError Unit)} {up : Bool}

theorem length_eq_zero_iff (h : Conclusive left joins up) : joins.length = 0 ↔ left = 0 := by
  cases h <;> simp

/-- There are as many joins as it takes for one to work, or as many as may be tried. -/
theorem length_eq (h : Conclusive left joins up) (hscript : joins <+: script) :
    joins.length = min left (script.findIdx Except.isOk + 1) := by
  induction h generalizing script with
  | gaveUp => simp
  | joined =>
    obtain ⟨rest, rfl⟩ := hscript
    simp [List.findIdx_cons, Except.isOk, Except.toBool]
  | @failed left cause joins up _ ih =>
    obtain ⟨rest, rfl⟩ := hscript
    have hlength := ih (List.prefix_append joins rest)
    have hfailed : Except.isOk (Except.error cause : Except RadioError Unit) = false := rfl
    simp only [List.cons_append, List.findIdx_cons, hfailed, cond_false, List.length_cons]
    omega

/-- The link comes up if and only if a join worked. -/
theorem up_iff (h : Conclusive left joins up) : up = true ↔ .ok () ∈ joins := by
  induction h with
  | gaveUp => simp
  | joined => simp
  | failed _ ih => simpa using ih

end Conclusive

/-- The number of joins that failed. -/
def failedOf (joins : List (Except RadioError Unit)) : Nat := joins.countP (!·.isOk)

/-- The link stays down if and only if as many joins as may be tried failed. -/
theorem Conclusive.down_iff {left : Nat} {joins : List (Except RadioError Unit)} {up : Bool}
    (h : Conclusive left joins up) : up = false ↔ failedOf joins = left := by
  induction h with
  | gaveUp => simp [failedOf]
  | joined => simp [failedOf, Except.isOk, Except.toBool]
  | failed _ ih => simpa [failedOf, Except.isOk, Except.toBool] using ih

/-- The account of up to `left` joins, from the controller `r` and the record `k` before the first
of them to `r'` and `k'`. -/
structure Tried (left : Nat) (r : RadioController) (k : RadioRecord)
    (joins : List (Except RadioError Unit)) (up : Bool) (r' : RadioController) (k' : RadioRecord) :
    Prop where
  conclusive : Conclusive left joins up
  joins_eq : k'.joins = k.joins ++ joins
  /-- The radio is not powered again. -/
  powerUps_eq : k'.powerUps = k.powerUps
  statuses_prefix : k.statuses <+: k'.statuses
  /-- Nothing is done but the joins, with the light and the pauses; if none of them worked, the
  radio is powered down. -/
  acts_eq : k'.acts =
    k.acts ++ rounds r.policy joins.length ++ if up then [] else [.radio .powerDown]
  attempts_eq : k'.counters.radioAttempts =
    k.counters.radioAttempts + UInt32.ofNat joins.length
  gaveUp_eq : k'.counters.radioFailures = k.counters.radioFailures + if up then 0 else 1
  failures_eq : r'.link.stats.failures =
    min (r.link.stats.failures + failedOf joins) radioCountMax
  sessions_eq : r'.link.stats.sessions =
    min (r.link.stats.sessions + up.toNat) radioCountMax

theorem joinOnce_record {attempt tries : Nat} :
    (r.joinOnce attempt tries).Leaves RadioRecord.after k fun result k' =>
      k' = { k with
        acts := k.acts ++ round r.policy
        joins := k.joins ++ [result]
        counters := k.counters.record .radioAttempt } := by
  simp only [joinOnce, Act.leaves_bind, Act.leaves_pure, Act.leaves_log, Act.leaves_count,
    Act.leaves_radio]
  intro _ result _
  simp [RadioRecord.after, round]

theorem disable_record (hinit : r.initialized = true) :
    r.disable.Leaves RadioRecord.after k fun r' k' =>
      (∃ now, r' = { r with link := r.link.step (.powerOff now), initialized := false }) ∧
      k' = { k with
        acts := k.acts ++ [.radio .powerDown]
        counters := k.counters.record (.linkUp false) } := by
  simp only [disable, hinit, Bool.not_true, Bool.false_eq_true, if_false, Act.leaves_bind,
    Act.leaves_pure, Act.leaves_log, Act.leaves_now, Act.leaves_radio, Act.leaves_count]
  refine fun now => note_record.imp ?_
  rintro _ _ ⟨rfl, rfl⟩ _
  exact ⟨⟨now, rfl⟩, rfl⟩

/-- A radio that joins, with counters that were not counted past their limits. -/
structure Joining (r : RadioController) : Prop where
  initialized : r.initialized = true
  phase_eq : r.phase = .connecting
  failures_le : r.link.stats.failures ≤ radioCountMax
  sessions_le : r.link.stats.sessions ≤ radioCountMax

theorem Joining.giveUp_tried {tries : Nat} {cause : RadioError} (h : Joining r) :
    (r.giveUp tries cause).Leaves RadioRecord.after k (Tried 0 r k [] false) := by
  simp only [giveUp, Act.leaves_bind, Act.leaves_log, Act.leaves_count]
  refine (disable_record h.initialized).imp ?_
  rintro _ _ ⟨⟨now, rfl⟩, rfl⟩
  obtain ⟨hfailures, hsessions⟩ := r.link.step_counts (.powerOff now) rfl
  exact {
    conclusive := .gaveUp
    joins_eq := by simp
    powerUps_eq := rfl
    statuses_prefix := List.prefix_rfl
    acts_eq := by simp [rounds]
    attempts_eq := by simp [Telemetry.record]
    gaveUp_eq := by simp [Telemetry.record]
    failures_eq := by simp [hfailures, failedOf, h.failures_le]
    sessions_eq := by simp [hsessions, h.sessions_le] }

theorem Joining.fail (h : Joining r) : Joining { r with link := r.link.step .joinFailed } := by
  have hphase : r.link.phase = .connecting := h.phase_eq
  exact {
    initialized := h.initialized
    phase_eq := by simp [phase, RadioLink.step, hphase]
    failures_le := by
      simp only [RadioLink.step, hphase, RadioStats.addFailure]
      exact Nat.min_le_right _ _
    sessions_le := by simp [RadioLink.step, hphase, RadioStats.addFailure, h.sessions_le] }

/-- The record of a join that failed, with the pause behind it unless it was the last one. -/
def failedOnce (left : Nat) (cause : RadioError) (r : RadioController) (k : RadioRecord) :
    RadioRecord :=
  { k with
    acts := k.acts ++ round r.policy ++
      if left = 0 then [] else [.pause .radio r.policy.retryBackoffMs]
    joins := k.joins ++ [.error cause]
    counters := k.counters.record .radioAttempt }

theorem Tried.of_failed {left : Nat} {cause : RadioError} {joins : List (Except RadioError Unit)}
    {up : Bool} (hr : Joining r)
    (h : Tried left { r with link := r.link.step .joinFailed } (failedOnce left cause r k) joins up
      r' k') :
    Tried (left + 1) r k (.error cause :: joins) up r' k' := by
  have hphase : r.link.phase = .connecting := hr.phase_eq
  have hlength := h.conclusive.length_eq_zero_iff
  exact {
    conclusive := .failed h.conclusive
    joins_eq := by simp [h.joins_eq, failedOnce]
    powerUps_eq := h.powerUps_eq
    statuses_prefix := h.statuses_prefix
    acts_eq := by
      rw [h.acts_eq, failedOnce, List.length_cons]
      by_cases hlast : left = 0
      · simp [hlast, hlength.2 hlast, rounds]
      · simp [hlast, rounds_succ (mt hlength.1 hlast)]
    attempts_eq := by
      rw [h.attempts_eq, List.length_cons, UInt32.ofNat_add, UInt32.add_comm (.ofNat joins.length),
        ← UInt32.add_assoc]
      rfl
    gaveUp_eq := h.gaveUp_eq
    failures_eq := by
      rw [h.failures_eq]
      simp only [RadioLink.step, hphase, RadioStats.addFailure, failedOf, List.countP_cons,
        Except.isOk, Except.toBool, Bool.not_false, if_true]
      omega
    sessions_eq := by
      rw [h.sessions_eq]
      simp [RadioLink.step, hphase, RadioStats.addFailure] }

theorem Tried.of_joined {left : Nat} {now : Instant} {status : LinkStatus} (hr : Joining r) :
    Tried (left + 1) r k [.ok ()] true { r with link := r.link.step (.joined now) }
      { k with
        acts := k.acts ++ round r.policy
        joins := k.joins ++ [.ok ()]
        statuses := k.statuses ++ [status]
        counters := (k.counters.record .radioAttempt).record (.linkUp true) } := by
  have hphase : r.link.phase = .connecting := hr.phase_eq
  exact {
    conclusive := .joined
    joins_eq := rfl
    powerUps_eq := rfl
    statuses_prefix := List.prefix_append _ _
    acts_eq := by simp [rounds]
    attempts_eq := rfl
    gaveUp_eq := by simp [Telemetry.record]
    failures_eq := by
      simp [RadioLink.step, RadioLink.enter, hphase, failedOf, RadioStats.addSession,
        hr.failures_le, Except.isOk, Except.toBool]
    sessions_eq := by simp [RadioLink.step, RadioLink.enter, hphase, RadioStats.addSession] }

/-- Every join that fails while there are joins left is followed by a pause, and by more joins. -/
theorem Joining.tries_tried {tries left : Nat} {cause : RadioError} (h : Joining r) :
    (joinTries tries left cause r).Leaves RadioRecord.after k fun res k' =>
      ∃ joins, Tried left r k joins res.1 res.2 k' := by
  induction left generalizing r k cause with
  | zero =>
    rw [joinTries, Act.leaves_bind]
    exact h.giveUp_tried.imp fun r' k' htried => Act.leaves_pure.2 ⟨[], htried⟩
  | succ left ih =>
    rw [joinTries, Act.leaves_bind]
    refine joinOnce_record.imp ?_
    rintro result _ rfl
    cases result with
    | ok done =>
      simp only [Act.leaves_bind, Act.leaves_pure, Act.leaves_log, Act.leaves_now,
        Act.leaves_count, Act.leaves_radio]
      refine fun now => note_record.imp ?_
      rintro _ _ ⟨rfl, rfl⟩ status
      exact ⟨_, .of_joined h⟩
    | error cause =>
      simp only [Act.leaves_bind, Act.leaves_log]
      refine note_record.imp ?_
      rintro _ _ ⟨rfl, rfl⟩
      have hrest : (joinTries tries left cause
          { r with link := r.link.step .joinFailed }).Leaves RadioRecord.after
          (failedOnce left cause r k) fun res k' =>
            ∃ joins, Tried (left + 1) r k joins res.1 res.2 k' := by
        refine (ih h.fail).imp ?_
        rintro res k' ⟨joins, htried⟩
        exact ⟨_, htried.of_failed h⟩
      split
      next hleft =>
        simp only [Act.leaves_bind, Act.leaves_pause]
        simpa [failedOnce, hleft, RadioRecord.after] using hrest
      next hleft =>
        simpa [failedOnce, Decidable.not_not.1 hleft] using hrest

/-! ## Reached controllers -/

/-- The controller kept its policy, and its link went on. -/
structure Noted (r r' : RadioController) : Prop where
  policy_eq : r'.policy = r.policy
  link_eq : ∃ events, r'.link = r.link.run events

theorem Noted.refl (r : RadioController) : Noted r r := ⟨rfl, [], rfl⟩

theorem Noted.of_step (r : RadioController) (event : LinkEvent) (initialized : Bool) :
    Noted r { r with link := r.link.step event, initialized } := ⟨rfl, [event], rfl⟩

theorem Noted.trans {r₁ r₂ r₃ : RadioController} (h₁ : Noted r₁ r₂) (h₂ : Noted r₂ r₃) :
    Noted r₁ r₃ := by
  obtain ⟨events, hlink⟩ := h₁.link_eq
  obtain ⟨more, hmore⟩ := h₂.link_eq
  refine ⟨h₂.policy_eq.trans h₁.policy_eq, events ++ more, ?_⟩
  rw [hmore, hlink, RadioLink.run_append]

theorem isConnected_noted {res : Bool × RadioController} (h : r.isConnected.Gives res) :
    Noted r res.2 := by
  rcases isConnected_gives h with ⟨hr, -, -⟩ | ⟨-, -, now, hr⟩
  · rw [hr]
    exact .refl r
  · rw [hr]
    exact .of_step r _ _

theorem disable_noted (h : r.disable.Gives r') : Noted r r' := by
  rcases disable_gives h with ⟨-, rfl⟩ | ⟨now, rfl⟩
  · exact .refl r'
  · exact .of_step r _ false

theorem Joins.noted {left : Nat} {res : Bool × RadioController} (h : Joins left r res) :
    Noted r res.2 := by
  induction h with
  | gaveUp hdisable => exact disable_noted hdisable
  | joined => exact .of_step _ _ _
  | failed _ ih => exact (Noted.of_step _ .joinFailed _).trans ih

theorem enable_noted {retries : Nat} {res : Bool × RadioController}
    (h : (r.enable retries).Gives res) : Noted r res.2 := by
  obtain ⟨⟨up, r₁⟩, halready, h⟩ := Act.gives_bind.1 h
  have hasked : Noted r r₁ := by
    unfold alreadyUp at halready
    split at halready
    next => exact isConnected_noted halready
    next =>
      obtain ⟨rfl, rfl⟩ := Prod.mk.inj (Act.gives_pure.1 halready)
      exact .refl r₁
  refine hasked.trans ?_
  cases up with
  | true =>
    obtain ⟨_, -, h⟩ := Act.gives_bind.1 h
    rw [Act.gives_pure.1 h]
    exact .refl r₁
  | false =>
    obtain ⟨_, -, h⟩ := Act.gives_bind.1 h
    obtain ⟨⟨powered, r₂⟩, hpower, h⟩ := Act.gives_bind.1 h
    rcases powerUp_gives hpower with hon | ⟨-, hstill⟩
    · cases hon
      obtain ⟨now, -, h⟩ := Act.gives_bind.1 h
      obtain ⟨r₃, hnote, h⟩ := Act.gives_bind.1 h
      obtain rfl : r₃ = _ := note_gives hnote
      exact (Noted.of_step r₁ (.powerOn now) true).trans (joinTries_gives h).noted
    · cases hstill
      rw [Act.gives_pure.1 h]
      exact .refl r₁

variable {policy : RadioPolicy} {t t₀ : Trace Node}

theorem Operation.act_noted (op : Operation) (h : (op.act r).Gives r') : Noted r r' := by
  cases op with
  | enable retries =>
    obtain ⟨res, hres, rfl⟩ := Act.gives_map.1 h
    exact enable_noted hres
  | disable => exact disable_noted h
  | isConnected =>
    obtain ⟨res, hres, rfl⟩ := Act.gives_map.1 h
    exact isConnected_noted hres
  | linkStatus | blink | measure | withBus =>
    obtain ⟨_, -, rfl⟩ := Act.gives_map.1 h
    exact .refl r'

/-- A controller that is reached went on from one that is new. -/
theorem Reached.noted (h : Reached policy t r) :
    ∃ start, Noted { policy := policy.sanitized, link := { since := start } } r := by
  induction h with
  | new hnew =>
    obtain ⟨start, -, hr⟩ := Act.gives_bind.1 hnew.gives
    rw [Act.gives_pure.1 hr]
    exact ⟨start, .refl _⟩
  | act op _ hact ih =>
    obtain ⟨start, hstart⟩ := ih
    exact ⟨start, hstart.trans (op.act_noted hact.gives)⟩

theorem Reached.policy_eq (h : Reached policy t r) : r.policy = policy.sanitized :=
  have ⟨_, hnoted⟩ := h.noted
  hnoted.policy_eq

theorem Reached.counts_le (h : Reached policy t r) :
    r.link.stats.failures ≤ radioCountMax ∧ r.link.stats.sessions ≤ radioCountMax := by
  obtain ⟨start, hnoted⟩ := h.noted
  obtain ⟨events, hlink⟩ := hnoted.link_eq
  rw [hlink, RadioLink.run_failures (Nat.zero_le _), RadioLink.run_sessions (Nat.zero_le _)]
  exact ⟨Nat.min_le_right _ _, Nat.min_le_right _ _⟩

/-! ## Enable -/

section Enable

variable {c c₁ : Telemetry} {l : RadioLink} {ss : List LinkStatus} {n : Nat}

/-- The link was up as far as the controller knew, and the radio said so when it was asked first. -/
def Skipped (r : RadioController) (k : RadioRecord) : Prop :=
  r.initialized = true ∧ r.phase = .up ∧ k.statuses.head? = some .up

/-- The radio could not be powered. -/
def Refused (k : RadioRecord) : Prop := ∃ cause, .error cause ∈ k.powerUps

/-- The record when the joins begin: a radio that was not powered was powered. -/
def started (r : RadioController) (c : Telemetry) : RadioRecord where
  acts := if r.initialized then [] else [.radio .powerUp]
  powerUps := if r.initialized then [] else [.ok ()]
  counters := c

/-- What comes of enable: nothing is done, or the radio cannot be powered, or it joins. -/
inductive Enabled (r : RadioController) (c : Telemetry) (n : Nat) :
    Bool × RadioController → RadioRecord → Prop where
  | skipped : r.initialized = true → r.phase = .up →
      Enabled r c n (true, r) { statuses := [.up], counters := c }
  | refused {cause : RadioError} : r.initialized = false → Enabled r c n (false, r)
      { acts := [.radio .powerUp]
        powerUps := [.error cause]
        counters := c.record .radioFailure }
  | tried {up : Bool} {r' : RadioController} {k : RadioRecord} : ¬ Skipped r k →
      Tried n r (started r c) k.joins up r' k → Enabled r c n (up, r') k

/-- The link `l`, the answers `ss` and the counters `c₁` are those of a controller that knows that
its link is not up. -/
structure Unlinked (r : RadioController) (c : Telemetry) (l : RadioLink) (ss : List LinkStatus)
    (c₁ : Telemetry) : Prop where
  phase_ne : l.phase ≠ .up
  failures_eq : l.stats.failures = r.link.stats.failures
  sessions_eq : l.stats.sessions = r.link.stats.sessions
  attempts_eq : c₁.radioAttempts = c.radioAttempts
  gaveUp_eq : c₁.radioFailures = c.radioFailures
  not_skipped : ∀ k : RadioRecord, ss <+: k.statuses → ¬ Skipped r k
  off : r.initialized = false → l = r.link ∧ ss = [] ∧ c₁ = c

theorem unlinked_of_lost {status : LinkStatus} {now : Instant} (hinit : r.initialized = true)
    (hphase : r.phase = .up) (hstatus : status ≠ .up) :
    Unlinked r c (r.link.step (.linkLost now)) [status] (c.record (.linkUp false)) where
  phase_ne := by
    rw [phase] at hphase
    simp [RadioLink.step, RadioLink.enter, hphase]
  failures_eq := (r.link.step_counts (.linkLost now) rfl).1
  sessions_eq := (r.link.step_counts (.linkLost now) rfl).2
  attempts_eq := rfl
  gaveUp_eq := rfl
  not_skipped := by
    rintro k ⟨rest, hstatuses⟩ ⟨-, -, hfirst⟩
    rw [← hstatuses] at hfirst
    exact hstatus (Option.some.inj hfirst)
  off := fun hoff => by
    rw [hinit] at hoff
    cases hoff

theorem unlinked_of_down (hr : r.Powered) (hdown : ¬ (r.initialized = true ∧ r.phase = .up)) :
    Unlinked r c r.link [] c where
  phase_ne := fun hup => hdown ⟨hr.2 (by simp [phase, hup]), hup⟩
  failures_eq := rfl
  sessions_eq := rfl
  attempts_eq := rfl
  gaveUp_eq := rfl
  not_skipped := fun _ _ hskipped => hdown ⟨hskipped.1, hskipped.2.1⟩
  off := fun _ => ⟨rfl, rfl, rfl⟩

theorem Unlinked.ask (h : Unlinked r c l ss c₁) (hinit : r.initialized = true)
    (status : LinkStatus) : Unlinked r c l (ss ++ [status]) c₁ :=
  { h with
    not_skipped := fun k hprefix => h.not_skipped k ((List.prefix_append _ _).trans hprefix)
    off := fun hoff => by
      rw [hinit] at hoff
      cases hoff }

/-- Powering on leads to a radio that joins. -/
theorem Unlinked.joining {now : Instant} (h : Unlinked r c l ss c₁)
    (hle : r.link.stats.failures ≤ radioCountMax ∧ r.link.stats.sessions ≤ radioCountMax) :
    Joining { r with link := l.step (.powerOn now), initialized := true } := by
  have hne := h.phase_ne
  obtain ⟨hfailures, hsessions⟩ := l.step_counts (.powerOn now) rfl
  exact {
    initialized := rfl
    phase_eq := by
      cases hphase : l.phase with
      | off | connecting => simp [phase, RadioLink.step, RadioLink.enter, hphase]
      | up => exact absurd hphase hne
    failures_le := by simpa [hfailures, h.failures_eq] using hle.1
    sessions_le := by simpa [hsessions, h.sessions_eq] using hle.2 }

/-- What comes of the joins does not depend on what was asked before them. -/
theorem Unlinked.tried {now : Instant} {joins : List (Except RadioError Unit)} {up : Bool}
    (h : Unlinked r c l ss c₁)
    (htried : Tried n { r with link := l.step (.powerOn now), initialized := true }
      { started r c with statuses := ss, counters := c₁ } joins up r' k) :
    Tried n r (started r c) joins up r' k := by
  obtain ⟨hfailures, hsessions⟩ := l.step_counts (.powerOn now) rfl
  exact {
    conclusive := htried.conclusive
    joins_eq := htried.joins_eq
    powerUps_eq := htried.powerUps_eq
    statuses_prefix := List.nil_prefix
    acts_eq := htried.acts_eq
    attempts_eq := htried.attempts_eq.trans (by rw [h.attempts_eq]; rfl)
    gaveUp_eq := htried.gaveUp_eq.trans (by rw [h.gaveUp_eq]; rfl)
    failures_eq := htried.failures_eq.trans (by simp only [hfailures, h.failures_eq])
    sessions_eq := htried.sessions_eq.trans (by simp only [hsessions, h.sessions_eq]) }

/-- What comes of asking whether the link is up already. -/
inductive Checked (r : RadioController) (c : Telemetry) :
    Bool × RadioController → RadioRecord → Prop where
  | up : r.initialized = true → r.phase = .up →
      Checked r c (true, r) { statuses := [.up], counters := c }
  | down {l : RadioLink} {ss : List LinkStatus} {c₁ : Telemetry} : Unlinked r c l ss c₁ →
      Checked r c (false, { r with link := l }) { statuses := ss, counters := c₁ }

theorem alreadyUp_checked (hr : r.Powered) :
    r.alreadyUp.Leaves RadioRecord.after { counters := c } (Checked r c) := by
  simp only [alreadyUp]
  split
  next hup =>
    obtain ⟨hinit, hphase⟩ : r.initialized = true ∧ r.phase = .up := by simpa using hup
    simp only [isConnected, linkStatus, hinit, if_true, Act.leaves_bind, Act.leaves_radio,
      Act.leaves_log]
    intro status
    by_cases hstatus : status = .up
    · subst hstatus
      exact Act.leaves_pure.2 (.up hinit hphase)
    · rw [if_pos (by simp [hstatus, hphase])]
      simp only [Act.leaves_bind, Act.leaves_log, Act.leaves_now, Act.leaves_count,
        Act.leaves_pure]
      refine fun now => note_record.imp ?_
      rintro _ _ ⟨rfl, rfl⟩
      exact .down (unlinked_of_lost hinit hphase hstatus)
  next hdown => exact Act.leaves_pure.2 (.down (unlinked_of_down hr (by simpa using hdown)))

/-- What comes of powering the radio. -/
inductive Powering (r : RadioController) (c : Telemetry) (l : RadioLink) (c₁ : Telemetry) :
    Bool × RadioController → RadioRecord → Prop where
  | on {ss : List LinkStatus} : Unlinked r c l ss c₁ →
      Powering r c l c₁ (true, { r with link := l, initialized := true })
        { started r c with statuses := ss, counters := c₁ }
  | failed {cause : RadioError} : r.initialized = false → Powering r c l c₁ (false, r)
      { acts := [.radio .powerUp]
        powerUps := [.error cause]
        counters := c.record .radioFailure }

theorem Unlinked.powerUp_powering (h : Unlinked r c l ss c₁) :
    (powerUp { r with link := l }).Leaves RadioRecord.after { statuses := ss, counters := c₁ }
      (Powering r c l c₁) := by
  obtain ⟨policy, link, initialized⟩ := r
  cases initialized with
  | true =>
    simp only [powerUp, if_true, Act.leaves_bind, Act.leaves_pure, Act.leaves_log,
      Act.leaves_radio]
    exact fun status => .on (h.ask rfl status)
  | false =>
    obtain ⟨rfl, rfl, rfl⟩ := h.off rfl
    simp only [powerUp, Bool.false_eq_true, if_false, Act.leaves_bind, Act.leaves_radio]
    intro result
    cases result with
    | ok done => exact Act.leaves_pure.2 (.on h)
    | error cause =>
      simp only [Act.leaves_bind, Act.leaves_pure, Act.leaves_log, Act.leaves_count]
      exact .failed rfl

theorem enable_enabled {retries : Nat} (hr : r.Powered)
    (hle : r.link.stats.failures ≤ radioCountMax ∧ r.link.stats.sessions ≤ radioCountMax) :
    (r.enable retries).Leaves RadioRecord.after { counters := c }
      (Enabled r c (if retries = 0 then r.policy.joinRetries else retries)) := by
  rw [enable, Act.leaves_bind]
  refine (alreadyUp_checked hr).imp fun res k hchecked => ?_
  cases hchecked with
  | up hinit hphase => simpa using .skipped hinit hphase
  | @down l ss c₁ h =>
    simp only [Bool.false_eq_true, if_false, Act.leaves_bind, Act.leaves_log]
    refine h.powerUp_powering.imp fun res k hpowering => ?_
    cases hpowering with
    | failed hoff => simpa using .refused hoff
    | on h =>
      simp only [Bool.not_true, Bool.false_eq_true, if_false, Act.leaves_bind, Act.leaves_now]
      refine fun now => note_record.imp ?_
      rintro _ _ ⟨rfl, rfl⟩
      refine (h.joining hle).tries_tried.imp ?_
      rintro ⟨up, r'⟩ k ⟨joins, htried⟩
      obtain rfl : k.joins = joins := htried.joins_eq
      exact .tried (h.not_skipped k htried.statuses_prefix) (h.tried htried)

/-- An enable that finds the link up does nothing, and one that cannot power the radio changes
nothing but a counter.  Any other tries up to `n` joins, with the light on during each and a pause
between any two.  It stops at the first join that works, at the position that what the radio would
answer determines; only if all `n` joins failed is the radio powered down. -/
theorem Reached.enable_trace {retries : Nat} {up : Bool} (h : Reached policy t₀ r) (c : Telemetry)
    (hends : (r.enable retries).Ends t (up, r')) :
    let n := if retries = 0 then policy.sanitized.joinRetries else retries
    let k := RadioRecord.behind { counters := c } t
    (Skipped r k → up = true ∧ r' = r ∧ k.acts = [] ∧ k.joins = [] ∧ k.counters = c) ∧
    (Refused k → up = false ∧ r' = r ∧ k.acts = [.radio .powerUp] ∧ k.joins = [] ∧
      k.counters = c.record .radioFailure) ∧
    (¬ Skipped r k → ¬ Refused k →
      Tried n r (started r c) k.joins up r' k ∧
      (∀ script, k.joins <+: script →
        k.joins.length = min n (script.findIdx Except.isOk + 1)) ∧
      (up = true ↔ .ok () ∈ k.joins) ∧
      (up = false ↔ failedOf k.joins = n)) := by
  intro n k
  have henabled : Enabled r c n (up, r') k := by
    have hleaves : (r.enable retries).Leaves RadioRecord.after { counters := c } _ :=
      enable_enabled h.driven.1 h.counts_le
    rw [h.policy_eq] at hleaves
    exact hleaves t _ hends
  clear_value k
  cases henabled with
  | skipped hinit hphase =>
    refine ⟨fun _ => ⟨rfl, rfl, rfl, rfl, rfl⟩, ?_, fun hskipped => ?_⟩
    · rintro ⟨cause, hcause⟩
      cases hcause
    · exact absurd ⟨hinit, hphase, rfl⟩ hskipped
  | refused hoff =>
    refine ⟨fun hskipped => ?_, fun _ => ⟨rfl, rfl, rfl, rfl, rfl⟩, fun _ hrefused => ?_⟩
    · rw [hskipped.1] at hoff
      cases hoff
    · exact absurd ⟨_, List.mem_singleton_self _⟩ hrefused
  | tried hnot htried =>
    refine ⟨fun hskipped => absurd hskipped hnot, ?_, fun _ _ => ⟨htried, ?_, ?_, ?_⟩⟩
    · rintro ⟨cause, hcause⟩
      rw [htried.powerUps_eq] at hcause
      cases hinit : r.initialized <;> simp [started, hinit] at hcause
    · exact fun script => htried.conclusive.length_eq
    · exact htried.conclusive.up_iff
    · exact htried.conclusive.down_iff

/-- A link that came up at once and was lost; the third of the next joins works. -/
def lostSince : Play :=
  let x := play {} { radio := { joins := [none, some (.join .noNetwork), some .timeout, none] } }
    [(id, .enable 0)]
  { x with world := { x.world with radio := { x.world.radio with status := .noIp } } }

theorem enable_trace_of_lostSince :
    let ran := lostSince.world.run (lostSince.controller.enable 0)
    let t := onBench (lostSince.controller.enable 0) lostSince.world
    let k := RadioRecord.behind { counters := {} } t
    Reached {} lostSince.trace lostSince.controller ∧ (lostSince.controller.enable 0).Ends t ran.1 ∧
      Tried 5 lostSince.controller (started lostSince.controller {}) k.joins ran.1.1 ran.1.2 k ∧
      k.joins.length = 3 := by
  intro ran t k
  have h : Reached {} lostSince.trace lostSince.controller := play_reached _ _
  have hends : (lostSince.controller.enable 0).Ends t (ran.1.1, ran.1.2) := onBench_ends _ _
  have hskipped : ¬ Skipped lostSince.controller k := fun hskipped =>
    absurd hskipped.2.2 (by decide +kernel)
  have hrefused : ¬ Refused k := by
    have hpowerUps : k.powerUps = [] := List.isEmpty_iff.1 (by decide +kernel)
    rintro ⟨cause, hcause⟩
    rw [hpowerUps] at hcause
    cases hcause
  exact ⟨h, hends, ((h.enable_trace {} hends).2.2 hskipped hrefused).1, by decide +kernel⟩

end Enable

end RadioController

end MeterNode
