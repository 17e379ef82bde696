import MeterNode.Bench.World
import MeterNode.Proofs.Connection.Dispatch
import MeterNode.Proofs.Connection.Hearing

/-!
# How long a lookup is waited for

A wait for a lookup is made of slices: a pause, and then the reports that have come, for whichever
connection they are.  A slice begins only while the lookup is out (`Slices`), so the wait stops
behind the first slice that ends it.  A lookup that is still out when all slices have passed is
given up, and its socket is given back (`Concluded`).

The number of slices is a quotient of two settings that are clamped on their own.  A slice is never
empty and never longer than the timeout (`NetPolicy.sanitized_step_pos`, `sanitized_step_le`), so
there is at least one, and together they are no longer than the timeout (`Founded.slices_le`).
-/

namespace MeterNode

/-! ## Pauses -/

/-- How long an operation pauses. -/
def Effect.pauseMs : Effect → Nat
  | .pause _ ms => ms
  | _ => 0

namespace Trace

variable {kinds : List Effect.Kind} {t : Trace Node}

/-- How long a program paused. -/
def pausedMs : Trace Node → Nat
  | [] => 0
  | ⟨op, _⟩ :: t => op.pauseMs + pausedMs t

@[simp] theorem pausedMs_append (t₁ t₂ : Trace Node) :
    pausedMs (t₁ ++ t₂) = pausedMs t₁ + pausedMs t₂ := by
  induction t₁ with
  | nil => exact (Nat.zero_add _).symm
  | cons step t₁ ih => simp only [List.cons_append, pausedMs, ih, Nat.add_assoc]

/-- A program that leaves the clock alone does not pause. -/
theorem Of.unpaused (h : Of kinds t) (htime : .time ∉ kinds) : pausedMs t = 0 := by
  induction t with
  | nil => rfl
  | cons step rest ih =>
    obtain ⟨hop, hrest⟩ := List.forall_mem_cons.1 h
    obtain ⟨op, answer⟩ := step
    have hquick : op.pauseMs = 0 := by
      cases op with
      | pause who ms => exact absurd hop htime
      | log | count | counters | now | net | takeEvents | radio | cpu | meter | utc => rfl
    rw [pausedMs, hquick, ih hrest]

end Trace

/-! ## Settings -/

theorem NetPolicy.sanitized_step_pos (policy : NetPolicy) : 0 < policy.sanitized.dnsStepMs := by
  simp only [NetPolicy.sanitized, clamp]
  omega

theorem NetPolicy.sanitized_step_le (policy : NetPolicy) :
    policy.sanitized.dnsStepMs ≤ policy.sanitized.timeoutMs :=
  Nat.min_le_left _ _

namespace Registry

open Connection

variable {r r₁ r' : Registry} {id : ConnId} {start now : Instant} {t : Trace Node}
  {policy : NetPolicy} {waitedMs n : Nat} {res : ConnState × Registry}

/-- The slices of a wait fit into the timeout. -/
theorem Founded.slices_le (hr : r.Founded policy) :
    r.dnsSlices * policy.sanitized.dnsStepMs ≤ policy.sanitized.timeoutMs := by
  have hone : 1 ≤ policy.sanitized.timeoutMs / policy.sanitized.dnsStepMs :=
    Nat.div_pos policy.sanitized_step_le policy.sanitized_step_pos
  rw [dnsSlices, hr.policy, Nat.max_eq_left hone]
  exact Nat.div_mul_le_self _ _

theorem pump_founded {res : Nat × Registry} (hr : r.Founded policy)
    (h : (r.pump now).Ends t res) : res.2.Founded policy :=
  (pump_deeds h).founded hr

theorem pump_unpaused {res : Nat × Registry} (h : (r.pump now).Ends t res) : t.pausedMs = 0 :=
  (h.of (pump_kinds (List.Subset.refl _))).unpaused (by decide)

/-! ## Slices -/

/-- Some slices of a wait, behind `waitedMs` of waiting, and their number.  In each of them the
lookup is out at first; then the reports are applied that have come meanwhile. -/
inductive Slices (id : ConnId) (start : Instant) :
    Nat → Registry → Trace Node → Nat → Registry → Prop where
  | nil (waitedMs : Nat) (r : Registry) : Slices id start waitedMs r [] 0 r
  | cons {waitedMs n : Nat} {r r' : Registry} {t₁ t₂ : Trace Node} {res : Nat × Registry} :
      r.state? id = some .dns →
      (r.pump (start + Instant.ofMillis (waitedMs + r.policy.dnsStepMs))).Ends t₁ res →
      Slices id start (waitedMs + r.policy.dnsStepMs) res.2 t₂ n r' →
      Slices id start waitedMs r
        (⟨.pause .scheduler r.policy.dnsStepMs, ()⟩ :: (t₁ ++ t₂)) (n + 1) r'

/-- Every slice pauses once. -/
theorem Slices.paused (h : Slices id start waitedMs r t n r') (hr : r.Founded policy) :
    t.pausedMs = n * policy.sanitized.dnsStepMs ∧ r'.Founded policy := by
  induction h with
  | nil => exact ⟨(Nat.zero_mul _).symm, hr⟩
  | @cons waitedMs n r r' t₁ t₂ res _ hpump _ ih =>
    obtain ⟨hrest, hr'⟩ := ih (pump_founded hr hpump)
    refine ⟨?_, hr'⟩
    simp only [Trace.pausedMs, Effect.pauseMs, Trace.pausedMs_append, pump_unpaused hpump, hrest,
      hr.policy, Nat.succ_mul]
    omega

/-- The end of a wait.  The lookup is no longer out, or it is given up: the socket is given back,
and the connection starts over. -/
inductive Concluded (id : ConnId) (r : Registry) : Trace Node → ConnState × Registry → Prop where
  | unknown : r.state? id = none → Concluded id r [] (.error, r)
  | answered {state : ConnState} : r.state? id = some state → state ≠ .dns →
      Concluded id r [] (state, r)
  | givenUp {c : Connection} {t : Trace Node} : r.get? id = some c → c.state = .dns →
      t.pausedMs = 0 → (∀ handle, c.handle = some handle → Returned handle t.calls) →
      Concluded id r t (.init, r.set { c.released with state := .init })

theorem Concluded.paused (h : r.Concluded id t res) : t.pausedMs = 0 := by
  cases h with
  | unknown | answered => rfl
  | givenUp _ _ hpaused => exact hpaused

/-- The connection that starts over is at its place. -/
theorem get?_givenUp {c : Connection} (hplaced : r.Placed) (hget : r.get? id = some c) :
    (r.set { c.released with state := .init }).get? id =
      some { c.released with state := .init } := by
  have hid : c.released.id = id := (released_id c).trans (hplaced id c hget)
  rw [get?_set, if_pos hid.symm, hget]
  rfl

/-- The state that a wait ends with is the one that the connection is left in, and it is not that
of a lookup. -/
theorem Concluded.state (h : r.Concluded id t res) (hplaced : r.Placed) :
    res.1 ≠ .dns ∧ res.1 = (res.2.state? id).getD .error := by
  cases h with
  | unknown hnone => exact ⟨by simp, by rw [hnone]; rfl⟩
  | answered hsome hs => exact ⟨hs, by rw [hsome]; rfl⟩
  | givenUp hget => exact ⟨by simp, by rw [state?, get?_givenUp hplaced hget]; rfl⟩

/-- A wait that ends with the lookup no longer out leaves everything as it is. -/
theorem Concluded.over (h : r.Concluded id t res) (hover : r.state? id ≠ some .dns) :
    t = [] ∧ res.2 = r := by
  cases h with
  | unknown | answered => exact ⟨rfl, rfl⟩
  | givenUp hget hs =>
    refine absurd ?_ hover
    rw [state?, hget, Option.map_some, hs]

/-- A wait that ends with the lookup still out gives the socket back. -/
theorem Concluded.out (h : r.Concluded id t res) (hplaced : r.Placed)
    (hout : r.state? id = some .dns) :
    ∃ c d, r.get? id = some c ∧ res.2.get? id = some d ∧ d.state = .init ∧ d.handle = none ∧
      ∀ handle, c.handle = some handle → Returned handle t.calls := by
  cases h with
  | unknown hnone =>
    rw [hnone] at hout
    cases hout
  | answered hsome hs =>
    rw [hsome, Option.some.injEq] at hout
    exact absurd hout hs
  | @givenUp c t hget _ _ hreturned =>
    exact ⟨c, _, hget, get?_givenUp hplaced hget, rfl, released_handle c, hreturned⟩

/-- A lookup is given up only if it is still out. -/
theorem giveUpDns_concluded (h : (r.giveUpDns id waitedMs).Ends t res) : r.Concluded id t res := by
  simp only [giveUpDns] at h
  split at h
  next hget =>
    obtain ⟨rfl, rfl⟩ := Prog.ends_pure.1 h
    exact .unknown (by rw [state?, hget]; rfl)
  next c hget =>
    split at h
    next hs =>
      obtain ⟨rfl, rfl⟩ := Prog.ends_pure.1 h
      exact .answered (by rw [state?, hget]; rfl) hs
    next hs =>
      obtain ⟨t₁, _, t₂, hlog, h₂, rfl⟩ := Prog.ends_bind.1 h
      obtain ⟨d, habandon, rfl⟩ := Prog.ends_bind_pure.1 h₂
      have hpaused : (t₁ ++ t₂).pausedMs = 0 := by
        rw [Trace.pausedMs_append, Prog.ends_perform.1 hlog,
          (habandon.of (abandon_kinds (List.Subset.refl _))).unpaused (by decide)]
        rfl
      have hreturned (handle : Handle) (hh : c.handle = some handle) :
          Returned handle (t₁ ++ t₂).calls := by
        rw [Trace.calls_append, Prog.ends_perform.1 hlog]
        exact (abandon_ends hh habandon).1
      rw [abandon_gives habandon.gives]
      exact .givenUp hget (Classical.not_not.1 hs) hpaused hreturned

/-- A wait is made of slices, and all of them pass before a lookup is given up. -/
theorem awaitSlices_slices {slices : Nat}
    (h : (awaitSlices id start slices waitedMs r).Ends t res) :
    ∃ n r₁ t₁ t₂, t = t₁ ++ t₂ ∧ Slices id start waitedMs r t₁ n r₁ ∧ n ≤ slices ∧
      (r₁.state? id = some .dns → n = slices) ∧ r₁.Concluded id t₂ res := by
  induction slices generalizing r waitedMs t with
  | zero =>
    exact ⟨0, r, [], t, rfl, .nil waitedMs r, Nat.le_refl 0, fun _ => rfl, giveUpDns_concluded h⟩
  | succ slices ih =>
    simp only [awaitSlices] at h
    split at h
    next hnone =>
      obtain ⟨rfl, rfl⟩ := Prog.ends_pure.1 h
      refine ⟨0, r, [], [], rfl, .nil waitedMs r, Nat.zero_le _, fun hdns => ?_, .unknown hnone⟩
      rw [hnone] at hdns
      cases hdns
    next hdns =>
      obtain ⟨t₁, _, t₂, hpause, h₂, rfl⟩ := Prog.ends_bind.1 h
      obtain ⟨t₃, ⟨count, r₂⟩, t₄, hpump, h₄, rfl⟩ := Prog.ends_bind.1 h₂
      obtain ⟨n, r₁, t₅, t₆, rfl, hslices, hle, hall, hconcluded⟩ := ih h₄
      refine ⟨n + 1, r₁, _, t₆, ?_, .cons hdns hpump hslices, Nat.succ_le_succ hle,
        fun hout => congrArg Nat.succ (hall hout), hconcluded⟩
      rw [Prog.ends_perform.1 hpause]
      simp
    next state hs hsome =>
      obtain ⟨rfl, rfl⟩ := Prog.ends_pure.1 h
      refine ⟨0, r, [], [], rfl, .nil waitedMs r, Nat.zero_le _, fun hdns => ?_,
        .answered hsome hs⟩
      rw [hsome, Option.some.injEq] at hdns
      exact absurd hdns hs

/-- A wait for a lookup ends, whatever is reported meanwhile.  It divides by a slice that is not
empty, pauses no longer than the timeout, and begins no slice once the lookup has ended.  A lookup
that is out to the last is given up: the connection starts over, and its socket is given back. -/
theorem awaitDns_concludes {σ : Type} (hr : r.Founded policy) (id : ConnId) (now : Instant)
    (handler : Prog.Handler Node σ) (s : σ) :
    let wait := r.awaitDns id now
    let t := wait.transcript handler s
    let res := (wait.run handler s).1
    0 < r.policy.dnsStepMs ∧ t.pausedMs ≤ policy.sanitized.timeoutMs ∧
      res.1 ≠ .dns ∧ res.1 = (res.2.state? id).getD .error ∧
      ∃ n r₁ t₁ t₂, t = t₁ ++ t₂ ∧ Slices id now 0 r t₁ n r₁ ∧ n ≤ r.dnsSlices ∧
        (r₁.state? id ≠ some .dns → t₂ = [] ∧ res.2 = r₁) ∧
        (r₁.state? id = some .dns → n = r.dnsSlices ∧
          ∃ c d, r₁.get? id = some c ∧ res.2.get? id = some d ∧ d.state = .init ∧
            d.handle = none ∧ ∀ handle, c.handle = some handle → Returned handle t₂.calls) := by
  intro wait t res
  have hends : wait.Ends t res := Prog.run_ends handler wait s
  obtain ⟨n, r₁, t₁, t₂, ht, hslices, hle, hall, hconcluded⟩ := awaitSlices_slices hends
  obtain ⟨hpaused, hr₁⟩ := hslices.paused hr
  obtain ⟨hstate, hleft⟩ := hconcluded.state hr₁.placed
  refine ⟨?_, ?_, hstate, hleft, n, r₁, t₁, t₂, ht, hslices, hle, hconcluded.over,
    fun hout => ⟨hall hout, hconcluded.out hr₁.placed hout⟩⟩
  · rw [hr.policy]
    exact policy.sanitized_step_pos
  · calc t.pausedMs
        = n * policy.sanitized.dnsStepMs := by
          rw [ht, Trace.pausedMs_append, hpaused, hconcluded.paused, Nat.add_zero]
      _ ≤ r.dnsSlices * policy.sanitized.dnsStepMs := Nat.mul_le_mul_right _ hle
      _ ≤ policy.sanitized.timeoutMs := hr.slices_le

/-! ### On the bench -/

/-- Lookups are answered later, if at all. -/
def silent : Bench.World := { transport := { resolution := .ok .pending } }

/-- A registry with a timeout of one second and slices of 400 ms. -/
def brisk : NetPolicy := { timeoutMs := 1000, dnsStepMs := 400 }

/-- A collector that has not been connected. -/
def resting : (Except RegistryError ConnId × Registry) × Bench.World :=
  silent.run ((Registry.new brisk).getOrCreate "http://coll.example:8080")

/-- The lookup of the collector is out. -/
def looking : Registry × Bench.World :=
  resting.2.run (resting.1.2.change ⟨0⟩ fun c => Connection.Operation.connect.act c 0)

theorem looking_founded : looking.1.Founded brisk := by
  have hcreate := Prog.run_ends (fun op (w : Bench.World) => w.answer op)
    ((Registry.new brisk).getOrCreate "http://coll.example:8080") silent
  have hconnect := Prog.run_ends (fun op (w : Bench.World) => w.answer op)
    (resting.1.2.change ⟨0⟩ fun c => Connection.Operation.connect.act c 0) resting.2
  have hresting := (Deed.getOrCreate hcreate).founded (new_founded brisk)
  exact change_founded .connect hresting rfl hconnect

/-- The address of the collector is found in the first slice of a wait. -/
def answering : Bench.World :=
  looking.2.planReports
    [(1, [{ conn := ⟨0⟩, source := none, kind := .dnsFound (some ⟨192, 0, 2, 1⟩) }])]

/-- If nobody answers, the collector starts over behind two slices.  An answer in the first one ends
the wait, and the collector connects. -/
theorem looking_concluded :
    let wait := looking.1.awaitDns ⟨0⟩ 0
    let paused (w : Bench.World) : Nat :=
      Trace.pausedMs (wait.transcript (fun op (w : Bench.World) => w.answer op) w)
    looking.1.Founded brisk ∧ looking.1.state? ⟨0⟩ = some .dns ∧
      paused looking.2 = 800 ∧ paused looking.2 ≤ 1000 ∧ (looking.2.run wait).1.1 = .init ∧
      paused answering = 400 ∧ paused answering ≤ 1000 ∧
      (answering.run wait).1.1 = .connecting := by
  have hfounded := looking_founded
  obtain ⟨-, hsilent, -⟩ := awaitDns_concludes hfounded ⟨0⟩ 0
    (fun op (w : Bench.World) => w.answer op) looking.2
  obtain ⟨-, hanswered, -⟩ := awaitDns_concludes hfounded ⟨0⟩ 0
    (fun op (w : Bench.World) => w.answer op) answering
  exact ⟨hfounded, by decide +kernel, by decide +kernel, hsilent, by decide +kernel,
    by decide +kernel, hanswered, by decide +kernel⟩

end Registry

end MeterNode
