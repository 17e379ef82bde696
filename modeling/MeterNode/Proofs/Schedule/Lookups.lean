import MeterNode.Proofs.Connection.Lookups
import MeterNode.Proofs.Schedule.Ownership
import MeterNode.Proofs.Upload.Dealings

/-!
# How long a lookup is out

An upload that begins waits for its lookup in the same tick, and the wait ends with the lookup no
longer out.  An entry that has a batch out already and connects again does not wait.  So a lookup
that is out behind a tick was begun by such an entry, in this tick or in an earlier one
(`Scheduler.tick_pending`).

A `Run` records its ticks, the latest first.  `Retried` says of a lookup that it was begun in one of
them by an entry that had a batch out, and has been out ever since.  No timeout ends these lookups:
`Connection.checkTimeout` looks at connects and sends only.
-/

namespace MeterNode

namespace Scheduler

open Connection Registry

variable {s s₁ s' : Scheduler} {index : Nat} {now : Instant} {atDefault : Bool} {e : Entry}
  {c conn : ConnId} {d : Connection} {t : Trace Node}

/-! ## Turns -/

/-- A step of an upload begins a lookup on its own connection at most. -/
theorem serviceEntry_pending (hplaced : s.registry.Placed)
    (h : (s.serviceEntry index now).Gives s') (hpending : s'.registry.Pending c d) :
    s.registry.Pending c d ∨ s.connOf? index = some c ∧ d.connectStarted = some now := by
  obtain ⟨t, h⟩ := h
  cases serviceEntry_ends h with
  | skipped | unconnected => exact Or.inl hpending
  | @stepped e x r _ _ he hget _ hr =>
    have hid : r.conn.id = e.conn := (Uploader.service_id hr.gives).trans (hplaced e.conn x hget)
    rcases hpending.of_set with hold | ⟨rfl, rfl⟩
    · exact Or.inl hold
    · rcases (Uploader.service_operated hr).pending hpending.2 with hsame | hstarted
      · left
        rw [hsame, hplaced e.conn x hget]
        exact ⟨hget, hsame ▸ hpending.2⟩
      · refine Or.inr ⟨?_, hstarted⟩
        rw [connOf?, he, hid]
        rfl

/-- Where an upload begins, no lookup is out behind it that was not out before. -/
theorem beginUpload_noneBegun (hplaced : s.registry.Placed) (hconn : s.connOf? index = some conn)
    (h : (s.beginUpload index conn).Gives s') : NoneBegun s.registry s'.registry := by
  simp only [beginUpload, Act.gives_bind] at h
  obtain ⟨now, -, s₁, hserve, h⟩ := h
  have hplaced₀ : ({ s with windowOpen := true } : Scheduler).registry.Placed := hplaced
  have hserved : ∀ c d, s₁.registry.Pending c d → c ≠ conn → s.registry.Pending c d := by
    intro c d hpending hne
    rcases serviceEntry_pending hplaced₀ hserve hpending with hold | ⟨hconn', -⟩
    · exact hold
    · have hsame : s.connOf? index = some c := hconn'
      rw [hconn, Option.some.injEq] at hsame
      exact absurd hsame.symm hne
  -- the connection of the entry has no lookup out at the end, whether it was waited for or not
  have hother : ∀ {r : Registry} {c d}, r.Pending c d → r.state? conn ≠ some .dns → c ≠ conn := by
    rintro r c d ⟨hget, hs⟩ hnot rfl
    exact hnot (by rw [state?, hget, Option.map_some, hs])
  split at h
  next =>
    simp only [Act.gives_bind, Act.gives_pure] at h
    obtain ⟨⟨state, r⟩, hawait, rfl⟩ := h
    have hplaced₁ := (serviceEntry_gives hplaced₀ hserve).1.placed hplaced₀
    have hnone := (awaitSlices_from sameLookup_passive hplaced₁ hawait).noneBegun
    have hended : r.state? conn ≠ some .dns := by
      obtain ⟨t, hawait⟩ := hawait
      obtain ⟨r₁, -, hplaced₂, hended⟩ := awaitDns_ends hplaced₁ hawait
      exact hended.state? hplaced₂
    intro c d hpending
    exact hserved c d (hnone c d hpending) (hother hpending hended)
  next hs =>
    cases Act.gives_pure.1 h
    intro c d hpending
    exact hserved c d hpending (hother hpending hs)

theorem sendIfReady_pending {res : Bool × Bool × Scheduler} (hplaced : s.registry.Placed)
    (h : (s.sendIfReady index now atDefault).Gives res)
    (hpending : res.2.2.registry.Pending c d) :
    s.registry.Pending c d ∨ s.seats[index]? = some (c, true) ∧ d.connectStarted = some now := by
  obtain ⟨t, h⟩ := h
  cases sendIfReady_sent h with
  | nothing | deferred => exact Or.inl hpending
  | @goesOn e _ s' he hbusy h₁ =>
    rcases serviceEntry_pending hplaced h₁.gives hpending with hold | ⟨hconn, hstarted⟩
    · exact Or.inl hold
    · rw [connOf?, he] at hconn
      exact Or.inr ⟨(seats_getElem? s index c true).2 ⟨e, he, hbusy, Option.some.inj hconn⟩,
        hstarted⟩
  | @begun e _ _ _ _ speed radio s' hdue _ _ hbegin =>
    have hplaced₂ : ({ s with speed, radio } : Scheduler).registry.Placed := hplaced
    have hconn : ({ s with speed, radio } : Scheduler).connOf? index = some e.conn := by
      rw [connOf?]
      exact congrArg (Option.map Entry.conn) hdue.entry
    exact Or.inl (beginUpload_noneBegun hplaced₂ hconn hbegin.gives c d hpending)

/-- A turn begins a lookup that is out behind it only if the entry had a batch out before. -/
theorem turn_pending {res : Bool × Bool × Scheduler} (hplaced : s.registry.Placed)
    (h : (s.turn index now atDefault).Gives res) (hpending : res.2.2.registry.Pending c d) :
    s.registry.Pending c d ∨ s.seats[index]? = some (c, true) ∧ d.connectStarted = some now := by
  simp only [turn, Act.gives_bind] at h
  obtain ⟨⟨atDefault', s₁⟩, hread, hsend⟩ := h
  obtain ⟨⟨hregistry, -, hseats⟩, -⟩ := readIfDue_still hread
  simp only at hregistry hseats
  rw [← hregistry] at hplaced ⊢
  rw [← hseats]
  exact sendIfReady_pending hplaced hsend hpending

/-- A turn leaves the seats of the other entries alone. -/
theorem Turned.seats_ne {i : Nat} (h : Turned index s t s') (hi : i ≠ index) :
    s'.seats[i]? = s.seats[i]? := by
  obtain ⟨s₁, -, hothers, hawaited⟩ := h
  rw [seats, seats, hawaited.kept.2, List.getElem?_map, List.getElem?_map, hothers i hi]

/-- The turns of some entries, one turn each. -/
theorem serveEntries_pending {indices : List Nat} {keep : Bool} {res : Bool × Bool × Scheduler}
    (hsound : s.Sound) (hdistinct : indices.Nodup)
    (h : (serveEntries now indices keep atDefault s).Gives res)
    (hpending : res.2.2.registry.Pending c d) :
    s.registry.Pending c d ∨
      (∃ i ∈ indices, s.seats[i]? = some (c, true)) ∧ d.connectStarted = some now := by
  induction indices generalizing s keep atDefault with
  | nil =>
    simp only [serveEntries, Act.gives_pure] at h
    rw [h] at hpending
    exact Or.inl hpending
  | cons index rest ih =>
    obtain ⟨hfresh, hrest⟩ := List.nodup_cons.1 hdistinct
    rw [serveEntries_cons] at h
    obtain ⟨⟨needs, atDefault', s₁⟩, ⟨t, hturn⟩, h⟩ := Act.gives_bind.1 h
    have hturned := turn_ends hsound.placed hturn
    rcases ih (hsound.turned hturned) hrest h with hold | ⟨⟨i, hi, hseat⟩, hstarted⟩
    · rcases turn_pending hsound.placed hturn.gives hold with hold | ⟨hseat, hstarted⟩
      · exact Or.inl hold
      · exact Or.inr ⟨⟨index, List.mem_cons_self .., hseat⟩, hstarted⟩
    · have hne : i ≠ index := by
        rintro rfl
        exact hfresh hi
      rw [hturned.seats_ne hne] at hseat
      exact Or.inr ⟨⟨i, List.mem_cons_of_mem index hi, hseat⟩, hstarted⟩

/-! ## The other phases -/

theorem Still.noneBegun (h : Still s s') : NoneBegun s.registry s'.registry := by
  rw [h.registry]
  exact .refl s.registry

/-! ## Ticks -/

/-- A lookup that is out behind a tick was out before, or an entry that had a batch out before has
begun it in the tick. -/
theorem tick_pending {res : TickReport × Scheduler} (hsound : s.Sound)
    (h : s.tick.Ends (⟨.now, now⟩ :: t) res) (hpending : res.2.registry.Pending c d) :
    s.registry.Pending c d ∨
      (∃ i : Nat, s.seats[i]? = some (c, true)) ∧ d.connectStarted = some now := by
  obtain ⟨t₁, now', t₂, hnow, htick, htrace⟩ := Prog.ends_bind.1 h
  rw [Prog.ends_perform.1 hnow] at htrace
  obtain rfl : now = now' := by
    cases htrace
    rfl
  have htick := htick.gives
  simp only [Act.gives_bind] at htick
  obtain ⟨s₁, hcount, s₂, hnetwork, atDefault, -, ⟨keep, atDefault', s₃⟩, hserve, s₄, hwindow,
    ⟨up, s₅⟩, hradio, ⟨atDefault'', s₆⟩, hclock, htick⟩ := htick
  have hcounted : Still s s₁ := countTick_still hcount
  have hsound₁ : s₁.Sound := hsound.calm hcounted.calm
  have hsound₂ : s₂.Sound := hsound₁.calm (serviceNetwork_calm hnetwork)
  have hbefore : NoneBegun s.registry s₂.registry :=
    hcounted.noneBegun.trans
      (serviceNetwork_from sameLookup_passive hsound₁.placed hnetwork).noneBegun
  have hseats : s₂.seats = s.seats :=
    (serviceNetwork_calm hnetwork).seats.trans hcounted.seats
  have hbehind : NoneBegun s₃.registry res.2.registry := by
    have hended : NoneBegun s₃.registry s₆.registry :=
      ((completeWindow_still hwindow).noneBegun.trans
        (tendRadio_from sameLookup_passive hradio).noneBegun).trans
          (lowerClock_still hclock).noneBegun
    refine hended.trans ?_
    split at htick
    next =>
      obtain ⟨s₇, hstatus, htick⟩ := Act.gives_bind.1 htick
      rw [Act.gives_pure.1 htick]
      exact (logStatus_still hstatus).noneBegun
    next =>
      obtain ⟨s₇, hsame, htick⟩ := Act.gives_bind.1 htick
      rw [Act.gives_pure.1 htick, Act.gives_pure.1 hsame]
      exact .refl s₆.registry
  rcases serveEntries_pending hsound₂ List.nodup_range hserve (hbehind c d hpending) with
    hold | ⟨⟨i, -, hseat⟩, hstarted⟩
  · exact Or.inl (hbefore c d hold)
  · rw [hseats] at hseat
    exact Or.inr ⟨⟨i, hseat⟩, hstarted⟩

/-! ## Building -/

section Building

variable {r r' : Registry} {setup : NodeSetup}

/-- No lookups are out. -/
def NoLookups (r : Registry) : Prop := ∀ c d, ¬ r.Pending c d

theorem noLookups_kept : KeptBySetup NoLookups where
  extended := by
    rintro r r' hnone hextended c d ⟨hget, hs⟩
    rcases hextended.get? hget with hold | ⟨-, hinit⟩
    · exact hnone c d ⟨hold, hs⟩
    · rw [hinit] at hs
      cases hs
  headers := by
    rintro r id c hnone hget c' d hpending
    rcases hpending.of_set with hold | ⟨-, rfl⟩
    · exact hnone c' d hold
    · exact hnone id c ⟨hget, hpending.2⟩

/-- A node that was just put together has no lookups out. -/
theorem build_noLookups (h : setup.build.Gives (.ok s)) : NoLookups s.registry :=
  noLookups_kept.build (fun c d hpending => by cases hpending.1) h

end Building

/-! ## Runs of ticks -/

/-- A tick: when it began, and the node before and behind it. -/
structure TickRecord where
  start : Instant
  before : Scheduler
  after : Scheduler

/-- A run of a node with its ticks, the latest first. -/
inductive Run (setup : NodeSetup) : List TickRecord → Scheduler → Prop where
  | built {s : Scheduler} : setup.build.Gives (.ok s) → Run setup [] s
  | start {ticks : List TickRecord} {s : Scheduler} {res : Except Fault Unit × Scheduler} :
      Run setup ticks s → s.start.Gives res → Run setup ticks res.2
  | tick {ticks : List TickRecord} {s : Scheduler} {now : Instant} {t : Trace Node}
      {res : TickReport × Scheduler} : Run setup ticks s → s.tick.Ends (⟨.now, now⟩ :: t) res →
      Run setup (⟨now, s, res.2⟩ :: ticks) res.2

variable {setup : NodeSetup} {ticks : List TickRecord} {last : TickRecord} {began : Instant}

theorem Run.reached (h : Run setup ticks s) : Reached s := by
  induction h with
  | built hbuild => exact .fresh (build_fresh hbuild)
  | start _ hstart ih => exact ih.phase (.start hstart)
  | tick _ htick ih => exact ih.tick htick.gives

/-- The lookup of a connection was begun in one of the ticks, for an entry that had a batch out on
the connection before the tick, and has been out ever since. -/
inductive Retried : List TickRecord → ConnId → Connection → Instant → Prop where
  | begun {ticks : List TickRecord} {last : TickRecord} {c : ConnId} {d : Connection} {e : Entry} :
      e ∈ last.before.entries → e.isBusy = true → e.conn = c →
      last.after.registry.Pending c d → d.connectStarted = some last.start →
      Retried (last :: ticks) c d last.start
  | still {ticks : List TickRecord} {last : TickRecord} {c : ConnId} {d : Connection}
      {began : Instant} : Retried ticks c d began → last.before.registry.Pending c d →
      last.after.registry.Pending c d → Retried (last :: ticks) c d began

theorem Retried.started (h : Retried ticks c d began) : d.connectStarted = some began := by
  induction h with
  | begun _ _ _ _ hstarted => exact hstarted
  | still _ _ _ ih => exact ih

theorem Retried.pending (h : Retried (last :: ticks) c d began) :
    last.after.registry.Pending c d := by
  cases h with
  | begun _ _ _ hpending _ => exact hpending
  | still _ _ hpending => exact hpending

/-- Behind its last tick, nothing has happened to the connections of a node. -/
theorem Run.registry (h : Run setup (last :: ticks) s) : s.registry = last.after.registry := by
  generalize hall : last :: ticks = all at h
  induction h with
  | built => cases hall
  | start _ hstart ih => exact (start_still hstart).registry.trans (ih hall)
  | tick =>
    cases hall
    rfl

/-- Every lookup that is out was begun by an entry that had a batch out. -/
theorem Run.pending_retried (h : Run setup ticks s) (hpending : s.registry.Pending c d) :
    ∃ began, Retried ticks c d began := by
  induction h with
  | built hbuild => exact absurd hpending (build_noLookups hbuild c d)
  | start _ hstart ih => exact ih ((start_still hstart).noneBegun c d hpending)
  | tick hrun htick ih =>
    rcases tick_pending hrun.reached.sound htick hpending with hold | ⟨⟨i, hseat⟩, hstarted⟩
    · obtain ⟨began, hretried⟩ := ih hold
      exact ⟨began, .still hretried hold hpending⟩
    · obtain ⟨e, he, hbusy, hconn⟩ := (seats_getElem? _ i c true).1 hseat
      exact ⟨_, .begun (List.mem_of_getElem? he) hbusy hconn hpending hstarted⟩

/-- Behind every tick, the lookups that are out are those that an entry with a batch out has begun
again.  So no lookup is out that was begun longer than the timeout before the tick if and only if
none of these is. -/
theorem Run.lookups_bounded_iff (h : Run setup (last :: ticks) s) :
    (∀ c d, s.registry.Pending c d ↔ ∃ began, Retried (last :: ticks) c d began) ∧
      ((∀ c d began, s.registry.Pending c d → d.connectStarted = some began →
          last.start.since began ≤ Instant.ofMillis setup.net.sanitized.timeoutMs) ↔
        ∀ c d began, Retried (last :: ticks) c d began →
          last.start.since began ≤ Instant.ofMillis setup.net.sanitized.timeoutMs) := by
  have hiff (c : ConnId) (d : Connection) :
      s.registry.Pending c d ↔ ∃ began, Retried (last :: ticks) c d began := by
    constructor
    · exact h.pending_retried
    · rintro ⟨began, hretried⟩
      rw [h.registry]
      exact hretried.pending
  refine ⟨hiff, ?_⟩
  constructor
  · intro hbounded c d began hretried
    exact hbounded c d began ((hiff c d).2 ⟨began, hretried⟩) hretried.started
  · intro hbounded c d began hpending hstarted
    obtain ⟨began', hretried⟩ := (hiff c d).1 hpending
    have hsame : began = began' :=
      Option.some.inj (hstarted.symm.trans hretried.started)
    rw [hsame]
    exact hbounded c d began' hretried

/-! ## On the bench -/

/-- A meter whose samples go to a collector, with a timeout of a second. -/
def lone : NodeSetup :=
  { sources :=
      [{ url := "http://coll.example:8080/middleware.php"
         source := .external ⟨0, "em", Instant.ofSeconds 60, false, false⟩
         channels := [{ uuid := "u", identifier := none }] }]
    net := { timeoutMs := 1000, dnsStepMs := 1000 }
    utc := 1 }

/-- The node, put together on a bench where every lookup stays out. -/
def waiting : Scheduler × Bench.World :=
  match (bench (.ok .pending)).run lone.build with
  | (.ok s, w) => (s, w)
  | (.error _, w) => (sharing, w)

theorem waiting_run : Run lone [] waiting.1 := by
  have hbuilt : ((bench (.ok .pending)).run lone.build).1.toBool = true := by decide +kernel
  have hgives := (Prog.run_ends (fun op w => Bench.World.answer w op) lone.build
    (bench (.ok .pending))).gives
  unfold waiting
  generalize hres : (bench (.ok .pending)).run lone.build = res at hbuilt
  rw [show Prog.run (fun op w => Bench.World.answer w op) lone.build (bench (.ok .pending)) = res
    from hres] at hgives
  obtain ⟨result, w⟩ := res
  cases result with
  | error cause => cases hbuilt
  | ok s => exact .built hgives

/-- The next tick, at a time. -/
def tickAt : List TickRecord × Scheduler × Bench.World → Instant →
    List TickRecord × Scheduler × Bench.World
  | (ticks, s, w), now =>
      let (res, w) := { w with clock := now }.run s.tick
      (⟨now, s, res.2⟩ :: ticks, res.2, w)

/-- The node after it was started and has ticked at some times. -/
def tickedAt (times : List Instant) : List TickRecord × Scheduler × Bench.World :=
  let (res, w) := waiting.2.run waiting.1.start
  times.foldl tickAt ([], res.2, w)

theorem tickedAt_run (times : List Instant) : Run lone (tickedAt times).1 (tickedAt times).2.1 := by
  have hfold : ∀ x : List TickRecord × Scheduler × Bench.World, Run lone x.1 x.2.1 →
      Run lone (times.foldl tickAt x).1 (times.foldl tickAt x).2.1 := by
    induction times with
    | nil =>
      intro x h
      exact h
    | cons now times ih =>
      rintro ⟨ticks, s, w⟩ h
      have hends := Prog.run_ends (fun op w => Bench.World.answer w op) s.tick
        { w with clock := now }
      obtain ⟨t, ht⟩ : ∃ t, Prog.transcript (fun op w => Bench.World.answer w op) s.tick
          { w with clock := now } = ⟨.now, now⟩ :: t := ⟨_, rfl⟩
      rw [ht] at hends
      exact ih _ (h.tick hends)
  exact hfold _ (waiting_run.start (Prog.run_ends _ _ waiting.2).gives)

/-- In the second tick the entry connects again for its batch, and nobody waits for the lookup. -/
theorem lookups_bounded_of_retry :
    ∃ d began, (tickedAt [0, 2000000]).2.1.registry.Pending ⟨0⟩ d ∧
      Retried (tickedAt [0, 2000000]).1 ⟨0⟩ d began := by
  obtain ⟨d, hget, hs⟩ : ∃ d, (tickedAt [0, 2000000]).2.1.registry.get? ⟨0⟩ = some d ∧
      d.state = .dns := by
    refine Option.map_eq_some_iff.1
      (show (tickedAt [0, 2000000]).2.1.registry.state? ⟨0⟩ = _ from ?_)
    decide +kernel
  obtain ⟨began, hretried⟩ := ((tickedAt_run [0, 2000000]).lookups_bounded_iff.1 ⟨0⟩ d).1 ⟨hget, hs⟩
  exact ⟨d, began, ⟨hget, hs⟩, hretried⟩

/-- Eight seconds later the lookup is still out, with a timeout of one second. -/
theorem lookup_out_for_good :
    ∃ last ticks s, Run lone (last :: ticks) s ∧ ∃ c d began, s.registry.Pending c d ∧
      d.connectStarted = some began ∧
        Instant.ofMillis lone.net.sanitized.timeoutMs < last.start.since began := by
  have hrun := tickedAt_run [0, 2000000, 10000000]
  obtain ⟨d, hget, hs⟩ : ∃ d, (tickedAt [0, 2000000, 10000000]).2.1.registry.get? ⟨0⟩ = some d ∧
      (d.state, d.connectStarted) = (.dns, some 2000000) := by
    refine Option.map_eq_some_iff.1 ?_
    decide +kernel
  obtain ⟨hdns, hbegan⟩ := Prod.mk.inj hs
  exact ⟨_, _, _, hrun, ⟨0⟩, d, 2000000, ⟨hget, hdns⟩, hbegan, by decide +kernel⟩

end Scheduler

end MeterNode
