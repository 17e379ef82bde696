import MeterNode.Bench.World
import MeterNode.Proofs.Connection.Demands
import MeterNode.Proofs.Schedule.Phases

/-!
# Runs of the node

A run of the node is made of phases: it is started, and in every tick the phases of the tick follow
each other, with one turn for each entry.  `Scheduler.Reached` holds of the states between any two
phases, and in particular behind every tick (`Scheduler.Reached.tick`).

Runs begin in a state in which no batch is out.  A node that was just put together is in such a
state (`Scheduler.build_fresh`).  What is known of its connections comes from `KeptBySetup`:
setting up only adds connections and installs headers, and it is enough to look at these two.
-/

namespace MeterNode

namespace Scheduler

variable {s s' : Scheduler} {index : Nat} {now : Instant} {atDefault : Bool}

/-! ## Phases -/

/-- The turn of an entry: it is read if it is due, and then its upload begins or goes on. -/
def turn (s : Scheduler) (index : Nat) (now : Instant) (atDefault : Bool) :
    Act (Bool × Bool × Scheduler) := do
  let (atDefault, s) ← s.readIfDue index now atDefault
  s.sendIfReady index now atDefault

theorem serveEntries_cons {rest : List Nat} {keep : Bool} :
    serveEntries now (index :: rest) keep atDefault s = (do
      let (needs, atDefault, s) ← s.turn index now atDefault
      serveEntries now rest (keep || needs) atDefault s) := by
  simp only [serveEntries, turn, bind_assoc]

/-- One phase of a run. -/
inductive Phase : Scheduler → Scheduler → Prop where
  | start {s : Scheduler} {res : Except Fault Unit × Scheduler} : s.start.Gives res → Phase s res.2
  | count {s s' : Scheduler} : s.countTick.Gives s' → Phase s s'
  | network {s s' : Scheduler} (now : Instant) : (s.serviceNetwork now).Gives s' → Phase s s'
  | turn {s : Scheduler} (index : Nat) (now : Instant) (atDefault : Bool)
      {res : Bool × Bool × Scheduler} : (s.turn index now atDefault).Gives res → Phase s res.2.2
  | window {s s' : Scheduler} (now : Instant) : (s.completeWindow now).Gives s' → Phase s s'
  | radio {s : Scheduler} (keep atDefault statusTick : Bool) (due : Instant)
      {res : Bool × Scheduler} : (s.tendRadio keep atDefault statusTick due).Gives res →
      Phase s res.2
  | clock {s : Scheduler} (atDefault : Bool) {res : Bool × Scheduler} :
      (s.lowerClock atDefault).Gives res → Phase s res.2
  | status {s s' : Scheduler} (due : Instant) (up : Bool) : (s.logStatus due up).Gives s' →
      Phase s s'

/-- No batch is out, and the connections are at their places. -/
structure Fresh (s : Scheduler) : Prop where
  placed : s.registry.Placed
  exchanges : s.exchanges = []
  idle : ∀ e ∈ s.entries, e.isBusy = false

/-! ## Setting up -/

/-- Setting a node up keeps this about the connections: it adds some, and installs the headers of
some. -/
structure KeptBySetup (P : Registry → Prop) : Prop where
  extended : ∀ {r r' : Registry}, P r → r.Extended r' → P r'
  headers : ∀ {r : Registry} {id : ConnId} {c : Connection}, P r → r.get? id = some c →
    P (r.set (Uploader.installHeaders c))

section SettingUp

variable {P : Registry → Prop} {setup : NodeSetup} {r r' : Registry}

theorem placed_kept : KeptBySetup Registry.Placed where
  extended hplaced hextended := hextended.placed hplaced
  headers hplaced _ := hplaced.set _

theorem KeptBySetup.addCollector (hkept : KeptBySetup P) {url : String}
    {res : Except RegistryError (ConnId × String) × Registry} (hr : P r)
    (h : (r.addCollector url).Gives res) : P res.2 := by
  simp only [Registry.addCollector, Act.gives_bind] at h
  obtain ⟨⟨result, r₁⟩, hget, h⟩ := h
  have hr₁ : P r₁ := hkept.extended hr (Registry.getOrCreate_gives hget)
  cases result with
  | error cause =>
    rw [Act.gives_pure.1 h]
    exact hr₁
  | ok id =>
    simp only at h
    split at h
    next =>
      rw [Act.gives_pure.1 h]
      exact hr₁
    next c hc =>
      rw [Act.gives_pure.1 h]
      exact hkept.headers hr₁ hc

theorem KeptBySetup.connectEach (hkept : KeptBySetup P) {sources : List SourceSetup}
    {res : Except RegistryError (List Entry) × Registry} (hr : P r)
    (h : (NodeSetup.connectEach sources r).Gives res) : P res.2 := by
  induction sources generalizing r res with
  | nil =>
    rw [Act.gives_pure.1 h]
    exact hr
  | cons source rest ih =>
    simp only [NodeSetup.connectEach, Act.gives_bind] at h
    obtain ⟨⟨result, r₁⟩, hadd, h⟩ := h
    have hr₁ : P r₁ := hkept.addCollector hr hadd
    cases result with
    | error cause =>
      rw [Act.gives_pure.1 h]
      exact hr₁
    | ok found =>
      obtain ⟨⟨result, r₂⟩, hrest, h⟩ := Act.gives_bind.1 h
      have hr₂ : P r₂ := ih hr₁ hrest
      rw [Act.gives_pure.1 h]
      exact hr₂

theorem KeptBySetup.startServer (hkept : KeptBySetup P)
    {res : Except RegistryError Unit × Registry} (hr : P r)
    (h : (setup.startServer r).Gives res) : P res.2 := by
  unfold NodeSetup.startServer at h
  split at h
  next =>
    rw [Act.gives_pure.1 h]
    exact hr
  next port _ =>
    obtain ⟨res, hstart, h⟩ := Act.gives_bind.1 h
    rw [Act.gives_pure.1 h]
    exact hkept.extended hr (Registry.startServer_gives hstart)

/-- What the entry of a source has whatever its connection, all entries have. -/
theorem connectEach_map {α : Type} {f : Entry → α} {g : SourceSetup → α}
    (hf : ∀ source conn path, f (NodeSetup.entryOf source conn path) = g source)
    {sources : List SourceSetup} {entries : List Entry}
    (h : (NodeSetup.connectEach sources r).Gives (.ok entries, r')) :
    entries.map f = sources.map g := by
  induction sources generalizing r entries with
  | nil =>
    cases Act.gives_pure.1 h
    rfl
  | cons source rest ih =>
    simp only [NodeSetup.connectEach, Act.gives_bind] at h
    obtain ⟨⟨result, r₁⟩, -, h⟩ := h
    cases result with
    | error cause => cases Act.gives_pure.1 h
    | ok found =>
      obtain ⟨⟨result, r₂⟩, hrest, h⟩ := Act.gives_bind.1 h
      cases result with
      | error cause => cases Act.gives_pure.1 h
      | ok others =>
        cases Act.gives_pure.1 h
        rw [List.map_cons, List.map_cons, hf, ih hrest]

/-- New entries have no batch out and are not held. -/
theorem connectEach_new {sources : List SourceSetup} {entries : List Entry}
    (h : (NodeSetup.connectEach sources r).Gives (.ok entries, r')) :
    ∀ e ∈ entries, e.isBusy = false ∧ e.held = false := by
  intro e he
  have hnew : entries.map (fun e => (e.isBusy, e.held)) = sources.map fun _ => (false, false) :=
    connectEach_map (fun _ _ _ => rfl) h
  have hmem : (e.isBusy, e.held) ∈ sources.map fun _ => (false, false) :=
    hnew ▸ List.mem_map_of_mem he
  obtain ⟨_, -, heq⟩ := List.mem_map.1 hmem
  exact ⟨(Prod.mk.inj heq).1.symm, (Prod.mk.inj heq).2.symm⟩

/-- A node that was put together has its collectors connected and its server started. -/
theorem build_gives (h : setup.build.Gives (.ok s)) :
    s.exchanges = [] ∧ s.windowOpen = false ∧
      ∃ r, (NodeSetup.connectEach setup.sources (Registry.new setup.net)).Gives (.ok s.entries, r) ∧
        (setup.startServer r).Gives (.ok (), s.registry) := by
  simp only [NodeSetup.build, Act.gives_bind] at h
  obtain ⟨⟨result, r⟩, hconnect, h⟩ := h
  cases result with
  | error cause => cases Act.gives_pure.1 h
  | ok entries =>
    obtain ⟨⟨result, r₁⟩, hserver, h⟩ := Act.gives_bind.1 h
    cases result with
    | error cause => cases Act.gives_pure.1 h
    | ok u =>
      simp only [NodeSetup.finish, Act.gives_bind] at h
      obtain ⟨now, -, h⟩ := h
      split at h
      next => cases Act.gives_pure.1 h
      next time _ =>
        obtain ⟨radio, -, h⟩ := Act.gives_bind.1 h
        obtain ⟨speed, -, h⟩ := Act.gives_bind.1 h
        cases Act.gives_pure.1 h
        exact ⟨rfl, rfl, r, hconnect, hserver⟩

theorem KeptBySetup.build (hkept : KeptBySetup P) (hnew : P (Registry.new setup.net))
    (h : setup.build.Gives (.ok s)) : P s.registry := by
  obtain ⟨-, -, r, hconnect, hserver⟩ := build_gives h
  exact hkept.startServer (hkept.connectEach hnew hconnect) hserver

/-- A node that was just put together has no batch out. -/
theorem build_fresh (h : setup.build.Gives (.ok s)) : s.Fresh := by
  obtain ⟨hexchanges, -, r, hconnect, -⟩ := build_gives h
  exact ⟨placed_kept.build (Registry.new_placed setup.net) h, hexchanges,
    fun e he => (connectEach_new hconnect e he).1⟩

end SettingUp

/-! ## Runs -/

/-- The states of all runs, also in the middle of a tick. -/
inductive Reached : Scheduler → Prop where
  | fresh {s : Scheduler} : s.Fresh → Reached s
  | phase {s s' : Scheduler} : Reached s → Phase s s' → Reached s'

theorem Reached.serveEntries {indices : List Nat} {keep : Bool} {res : Bool × Bool × Scheduler}
    (h : Reached s) (hserve : (serveEntries now indices keep atDefault s).Gives res) :
    Reached res.2.2 := by
  induction indices generalizing s keep atDefault with
  | nil =>
    simp only [Scheduler.serveEntries, Act.gives_pure] at hserve
    rw [hserve]
    exact h
  | cons index rest ih =>
    rw [serveEntries_cons] at hserve
    obtain ⟨⟨needs, atDefault', s'⟩, hturn, hrest⟩ := Act.gives_bind.1 hserve
    exact ih (h.phase (.turn index now atDefault hturn)) hrest

/-- A tick is made of phases. -/
theorem Reached.tick {res : TickReport × Scheduler} (h : Reached s) (htick : s.tick.Gives res) :
    Reached res.2 := by
  simp only [Scheduler.tick, Act.gives_bind] at htick
  obtain ⟨now, -, s₁, hcount, s₂, hnetwork, atDefault, -, ⟨keep, atDefault', s₃⟩, hserve, s₄,
    hwindow, ⟨up, s₅⟩, hradio, ⟨atDefault'', s₆⟩, hclock, htick⟩ := htick
  have hserved : Reached s₃ :=
    ((h.phase (.count hcount)).phase (.network now hnetwork)).serveEntries hserve
  have hended : Reached s₆ :=
    ((hserved.phase (.window now hwindow)).phase (.radio _ _ _ _ hradio)).phase (.clock _ hclock)
  split at htick
  next =>
    obtain ⟨s₇, hstatus, htick⟩ := Act.gives_bind.1 htick
    rw [Act.gives_pure.1 htick]
    exact hended.phase (.status _ _ hstatus)
  next =>
    obtain ⟨s₇, hsame, htick⟩ := Act.gives_bind.1 htick
    rw [Act.gives_pure.1 htick, Act.gives_pure.1 hsame]
    exact hended

/-! ## Runs on the bench -/

/-- What can happen next on the bench. -/
inductive Happening where
  | start
  | tick
  /-- A tick begins: it is counted, and the reports are applied. -/
  | opening
  /-- The turn of an entry, with the processor at its default frequency. -/
  | turn (index : Nat)

/-- Let it happen. -/
def happen : Scheduler × Bench.World → Happening → Scheduler × Bench.World
  | (s, w), .start =>
      let (res, w) := w.run s.start
      (res.2, w)
  | (s, w), .tick =>
      let (res, w) := w.run s.tick
      (res.2, w)
  | (s, w), .opening =>
      let (s, w) := w.run s.countTick
      w.run (s.serviceNetwork w.clock)
  | (s, w), .turn index =>
      let (res, w) := w.run (s.turn index w.clock true)
      (res.2.2, w)

theorem happen_reached {sw : Scheduler × Bench.World} (h : Reached sw.1) (x : Happening) :
    Reached (happen sw x).1 := by
  obtain ⟨s, w⟩ := sw
  cases x with
  | start => exact h.phase (.start (Prog.run_ends _ _ w).gives)
  | tick => exact h.tick (Prog.run_ends _ _ w).gives
  | opening =>
    have hcount : Reached (w.run s.countTick).1 := h.phase (.count (Prog.run_ends _ _ w).gives)
    exact hcount.phase (.network _ (Prog.run_ends _ _ (w.run s.countTick).2).gives)
  | turn index => exact h.phase (.turn index w.clock true (Prog.run_ends _ _ w).gives)

theorem play_reached {sw : Scheduler × Bench.World} (h : Reached sw.1) (xs : List Happening) :
    Reached (xs.foldl happen sw).1 := by
  induction xs generalizing sw with
  | nil => exact h
  | cons x xs ih => exact ih (happen_reached h x)

/-- A meter with one channel, whose samples go to the collector of the first connection. -/
def metered (uuid : String) : Entry :=
  { source := .external ⟨0, "em", Instant.ofSeconds 60, false, false⟩
    channels := [{ uuid, identifier := none }]
    conn := ⟨0⟩
    uploader := Uploader.new "/middleware.php" }

/-- Two entries that share a connection. -/
def sharing : Scheduler :=
  { entries := [metered "u", metered "v"]
    registry :=
      { policy := { timeoutMs := 1000, dnsStepMs := 1000 }
        connections :=
          [{ id := ⟨0⟩, label := "lwi0", role := .client ⟨.http, "coll.example", 8080, ""⟩
             timeout := Instant.ofSeconds 1 }] }
    radio := { policy := {}, link := { since := 0 } }
    speed := { defaultMhz := 240, since := 0 }
    time := ⟨0, 1, 0⟩
    policy := {} }

theorem sharing_reached : Reached sharing := by
  refine .fresh ⟨fun id c hc => ?_, rfl, by decide⟩
  have hindex : id.index.toNat = 0 := Nat.lt_one_iff.1 (List.getElem?_eq_some_iff.1 hc).1
  obtain rfl : id = ⟨0⟩ := Registry.toNat_index_inj.1 hindex
  cases hc
  rfl

/-- A bench whose meter works and whose radio joins; lookups come to `resolution`. -/
def bench (resolution : Except NetError Resolution) : Bench.World :=
  { meters := [.steady 0 0]
    radio := { joins := [none] }
    transport := { resolution } }

end Scheduler

end MeterNode
