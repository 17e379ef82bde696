import MeterNode.Bench.World
import MeterNode.Proofs.Connection.Deeds
import MeterNode.Proofs.Connection.Sockets

/-!
# Who holds which socket

The sockets of a transport are its scarcest good: one that is forgotten is lost for good, and one
that is given back twice may by then belong to somebody else.  A `Custody` is a registry together
with the live sockets of its transport.  The transport keeps to two rules.  It gives out a socket
only if it is not live (`Sockets.Allows`), and with a report it does one of three things on its own
(`Registry.Brings`): nothing, or it frees a socket and reports an error to the holder, or it lets in
a visitor of the server on a new socket.

A live socket can get lost in two ways (`Registry.forgotten`), and both need a transport that
reports in an unusual way.  An error is taken to mean that the socket is gone already, so a
connection that hears of one forgets a socket that is still there.  A visitor reported with the tag
of another socket is not listened to, and nobody takes the visitor's socket.

`Custody.Sound` is what all runs have in common: a live socket is the listener, or held by exactly
one connection, or one of those that got lost in these ways.
-/

namespace MeterNode

open Connection

variable {r r' : Registry} {y start : Sockets} {event : TransportEvent} {c d : Connection}
  {calls : List NetCall.Done}

/-! ## The transport on its own -/

/-- What a transport may do on its own when a report is delivered. -/
inductive Registry.Brings (r : Registry) (x : Sockets) (event : TransportEvent) :
    Sockets → Prop where
  | nothing : (∀ handle, event.kind ≠ .accepted (.ok handle)) → Brings r x event x
  /-- A socket ends, and its holder is told. -/
  | freed {c : Connection} {handle : Handle} {cause : NetError} : r.get? event.conn = some c →
      c.handle = some handle → event.source = some handle → event.kind = .error cause →
      Brings r x event (x.drop handle)
  /-- The server has a visitor. -/
  | visitor {handle : Handle} {port : Nat} : event.kind = .accepted (.ok handle) →
      r.server = some (event.conn, port) → handle ∉ x.live → Brings r x event (x.add handle)

/-- The live sockets that a report makes everybody forget. -/
def Registry.forgotten (r : Registry) (x : Sockets) (event : TransportEvent) : List Handle :=
  match r.get? event.conn, event.kind with
  | some c, .error _ =>
      if c.Hears event.source then c.handle.toList.filter (· ∈ x.live) else []
  | some c, .accepted (.ok handle) => if c.Hears event.source then [] else [handle]
  | _, _ => []

theorem Registry.forgotten_error {cause : NetError} (hget : r.get? event.conn = some c)
    (hkind : event.kind = .error cause) :
    r.forgotten y event =
      if c.Hears event.source then c.handle.toList.filter (· ∈ y.live) else [] := by
  rw [forgotten, hget, hkind]

theorem Registry.forgotten_accepted {handle : Handle} (hget : r.get? event.conn = some c)
    (hkind : event.kind = .accepted (.ok handle)) :
    r.forgotten y event = if c.Hears event.source then [] else [handle] := by
  rw [forgotten, hget, hkind]

theorem Registry.forgotten_of_stays (hstays : event.kind.takesOver = false) :
    r.forgotten y event = [] := by
  simp only [forgotten]
  split
  next h => simp [h, EventKind.takesOver] at hstays
  next h => simp [h, EventKind.takesOver] at hstays
  next => rfl

theorem EventKind.of_takesOver {kind : EventKind} (h : kind.takesOver = true) :
    (∃ cause, kind = .error cause) ∨ ∃ handle, kind = .accepted (.ok handle) := by
  cases kind with
  | error cause => exact Or.inl ⟨cause, rfl⟩
  | accepted result =>
    cases result with
    | ok handle => exact Or.inr ⟨handle, rfl⟩
    | error cause => cases h
  | dnsFound | connected | received | peerClosed | sent | poll => cases h

/-- A connection holds a socket. -/
def Registry.Holds (r : Registry) (i : Nat) (handle : Handle) : Prop :=
  ∃ c, r.connections[i]? = some c ∧ c.handle = some handle

theorem Registry.holds_place {id : ConnId} {handle : Handle} (hget : r.get? id = some c) :
    r.Holds id.index.toNat handle ↔ c.handle = some handle := by
  constructor
  · rintro ⟨c', hget', hh⟩
    cases hget.symm.trans hget'
    exact hh
  · intro hh
    exact ⟨c, hget, hh⟩

/-- One connection has been replaced. -/
theorem Registry.holds_set {i j : Nat} {handle : Handle} (hc : r.connections[i]? = some c)
    (hr : r'.connections = r.connections.set i d) :
    r'.Holds j handle ↔ j = i ∧ d.handle = some handle ∨ j ≠ i ∧ r.Holds j handle := by
  simp only [Holds, hr, List.getElem?_set']
  by_cases hij : i = j
  · subst hij
    simp [hc]
  · simp [hij, Ne.symm hij]

theorem Registry.Added.holds {i : Nat} {handle : Handle} (h : r.Added c r') :
    r'.Holds i handle ↔ i = r.connections.length ∧ c.handle = some handle ∨ r.Holds i handle := by
  simp only [Holds, h.connections, List.getElem?_append]
  by_cases hlt : i < r.connections.length
  · simp [hlt, Nat.ne_of_lt hlt]
  · have hout : r.connections[i]? = none := List.getElem?_eq_none (Nat.not_lt.1 hlt)
    simp only [hlt, if_false, hout]
    by_cases hlast : i = r.connections.length
    · simp [hlast]
    · have : i - r.connections.length ≠ 0 := by omega
      simp [hlast, this]

/-! ## Custody -/

/-- A registry, the live sockets, and those among them that got lost. -/
structure Custody where
  registry : Registry
  sockets : Sockets := {}
  strays : List Handle := []

namespace Custody

variable {x x' : Custody}

/-- A deed is done.  It starts with the sockets that the transport leaves of them on its own. -/
inductive Step : Custody → Sockets → List NetCall.Done → Custody → Prop where
  | own {x : Custody} {calls : List NetCall.Done} {r : Registry} {y : Sockets} :
      Registry.Deed x.registry none calls r → x.sockets.Serves calls y →
      Step x x.sockets calls { x with registry := r, sockets := y }
  | report {x : Custody} {event : TransportEvent} {calls : List NetCall.Done} {r : Registry}
      {start y : Sockets} : x.registry.Brings x.sockets event start →
      Registry.Deed x.registry (some event) calls r → start.Serves calls y →
      Step x start calls
        { registry := r, sockets := y, strays := x.registry.forgotten start event ++ x.strays }

/-- The custodies of all runs. -/
inductive Reached : Custody → Prop where
  | start (policy : NetPolicy) : Reached { registry := Registry.new policy }
  | step {x x' : Custody} {start : Sockets} {calls : List NetCall.Done} : Reached x →
      Step x start calls x' → Reached x'

/-- What all runs have in common. -/
structure Sound (x : Custody) : Prop where
  indexed : x.registry.Indexed
  served : ∀ id port, x.registry.server = some (id, port) → (x.registry.get? id).isSome
  held : ∀ i handle, x.registry.Holds i handle →
    handle ∈ x.sockets.live ∧ x.sockets.listener ≠ some handle ∧ handle ∉ x.strays
  apart : ∀ i j handle, x.registry.Holds i handle → x.registry.Holds j handle → i = j
  kept : ∀ handle ∈ x.sockets.live,
    x.sockets.listener = some handle ∨ handle ∈ x.strays ∨ ∃ i, x.registry.Holds i handle
  lost : ∀ handle ∈ x.strays, handle ∈ x.sockets.live ∧ x.sockets.listener ≠ some handle
  listening : ∀ handle, x.sockets.listener = some handle →
    handle ∈ x.sockets.live ∧ x.registry.server.isSome

theorem start_sound (policy : NetPolicy) : Sound { registry := Registry.new policy } where
  indexed i c hc := by cases hc
  served id port hserver := by cases hserver
  held i handle hholds := by
    obtain ⟨c, hc, -⟩ := hholds
    cases hc
  apart i j handle hholds := by
    obtain ⟨c, hc, -⟩ := hholds
    cases hc
  kept handle hlive := by cases hlive
  lost handle hlost := by cases hlost
  listening handle hlistener := by cases hlistener

/-! ## One connection changes -/

/-- A connection went from one socket to another and may have lost some live ones. -/
structure Passed (s : Sockets) (held last : Option Handle) (lost : List Handle) (y : Sockets) :
    Prop where
  listener : y.listener = s.listener
  live : ∀ handle, handle ∈ y.live ↔
    last = some handle ∨ handle ∈ lost ∨ handle ∈ s.live ∧ held ≠ some handle
  new : ∀ handle, last = some handle ∨ handle ∈ lost → held = some handle ∨ handle ∉ s.live
  gone : ∀ handle ∈ lost, last ≠ some handle

theorem Passed.of_served {s : Sockets} {held last : Option Handle} (h : Served held s last y) :
    Passed s held last [] y where
  listener := h.listener
  live handle := by simp [h.live handle]
  new handle hnew := h.new handle (by simpa using hnew)
  gone handle hnil := by cases hnil

/-- A socket is forgotten without a call, unless the transport has freed it. -/
theorem Passed.forgot {s : Sockets} {held : Option Handle} (hlistener : y.listener = s.listener)
    (hfewer : ∀ handle ∈ y.live, handle ∈ s.live)
    (hothers : ∀ handle ∈ s.live, held ≠ some handle → handle ∈ y.live) :
    Passed s held none (held.toList.filter (· ∈ y.live)) y where
  listener := hlistener
  live handle := by
    by_cases hheld : held = some handle
    · simp [hheld]
    · simpa [hheld] using ⟨hfewer handle, fun hmem => hothers handle hmem hheld⟩
  new handle hnew := by
    rcases hnew with hnone | hlost
    · cases hnone
    · simp only [List.mem_filter, Option.mem_toList] at hlost
      exact Or.inl hlost.1
  gone _ _ hnone := by cases hnone

/-- A visitor is let in whom the connection does not take. -/
theorem Passed.missed {s : Sockets} {held : Option Handle} {handle : Handle}
    (h : Served held (s.add handle) held y) (hdead : handle ∉ s.live)
    (hlive : ∀ other, held = some other → other ∈ s.live) : Passed s held held [handle] y where
  listener := h.listener
  live other := by
    rw [h.live other, Sockets.mem_add, List.mem_singleton]
    have := hlive other
    by_cases hheld : held = some other <;> simp_all
  new other hnew := by
    rcases hnew with hheld | hlost
    · exact Or.inl hheld
    · rw [List.mem_singleton.1 hlost]
      exact Or.inr hdead
  gone other hlost hheld := by
    rw [List.mem_singleton.1 hlost] at hheld
    exact hdead (hlive handle hheld)

/-- A visitor is let in, and the connection has given its socket back for his. -/
theorem Passed.admitted {s : Sockets} {held : Option Handle} {handle : Handle}
    (h : Served held (s.add handle) none y) (hdead : handle ∉ s.live)
    (hlive : ∀ other, held = some other → other ∈ s.live) : Passed s held (some handle) [] y where
  listener := h.listener
  live other := by
    rw [h.live other, Sockets.mem_add]
    have hne : held ≠ some handle := fun hheld => hdead (hlive handle hheld)
    by_cases hother : other = handle
    · subst hother
      simp [hne]
    · simp [hother, Ne.symm hother]
  new other hnew := by
    have hother : handle = other := by simpa using hnew
    exact Or.inr (hother ▸ hdead)
  gone other hnil := by cases hnil

/-- What a connection got or lost was its own socket, or it was not live. -/
theorem Passed.own {id : ConnId} {last : Option Handle} {lost : List Handle} {handle : Handle}
    (hpassed : Passed x.sockets c.handle last lost y) (h : x.Sound)
    (hget : x.registry.get? id = some c) (hhas : last = some handle ∨ handle ∈ lost) :
    x.sockets.listener ≠ some handle ∧ handle ∉ x.strays ∧
      ∀ i, x.registry.Holds i handle → i = id.index.toNat := by
  rcases hpassed.new handle hhas with hold | hdead
  · have hplace := (Registry.holds_place hget).2 hold
    obtain ⟨-, hlistener, hstray⟩ := h.held _ _ hplace
    exact ⟨hlistener, hstray, fun i hi => h.apart _ _ _ hi hplace⟩
  · exact ⟨fun hlistener => hdead (h.listening _ hlistener).1,
      fun hstray => hdead (h.lost _ hstray).1, fun i hi => absurd (h.held _ _ hi).1 hdead⟩

/-- One connection goes from its socket to another, and the custody stays sound. -/
theorem Sound.replaced {id : ConnId} {lost : List Handle} (h : x.Sound)
    (hget : x.registry.get? id = some c) (hid : d.id = id)
    (hr : r.connections = (x.registry.set d).connections) (hserver : r.server = x.registry.server)
    (hpassed : Passed x.sockets c.handle d.handle lost y) :
    Sound { registry := r, sockets := y, strays := lost ++ x.strays } := by
  have hr' : r.connections = x.registry.connections.set id.index.toNat d := by
    rw [hr, Registry.set, hid]
  have hholds (i : Nat) (handle : Handle) : r.Holds i handle ↔
      i = id.index.toNat ∧ d.handle = some handle ∨
        i ≠ id.index.toNat ∧ x.registry.Holds i handle := Registry.holds_set hget hr'
  have hnew {handle : Handle} (hhas : d.handle = some handle ∨ handle ∈ lost) :=
    hpassed.own h hget hhas
  -- Whatever others hold is not the old socket.
  have hother {i : Nat} {handle : Handle} (hi : i ≠ id.index.toNat)
      (hheld : x.registry.Holds i handle) : c.handle ≠ some handle := fun hold =>
    hi (h.apart _ _ _ hheld ((Registry.holds_place hget).2 hold))
  constructor
  case indexed => exact h.indexed.set hget (hid.trans (h.indexed.placed id c hget).symm) hr'
  case served =>
    intro id' port hslot
    have hsome := h.served id' port (hserver ▸ hslot)
    rw [Registry.get?, Option.isSome_iff_exists] at hsome ⊢
    obtain ⟨c', hc'⟩ := hsome
    have hlt := (List.getElem?_eq_some_iff.1 hc').1
    rw [hr']
    exact ⟨_, List.getElem?_eq_getElem (by rwa [List.length_set])⟩
  case held =>
    intro i handle hi
    rw [List.mem_append, not_or, hpassed.listener]
    rcases (hholds i handle).1 hi with ⟨-, hd⟩ | ⟨hi, hheld⟩
    · obtain ⟨hlistener, hstray, -⟩ := hnew (Or.inl hd)
      exact ⟨(hpassed.live handle).2 (Or.inl hd), hlistener, fun hlost => hpassed.gone _ hlost hd,
        hstray⟩
    · obtain ⟨hlive, hlistener, hstray⟩ := h.held i handle hheld
      exact ⟨(hpassed.live handle).2 (Or.inr (Or.inr ⟨hlive, hother hi hheld⟩)), hlistener,
        fun hlost => hi ((hnew (Or.inr hlost)).2.2 i hheld), hstray⟩
  case apart =>
    intro i j handle hi hj
    rcases (hholds i handle).1 hi with ⟨hi, hd⟩ | ⟨hi, hheld⟩
    · rcases (hholds j handle).1 hj with ⟨hj, -⟩ | ⟨hj, hheld⟩
      · rw [hi, hj]
      · exact absurd ((hnew (Or.inl hd)).2.2 j hheld) hj
    · rcases (hholds j handle).1 hj with ⟨hj, hd⟩ | ⟨-, hheld'⟩
      · exact absurd ((hnew (Or.inl hd)).2.2 i hheld) hi
      · exact h.apart i j handle hheld hheld'
  case kept =>
    intro handle hlive
    rw [hpassed.listener, List.mem_append]
    rcases (hpassed.live handle).1 hlive with hd | hlost | ⟨hlive, hold⟩
    · exact Or.inr (Or.inr ⟨_, (hholds _ _).2 (Or.inl ⟨rfl, hd⟩)⟩)
    · exact Or.inr (Or.inl (Or.inl hlost))
    · rcases h.kept handle hlive with hlistener | hstray | ⟨i, hi⟩
      · exact Or.inl hlistener
      · exact Or.inr (Or.inl (Or.inr hstray))
      · refine Or.inr (Or.inr ⟨i, (hholds i handle).2 (Or.inr ⟨?_, hi⟩)⟩)
        rintro rfl
        exact hold ((Registry.holds_place hget).1 hi)
  case lost =>
    intro handle hstray
    rw [hpassed.listener]
    rcases List.mem_append.1 hstray with hlost | hstray
    · exact ⟨(hpassed.live handle).2 (Or.inr (Or.inl hlost)), (hnew (Or.inr hlost)).1⟩
    · obtain ⟨hlive, hlistener⟩ := h.lost handle hstray
      refine ⟨(hpassed.live handle).2 (Or.inr (Or.inr ⟨hlive, fun hold => ?_⟩)), hlistener⟩
      exact (h.held _ _ ((Registry.holds_place hget).2 hold)).2.2 hstray
  case listening =>
    intro handle hlistener
    rw [hpassed.listener] at hlistener
    obtain ⟨hlive, hsome⟩ := h.listening handle hlistener
    refine ⟨(hpassed.live handle).2 (Or.inr (Or.inr ⟨hlive, fun hold => ?_⟩)), hserver ▸ hsome⟩
    exact (h.held _ _ ((Registry.holds_place hget).2 hold)).2.1 hlistener

theorem Sound.alive {id : ConnId} {handle : Handle} (h : x.Sound)
    (hget : x.registry.get? id = some c) (hh : c.handle = some handle) :
    handle ∈ x.sockets.live := (h.held _ _ ((Registry.holds_place hget).2 hh)).1

/-! ## Reports -/

/-- A report that the connection hears takes the socket away or brings another one. -/
theorem Sound.tookOver {now : Instant} {t : Trace Node} {res : EventOutcome × Connection}
    (h : x.Sound) (hget : x.registry.get? event.conn = some c)
    (hbrings : x.registry.Brings x.sockets event start)
    (happly : (c.handleEvent event.kind now).Ends t res) (hserves : start.Serves t.calls y)
    (hhears : c.Hears event.source) (hover : event.kind.takesOver = true) :
    Passed x.sockets c.handle res.2.handle (x.registry.forgotten start event) y ∧
      start.Proper t.calls := by
  have hlive (handle : Handle) (hh : c.handle = some handle) : handle ∈ x.sockets.live :=
    h.alive hget hh
  rcases EventKind.of_takesOver hover with ⟨cause, hkind⟩ | ⟨handle, hkind⟩
  · rw [hkind] at happly
    obtain ⟨hcalls, hnone⟩ := error_ends happly
    rw [hcalls, Sockets.serves_nil] at hserves
    subst hserves
    rw [hnone, hcalls, Registry.forgotten_error hget hkind, if_pos hhears]
    refine ⟨?_, trivial⟩
    cases hbrings with
    | nothing => exact .forgot rfl (fun _ hmem => hmem) fun _ hmem _ => hmem
    | @freed c' handle _ hget' hh =>
      cases hget.symm.trans hget'
      refine .forgot rfl (fun _ hmem => (Sockets.mem_drop.1 hmem).1) fun other hmem hne => ?_
      refine Sockets.mem_drop.2 ⟨hmem, ?_⟩
      rintro rfl
      exact hne hh
    | visitor hkind' => cases hkind.symm.trans hkind'
  · rw [hkind] at happly
    obtain ⟨calls, hmoves, hcalls, hh⟩ := accepted_ends c.id happly
    rw [hcalls] at hserves ⊢
    rw [hh, Registry.forgotten_accepted hget hkind, if_pos hhears]
    cases hbrings with
    | nothing hnone => exact absurd hkind (hnone handle)
    | freed _ _ _ hkind' => cases hkind.symm.trans hkind'
    | visitor hkind' _ hdead =>
      cases hkind.symm.trans hkind'
      obtain ⟨z, hgiven, hregister⟩ := Sockets.serves_append.1 hserves
      obtain ⟨hserved, hproper⟩ := hmoves.served hgiven fun other hother =>
        Sockets.mem_add.2 (Or.inr (hlive other hother))
      obtain ⟨-, hend⟩ := Sockets.serves_cons.1 hregister
      obtain rfl := Sockets.serves_nil.1 hend
      have hpassed := Passed.admitted hserved hdead hlive
      refine ⟨hpassed, hgiven.proper_append hproper ⟨?_, trivial⟩⟩
      rintro _ ⟨rfl⟩
      exact (hpassed.live _).2 (Or.inl rfl)

/-- What a report does to its connection. -/
theorem Sound.reported {now : Instant} {t : Trace Node} {res : EventOutcome × Connection}
    (h : x.Sound) (hget : x.registry.get? event.conn = some c)
    (hbrings : x.registry.Brings x.sockets event start)
    (happly : (c.applyEvent event.source event.kind now).Ends t res)
    (hserves : start.Serves t.calls y) :
    Passed x.sockets c.handle res.2.handle (x.registry.forgotten start event) y ∧
      start.Proper t.calls := by
  by_cases htakes : c.Hears event.source ∧ event.kind.takesOver = true
  · rw [applyEvent_of_hears htakes.1] at happly
    exact h.tookOver hget hbrings happly hserves htakes.1 htakes.2
  · have hact : ((Operation.event event.source event.kind).act c now).Ends t res.2 :=
      Prog.ends_bind_pure.2 ⟨res, happly, rfl⟩
    have hmoves := act_moves hact fun source kind hop hhears => by
      cases hop
      exact Bool.eq_false_iff.2 fun hover => htakes ⟨hhears, hover⟩
    have hlive (handle : Handle) (hh : c.handle = some handle) : handle ∈ x.sockets.live :=
      h.alive hget hh
    cases hbrings with
    | nothing hnone =>
      obtain ⟨hserved, hproper⟩ := hmoves.served hserves hlive
      have hforgotten : x.registry.forgotten x.sockets event = [] := by
        by_cases hover : event.kind.takesOver = true
        · rcases EventKind.of_takesOver hover with ⟨cause, hkind⟩ | ⟨handle, hkind⟩
          · rw [Registry.forgotten_error hget hkind, if_neg fun hhears => htakes ⟨hhears, hover⟩]
          · exact absurd hkind (hnone handle)
        · exact Registry.forgotten_of_stays (Bool.not_eq_true _ ▸ hover)
      rw [hforgotten]
      exact ⟨.of_served hserved, hproper⟩
    | freed hget' hh hsource hkind =>
      cases hget.symm.trans hget'
      exact absurd ⟨fun _ hs => by rw [hsource] at hs; rwa [← hs], by rw [hkind]; rfl⟩ htakes
    | @visitor handle _ hkind _ hdead =>
      have hdeaf : ¬ c.Hears event.source := fun hhears => htakes ⟨hhears, by rw [hkind]; rfl⟩
      obtain ⟨-, rfl⟩ := applyEvent_ends_of_deaf hdeaf happly
      obtain ⟨hserved, hproper⟩ := hmoves.served hserves fun other hother =>
        Sockets.mem_add.2 (Or.inr (hlive other hother))
      rw [Registry.forgotten_accepted hget hkind, if_neg hdeaf]
      exact ⟨.missed hserved hdead hlive, hproper⟩

/-! ## Connections are added -/

/-- The connections and the server are the same, and the same sockets are live. -/
theorem Sound.congr (h : x.Sound) (hr : r.connections = x.registry.connections)
    (hserver : r.server = x.registry.server) (hlistener : y.listener = x.sockets.listener)
    (hlive : ∀ handle, handle ∈ y.live ↔ handle ∈ x.sockets.live) :
    Sound { x with registry := r, sockets := y } := by
  have hholds (i : Nat) (handle : Handle) : r.Holds i handle ↔ x.registry.Holds i handle := by
    rw [Registry.Holds, hr, Registry.Holds]
  constructor
  case indexed => exact fun i c hc => h.indexed i c (hr ▸ hc)
  case served =>
    intro id port hslot
    rw [Registry.get?, hr]
    exact h.served id port (hserver ▸ hslot)
  case held =>
    intro i handle hi
    rw [hlive, hlistener]
    exact h.held i handle ((hholds i handle).1 hi)
  case apart =>
    exact fun i j handle hi hj => h.apart i j handle ((hholds i _).1 hi) ((hholds j _).1 hj)
  case kept =>
    intro handle hmem
    simp only [hlistener, hholds]
    exact h.kept handle ((hlive handle).1 hmem)
  case lost =>
    intro handle hstray
    rw [hlive, hlistener]
    exact h.lost handle hstray
  case listening =>
    intro handle hlisten
    rw [hlive, hserver]
    exact h.listening handle (hlistener ▸ hlisten)

/-- A collector was added, with a new socket. -/
theorem Sound.created (h : x.Sound) (hadded : x.registry.Added c r)
    (hserver : r.server = x.registry.server) (hserved : Served none x.sockets c.handle y) :
    Sound { x with registry := r, sockets := y } := by
  have hlive (handle : Handle) :
      handle ∈ y.live ↔ c.handle = some handle ∨ handle ∈ x.sockets.live := by
    simp [hserved.live handle]
  have hnew {handle : Handle} (hh : c.handle = some handle) : handle ∉ x.sockets.live :=
    (hserved.new handle hh).resolve_left fun hnone => by cases hnone
  constructor
  case indexed => exact hadded.indexed h.indexed
  case served =>
    intro id port hslot
    obtain ⟨d, hd⟩ := Option.isSome_iff_exists.1 (h.served id port (hserver ▸ hslot))
    rw [hadded.get?_kept hd]
    rfl
  case held =>
    intro i handle hi
    rw [hlive, hserved.listener]
    rcases hadded.holds.1 hi with ⟨-, hh⟩ | hold
    · exact ⟨Or.inl hh, fun hlisten => hnew hh (h.listening handle hlisten).1,
        fun hstray => hnew hh (h.lost handle hstray).1⟩
    · obtain ⟨hmem, hothers⟩ := h.held i handle hold
      exact ⟨Or.inr hmem, hothers⟩
  case apart =>
    intro i j handle hi hj
    rcases hadded.holds.1 hi with ⟨hi, hh⟩ | hi
    · rcases hadded.holds.1 hj with ⟨hj, -⟩ | hj
      · rw [hi, hj]
      · exact absurd (h.held j handle hj).1 (hnew hh)
    · rcases hadded.holds.1 hj with ⟨-, hh⟩ | hj
      · exact absurd (h.held i handle hi).1 (hnew hh)
      · exact h.apart i j handle hi hj
  case kept =>
    intro handle hmem
    rw [hserved.listener]
    rcases (hlive handle).1 hmem with hh | hmem
    · exact Or.inr (Or.inr ⟨_, hadded.holds.2 (Or.inl ⟨rfl, hh⟩)⟩)
    · rcases h.kept handle hmem with hlisten | hstray | ⟨i, hi⟩
      · exact Or.inl hlisten
      · exact Or.inr (Or.inl hstray)
      · exact Or.inr (Or.inr ⟨i, hadded.holds.2 (Or.inr hi)⟩)
  case lost =>
    intro handle hstray
    rw [hlive, hserved.listener]
    obtain ⟨hmem, hlisten⟩ := h.lost handle hstray
    exact ⟨Or.inr hmem, hlisten⟩
  case listening =>
    intro handle hlisten
    rw [hlive, hserver]
    obtain ⟨hmem, hsome⟩ := h.listening handle (hserved.listener ▸ hlisten)
    exact ⟨Or.inr hmem, hsome⟩

/-- The server was added, and the transport listens on a new socket. -/
theorem Sound.hosted {listener : Handle} {port : Nat} (h : x.Sound)
    (hadded : x.registry.Added c r) (hnone : c.handle = none) (hfirst : x.registry.server = none)
    (hserver : r.server = some (c.id, port)) (hdead : listener ∉ x.sockets.live) :
    Sound { x with
      registry := r, sockets := { x.sockets.add listener with listener := some listener } } := by
  have hholds (i : Nat) (handle : Handle) : r.Holds i handle ↔ x.registry.Holds i handle := by
    simp [hadded.holds, hnone]
  have hdeaf (handle : Handle) : x.sockets.listener ≠ some handle := fun hlisten => by
    have hsome := (h.listening handle hlisten).2
    rw [hfirst] at hsome
    cases hsome
  have hne {handle : Handle} (hmem : handle ∈ x.sockets.live) : some listener ≠ some handle := by
    rintro ⟨rfl⟩
    exact hdead hmem
  constructor
  case indexed => exact hadded.indexed h.indexed
  case served =>
    intro id port hslot
    cases hserver.symm.trans hslot
    rw [hadded.get?_self]
    rfl
  case held =>
    intro i handle hi
    obtain ⟨hmem, -, hstray⟩ := h.held i handle ((hholds i handle).1 hi)
    exact ⟨Sockets.mem_add.2 (Or.inr hmem), hne hmem, hstray⟩
  case apart =>
    exact fun i j handle hi hj => h.apart i j handle ((hholds i _).1 hi) ((hholds j _).1 hj)
  case kept =>
    intro handle hmem
    simp only [hholds]
    rcases Sockets.mem_add.1 hmem with rfl | hmem
    · exact Or.inl rfl
    · exact Or.inr ((h.kept handle hmem).resolve_left (hdeaf handle))
  case lost =>
    intro handle hstray
    have hmem := (h.lost handle hstray).1
    exact ⟨Sockets.mem_add.2 (Or.inr hmem), hne hmem⟩
  case listening =>
    rintro handle ⟨rfl⟩
    rw [hserver]
    exact ⟨Sockets.mem_add.2 (Or.inl rfl), rfl⟩

/-! ## Steps and runs -/

/-- What the owner of the registry does. -/
theorem Sound.deed (h : x.Sound) (hdeed : Registry.Deed x.registry none calls r)
    (hserves : x.sockets.Serves calls y) :
    Sound { x with registry := r, sockets := y } ∧ x.sockets.Proper calls := by
  cases hdeed with
  | getOrCreate hends =>
    rcases Registry.getOrCreate_ends hends with ⟨hr, hmoves⟩ | ⟨c, hadded, hserver, hmoves⟩
    · obtain ⟨hserved, hproper⟩ := hmoves.served hserves fun _ hnone => by cases hnone
      rw [hr]
      exact ⟨h.congr rfl rfl hserved.listener fun handle => by simp [hserved.live handle], hproper⟩
    · obtain ⟨hserved, hproper⟩ := hmoves.served hserves fun _ hnone => by cases hnone
      exact ⟨h.created hadded hserver hserved, hproper⟩
  | startServer hends =>
    rcases Registry.startServer_ends hends with
      ⟨hr, hcalls⟩ | ⟨c, listener, hadded, hnone, hfirst, hserver, hcalls⟩
    · rw [hr]
      rcases hcalls with hcalls | ⟨id, cause, hcalls⟩
      · rw [hcalls, Sockets.serves_nil] at hserves
        rw [hserves, hcalls]
        exact ⟨h, trivial⟩
      · rw [hcalls] at hserves ⊢
        obtain ⟨-, hend⟩ := Sockets.serves_cons.1 hserves
        rw [Sockets.serves_nil.1 hend]
        refine ⟨h, ?_, trivial⟩
        rintro _ ⟨⟩
    · rw [hcalls] at hserves ⊢
      obtain ⟨hdead, hend⟩ := Sockets.serves_cons.1 hserves
      rw [Sockets.serves_nil.1 hend]
      refine ⟨h.hosted hadded hnone hfirst hserver hdead, ?_, trivial⟩
      rintro _ ⟨⟩
  | @act id c d op now t hget hown hact =>
    have hmoves := act_moves hact fun source kind hop => by
      rw [hop] at hown
      cases hown
    obtain ⟨hserved, hproper⟩ := hmoves.served hserves fun handle hh => h.alive hget hh
    have hid : d.id = id := (act_id hact.gives).trans (h.indexed.placed id c hget)
    exact ⟨h.replaced hget hid rfl rfl (.of_served hserved), hproper⟩
  | forget =>
    rw [Sockets.serves_nil.1 hserves]
    exact ⟨h.congr rfl rfl rfl fun _ => Iff.rfl, trivial⟩

/-- What the transport does on its own, and what becomes of its report. -/
theorem Sound.report (h : x.Sound) (hbrings : x.registry.Brings x.sockets event start)
    (hdeed : Registry.Deed x.registry (some event) calls r) (hserves : start.Serves calls y) :
    Sound
        { registry := r, sockets := y, strays := x.registry.forgotten start event ++ x.strays } ∧
      start.Proper calls := by
  cases hdeed with
  | report hends =>
    obtain ⟨hserver, ⟨hnone, hr, hcalls⟩ | ⟨c, t₁, res, hget, happly, hcalls, hr⟩⟩ :=
      Registry.dispatch_ends hends
    · -- nobody hears the report, so it is not about a socket that anybody holds
      rw [hcalls, Sockets.serves_nil] at hserves
      subst hserves
      rw [hcalls, hr]
      cases hbrings with
      | nothing hkind =>
        have hforgotten : x.registry.forgotten x.sockets event = [] := by
          rw [Registry.forgotten, hnone]
        rw [hforgotten]
        exact ⟨h, trivial⟩
      | freed hget => cases hnone.symm.trans hget
      | visitor _ hslot =>
        have hsome := h.served _ _ hslot
        rw [hnone] at hsome
        cases hsome
    · rw [hcalls] at hserves ⊢
      obtain ⟨hpassed, hproper⟩ := h.reported hget hbrings happly hserves
      have hid : res.2.id = event.conn :=
        (applyEvent_id happly.gives).trans (h.indexed.placed _ _ hget)
      exact ⟨h.replaced hget hid hr hserver hpassed, hproper⟩

theorem Step.sound (hstep : Step x start calls x') (h : x.Sound) :
    x'.Sound ∧ start.Proper calls := by
  cases hstep with
  | own hdeed hserves => exact h.deed hdeed hserves
  | report hbrings hdeed hserves => exact h.report hbrings hdeed hserves

theorem Reached.sound (h : Reached x) : x.Sound := by
  induction h with
  | start policy => exact start_sound policy
  | step _ hstep ih => exact (hstep.sound ih).1

/-- Every socket that is held is live and has one holder.  A live socket other than the listener
has a holder unless it got lost.  Every call is about a socket that is live at the time, and
every operation of the registry is a sequence of deeds. -/
theorem Reached.custody (h : Reached x) :
    (∀ i handle, x.registry.Holds i handle → handle ∈ x.sockets.live) ∧
      (∀ i j handle, x.registry.Holds i handle → x.registry.Holds j handle → i = j) ∧
      (∀ handle ∈ x.sockets.live, x.sockets.listener ≠ some handle →
        ((∃ i, x.registry.Holds i handle ∧ ∀ j, x.registry.Holds j handle → j = i) ↔
          handle ∉ x.strays)) ∧
      (∀ start calls x', Step x start calls x' → start.Proper calls) ∧
      ∀ (op : Registry.Operation) (now : Instant) (t : Trace Node) (r : Registry),
        (op.act x.registry now).Ends t r → Registry.Deeds x.registry t.calls r := by
  have hsound := h.sound
  refine ⟨fun i handle hi => (hsound.held i handle hi).1, hsound.apart, ?_,
    fun start calls x' hstep => (hstep.sound hsound).2,
    fun op now t r hends => Registry.Operation.deeds hsound.indexed hends⟩
  intro handle hlive hlisten
  constructor
  · rintro ⟨i, hi, -⟩
    exact (hsound.held i handle hi).2.2
  · intro hstray
    obtain ⟨i, hi⟩ := ((hsound.kept handle hlive).resolve_left hlisten).resolve_left hstray
    exact ⟨i, hi, fun j hj => hsound.apart j i handle hj hi⟩

/-! ## Runs on the bench -/

/-- A collector is asked for, on a bench that grants every call. -/
def collecting : (Except RegistryError ConnId × Registry) × Bench.World :=
  Bench.World.run {} ((Registry.new {}).getOrCreate "http://coll.example:8080")

/-- The collector holds the socket that was opened for it. -/
def collector : Custody :=
  { registry := collecting.1.2, sockets := Sockets.add {} ⟨1⟩ }

theorem collector_reached : Reached collector := by
  have hends := Prog.run_ends (fun op (w : Bench.World) => w.answer op)
    ((Registry.new {}).getOrCreate "http://coll.example:8080") {}
  have hserves : Sockets.Serves {} [⟨.openSocket false, .ok ⟨1⟩⟩, ⟨.register ⟨1⟩ ⟨0⟩, ()⟩]
      (Sockets.add {} ⟨1⟩) := .cons (List.not_mem_nil) (.cons trivial (.nil _))
  exact (Reached.start {}).step (.own (.getOrCreate hends) hserves)

/-- A visitor, on a new socket, for the server that is the second connection. -/
def visit : TransportEvent := { conn := ⟨1⟩, source := none, kind := .accepted (.ok ⟨3⟩) }

/-- He leaves. -/
def leave : TransportEvent := { conn := ⟨1⟩, source := some ⟨3⟩, kind := .peerClosed }

/-- The server is added to the registry of the collector. -/
def hosting : (Except RegistryError ConnId × Registry) × Bench.World :=
  collecting.2.run (collecting.1.2.startServer 80)

/-- It has its visitor. -/
def visiting : Registry × Bench.World := hosting.2.run (hosting.1.2.dispatch visit 0)

/-- The visitor has left. -/
def leaving : Registry × Bench.World := visiting.2.run (visiting.1.dispatch leave 0)

/-- The server listens on the second socket. -/
def hosted : Custody :=
  { registry := hosting.1.2
    sockets := { collector.sockets.add ⟨2⟩ with listener := some ⟨2⟩ } }

/-- The server holds the socket of its visitor. -/
def visited : Custody :=
  { registry := visiting.1, sockets := hosted.sockets.add ⟨3⟩ }

/-- The server has given the socket back. -/
def departed : Custody :=
  { registry := leaving.1, sockets := visited.sockets.drop ⟨3⟩ }

/-- The calls with which the server gives the socket back. -/
def givingBack : List NetCall.Done := [⟨.unregister ⟨3⟩, ()⟩, ⟨.close ⟨3⟩, .ok ()⟩]

theorem visited_reached : Reached visited := by
  have hhosted : Reached hosted := by
    have hends := Prog.run_ends (fun op (w : Bench.World) => w.answer op)
      (collecting.1.2.startServer 80) collecting.2
    have hdead : (⟨2⟩ : Handle) ∉ collector.sockets.live := by decide
    have hserves : collector.sockets.Serves [⟨.listen 80 ⟨1⟩, .ok ⟨2⟩⟩] hosted.sockets :=
      .cons hdead (.nil _)
    exact collector_reached.step (.own (.startServer hends) hserves)
  have hends := Prog.run_ends (fun op (w : Bench.World) => w.answer op)
    (hosting.1.2.dispatch visit 0) hosting.2
  have hbrings : hosted.registry.Brings hosted.sockets visit visited.sockets :=
    .visitor rfl (by decide +kernel : hosting.1.2.server = some (⟨1⟩, 80)) (by decide)
  have hserves : visited.sockets.Serves [⟨.register ⟨3⟩ ⟨1⟩, ()⟩] visited.sockets :=
    .cons trivial (.nil _)
  have hforgotten : hosted.registry.forgotten visited.sockets visit = [] := by decide +kernel
  have hreached := hhosted.step (.report hbrings (.report hends) hserves)
  rw [hforgotten] at hreached
  exact hreached

theorem visited_step : Step visited visited.sockets givingBack departed := by
  have hends := Prog.run_ends (fun op (w : Bench.World) => w.answer op)
    (visiting.1.dispatch leave 0) visiting.2
  have hserves : visited.sockets.Serves givingBack departed.sockets :=
    .cons trivial (.cons trivial (.nil _))
  have hbrings : visited.registry.Brings visited.sockets leave visited.sockets :=
    .nothing fun handle hkind => by cases hkind
  have hforgotten : visited.registry.forgotten visited.sockets leave = [] := by decide +kernel
  have hstep := Step.report hbrings (.report hends) hserves
  rw [hforgotten] at hstep
  exact hstep

/-- While the server has a visitor, his socket and that of the collector have one holder each.  The
server gives his back with calls about a live socket; then nobody holds it, and the collector still
holds its own. -/
theorem one_holder_of_collector :
    (∃ i, visited.registry.Holds i ⟨1⟩ ∧ ∀ j, visited.registry.Holds j ⟨1⟩ → j = i) ∧
    (∃ i, visited.registry.Holds i ⟨3⟩ ∧ ∀ j, visited.registry.Holds j ⟨3⟩ → j = i) ∧
    visited.sockets.Proper givingBack ∧
    (∀ i, ¬ departed.registry.Holds i ⟨3⟩) ∧
    ∃ i, departed.registry.Holds i ⟨1⟩ ∧ ∀ j, departed.registry.Holds j ⟨1⟩ → j = i := by
  obtain ⟨-, -, hvisited, hproper, -⟩ := visited_reached.custody
  obtain ⟨hheld, -, hdeparted, -⟩ := (visited_reached.step visited_step).custody
  refine ⟨(hvisited ⟨1⟩ (by decide) (by decide)).2 (by decide),
    (hvisited ⟨3⟩ (by decide) (by decide)).2 (by decide), hproper _ _ _ visited_step,
    fun i hi => absurd (hheld i ⟨3⟩ hi) (by decide),
    (hdeparted ⟨1⟩ (by decide) (by decide)).2 (by decide)⟩

/-- An error that concerns no socket. -/
def untaggedError : TransportEvent := { conn := ⟨0⟩, source := none, kind := .error .reset }

/-- The collector has heard of an error while its socket was live. -/
def orphaned : Custody :=
  { registry := (collecting.2.run (collector.registry.dispatch untaggedError 0)).1
    sockets := collector.sockets
    strays := [⟨1⟩] }

/-- The socket that the collector forgot is live, and nobody holds it. -/
theorem forgotten_while_live :
    Reached orphaned ∧ (⟨1⟩ : Handle) ∈ orphaned.sockets.live ∧
      orphaned.sockets.listener ≠ some ⟨1⟩ ∧ ∀ i, ¬ orphaned.registry.Holds i ⟨1⟩ := by
  have hends := Prog.run_ends (fun op (w : Bench.World) => w.answer op)
    (collector.registry.dispatch untaggedError 0) collecting.2
  have hforgotten : collector.registry.forgotten collector.sockets untaggedError = [⟨1⟩] := by
    decide +kernel
  have hreached := collector_reached.step
    (.report (.nothing fun handle hkind => by cases hkind) (.report hends) (.nil collector.sockets))
  rw [hforgotten] at hreached
  have horphaned : Reached orphaned := hreached
  exact ⟨horphaned, by decide, by decide, fun i hi =>
    (horphaned.sound.held i ⟨1⟩ hi).2.2 (by decide)⟩

end Custody

end MeterNode
