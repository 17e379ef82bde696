import MeterNode.Proofs.Connection.Lookups
import MeterNode.Proofs.Devices
import MeterNode.Proofs.Upload.Steps
import MeterNode.Schedule.Setup

/-!
# What the phases of a tick leave alone

Of a node, three things matter for the exchanges on its connections: the registry, the owners, and
for each entry its `Entry.seat`, which is the connection it sends on and whether it has a batch out.
`Still` says that a phase leaves all three alone, and `Calm` that it leaves the owners and the seats
alone and the connections at their places.

Every phase is calm except the step of an upload (`Scheduler.serviceEntry_gives`), which changes one
connection, one seat and the books of that connection.
-/

namespace MeterNode

/-- The connection that an entry sends on, and whether the entry has a batch out. -/
def Entry.seat (e : Entry) : ConnId × Bool := (e.conn, e.isBusy)

/-- All of an entry that matters for its uploads, but for the samples. -/
def Entry.sending (e : Entry) : ConnId × Uploader × Bool := (e.conn, e.uploader, e.held)

namespace Scheduler

variable {s s₁ s₂ s' : Scheduler} {index : Nat} {now : Instant} {atDefault : Bool} {e : Entry}
  {t : Trace Node}

/-- The seats of all entries. -/
def seats (s : Scheduler) : List (ConnId × Bool) := s.entries.map Entry.seat

/-- What matters for the uploads of all entries. -/
def sendings (s : Scheduler) : List (ConnId × Uploader × Bool) := s.entries.map Entry.sending

/-- The connection that the entry at a place sends on. -/
def connOf? (s : Scheduler) (index : Nat) : Option ConnId := s.entries[index]?.map Entry.conn

/-- The registry, the owners and the seats are the same. -/
structure Still (s s' : Scheduler) : Prop where
  registry : s'.registry = s.registry
  exchanges : s'.exchanges = s.exchanges
  seats : s'.seats = s.seats

/-- The owners and the seats are the same, and the connections are at their places. -/
structure Calm (s s' : Scheduler) : Prop where
  placed : s.registry.Placed → s'.registry.Placed
  exchanges : s'.exchanges = s.exchanges
  seats : s'.seats = s.seats

theorem Still.refl (s : Scheduler) : Still s s := ⟨rfl, rfl, rfl⟩

theorem Still.trans (h : Still s s₁) (h' : Still s₁ s₂) : Still s s₂ :=
  ⟨h'.registry.trans h.registry, h'.exchanges.trans h.exchanges, h'.seats.trans h.seats⟩

theorem Still.calm (h : Still s s') : Calm s s' := by
  refine ⟨fun hplaced => ?_, h.exchanges, h.seats⟩
  rw [h.registry]
  exact hplaced

theorem Calm.trans (h : Calm s s₁) (h' : Calm s₁ s₂) : Calm s s₂ :=
  ⟨fun hplaced => h'.placed (h.placed hplaced), h'.exchanges.trans h.exchanges,
    h'.seats.trans h.seats⟩

theorem seats_of_sendings (h : s'.sendings = s.sendings) : s'.seats = s.seats := by
  have hseats (s : Scheduler) : s.seats = s.sendings.map fun x => (x.1, x.2.1.isBusy) := by
    rw [sendings, List.map_map]
    rfl
  rw [hseats, hseats, h]

theorem seats_getElem? (s : Scheduler) (i : Nat) (c : ConnId) (busy : Bool) :
    s.seats[i]? = some (c, busy) ↔
      ∃ e, s.entries[i]? = some e ∧ e.isBusy = busy ∧ e.conn = c := by
  rw [seats, List.getElem?_map, Option.map_eq_some_iff]
  simp only [Entry.seat, Prod.mk.injEq, and_comm]

theorem connOf?_eq (s : Scheduler) (index : Nat) :
    s.connOf? index = (s.seats[index]?).map Prod.fst := by
  rw [connOf?, seats, List.getElem?_map, Option.map_map]
  rfl

theorem Still.connOf? (h : Still s s') : s'.connOf? index = s.connOf? index := by
  rw [connOf?_eq, connOf?_eq, h.seats]

/-- Only the entry at a place may have changed. -/
def Others (index : Nat) (s s' : Scheduler) : Prop :=
  ∀ i, i ≠ index → s'.entries[i]? = s.entries[i]?

theorem Others.refl (index : Nat) (s : Scheduler) : Others index s s := fun _ _ => rfl

theorem Others.trans (h : Others index s s₁) (h' : Others index s₁ s₂) : Others index s s₂ :=
  fun i hi => (h' i hi).trans (h i hi)

theorem others_setEntry (s : Scheduler) (index : Nat) (e : Entry) :
    Others index s (s.setEntry index e) :=
  fun _ hi => List.getElem?_set_ne (Ne.symm hi)

theorem others_hold (s : Scheduler) (index : Nat) : Others index s (s.hold index) := by
  intro i hi
  simp only [hold]
  exact List.getElem?_modify_ne _ _ (Ne.symm hi)

/-- What the entry put into a place shares with the one before is the same for all entries. -/
theorem map_setEntry {α : Type} {f : Entry → α} {e' : Entry} (he : s.entries[index]? = some e)
    (hf : f e' = f e) : (s.setEntry index e').entries.map f = s.entries.map f := by
  refine List.ext_getElem? fun i => ?_
  rw [setEntry, List.getElem?_map, List.getElem?_map, List.getElem?_set']
  split
  next hi =>
    rw [← hi, he]
    exact congrArg some hf
  next => rfl

/-- The entry put into a place sends like the one before. -/
theorem sendings_setEntry {e' : Entry} (he : s.entries[index]? = some e)
    (hsending : e'.sending = e.sending) : (s.setEntry index e').sendings = s.sendings :=
  map_setEntry he hsending

theorem still_hold (s : Scheduler) (index : Nat) : Still s (s.hold index) := by
  refine ⟨rfl, rfl, List.ext_getElem? fun i => ?_⟩
  rw [seats, seats, hold, List.getElem?_map, List.getElem?_map, List.getElem?_modify]
  cases s.entries[i]? with
  | none => rfl
  | some e =>
    simp only [Option.map_eq_map, Option.map_some]
    split <;> rfl

theorem still_closeWindow (s : Scheduler) (now : Instant) : Still s (s.closeWindow now) := by
  refine ⟨rfl, rfl, ?_⟩
  rw [seats, seats, closeWindow, List.map_map]
  rfl

/-! ## Starting -/

/-- Opening an entry changes its source and whether it is open.  If it was open nothing changes, and
otherwise it becomes open only if its source does. -/
theorem openEntry_gives {res : Except MeterError Unit × Entry} (h : e.openEntry.Gives res) :
    ∃ source isOpen, res.2 = { e with source, isOpen } ∧ source.interval = e.source.interval ∧
      (source = e.source ∧ isOpen = e.isOpen ∨
        e.isOpen = false ∧ (isOpen = true → source.isOpen = true)) := by
  simp only [Entry.openEntry] at h
  split at h
  next =>
    rw [Act.gives_pure.1 h]
    exact ⟨e.source, e.isOpen, rfl, rfl, .inl ⟨rfl, rfl⟩⟩
  next hclosed =>
    have hclosed : e.isOpen = false := by simpa using hclosed
    obtain ⟨⟨result, source⟩, hopen, h⟩ := Act.gives_bind.1 h
    obtain ⟨hinterval, hopened⟩ := Source.openSource_gives hopen
    cases result with
    | ok u =>
      rw [Act.gives_pure.1 h]
      exact ⟨source, true, rfl, hinterval, .inr ⟨hclosed, fun _ => hopened rfl⟩⟩
    | error cause =>
      rw [Act.gives_pure.1 h]
      refine ⟨source, false, ?_, hinterval, .inr ⟨hclosed, nofun⟩⟩
      rw [← hclosed]

/-- What opening keeps of an entry, it keeps of all of them. -/
theorem openEntries_map {α : Type} {f : Entry → α}
    (hf : ∀ {e : Entry} {res : Except MeterError Unit × Entry}, e.openEntry.Gives res →
      f res.2 = f e) {es es' : List Entry} (h : (openEntries es).Gives es') :
    es'.map f = es.map f := by
  induction es generalizing es' with
  | nil =>
    simp only [openEntries, Act.gives_pure] at h
    rw [h]
  | cons e rest ih =>
    simp only [openEntries, Act.gives_bind] at h
    obtain ⟨⟨result, e'⟩, he, h⟩ := h
    have hrest : ∃ rest', (openEntries rest).Gives rest' ∧ es' = e' :: rest' := by
      cases result with
      | ok u =>
        simp only [Act.gives_bind, Act.gives_pure] at h
        exact h
      | error cause =>
        simp only [Act.gives_bind, Act.gives_pure] at h
        obtain ⟨_, -, h⟩ := h
        exact h
    obtain ⟨rest', hrest, rfl⟩ := hrest
    have hkept : f e' = f e := hf he
    rw [List.map_cons, List.map_cons, ih hrest, hkept]

theorem openEntries_sendings {es es' : List Entry} (h : (openEntries es).Gives es') :
    es'.map Entry.sending = es.map Entry.sending := by
  refine openEntries_map (fun {e res} he => ?_) h
  obtain ⟨source, isOpen, hentry, -⟩ := openEntry_gives he
  rw [hentry]
  rfl

theorem start_gives {res : Except Fault Unit × Scheduler} (h : s.start.Gives res) :
    ∃ entries lastSendComplete, res.2 = { s with entries, lastSendComplete } ∧
      entries.map Entry.sending = s.sendings := by
  simp only [start] at h
  split at h
  next =>
    rw [Act.gives_pure.1 h]
    exact ⟨s.entries, s.lastSendComplete, rfl, rfl⟩
  next =>
    simp only [Act.gives_bind, Act.gives_pure] at h
    obtain ⟨entries, hentries, now, -, _, -, rfl⟩ := h
    exact ⟨entries, now, rfl, openEntries_sendings hentries⟩

theorem start_still {res : Except Fault Unit × Scheduler} (h : s.start.Gives res) :
    Still s res.2 := by
  obtain ⟨entries, lastSendComplete, hs', hsendings⟩ := start_gives h
  rw [hs']
  exact ⟨rfl, rfl, seats_of_sendings hsendings⟩

/-! ## Network -/

theorem countTick_gives (h : s.countTick.Gives s') :
    ∃ ticks resyncDue, s' = { s with ticks, resyncDue } := by
  simp only [countTick, Act.gives_bind, Act.gives_pure] at h
  obtain ⟨_, -, rfl⟩ := h
  exact ⟨_, _, rfl⟩

theorem countTick_still (h : s.countTick.Gives s') : Still s s' := by
  obtain ⟨ticks, resyncDue, rfl⟩ := countTick_gives h
  exact ⟨rfl, rfl, rfl⟩

/-- Answer the visitors whose requests wait, if there are any. -/
def answerVisitors (s : Scheduler) (r : Registry) : Act Registry :=
  if r.requests.isEmpty then pure r
  else r.answerRequests fun request => some <$> Status.serve r.policy.indexEnabled s.views request

/-- The connections go through the reports, visitors are answered, and then the connections go
through the timeouts. -/
theorem serviceNetwork_eq : s.serviceNetwork now = (do
    let (_, r) ← s.registry.pump now
    let r ← s.answerVisitors r
    return { s with registry := ← r.pollAll now }) := by
  simp only [serviceNetwork, answerVisitors]
  refine congrArg _ (funext fun res => ?_)
  split <;> rfl

theorem answerVisitors_gives {r r₁ : Registry} (h : (s.answerVisitors r).Gives r₁) :
    r₁.connections = r.connections := by
  simp only [answerVisitors] at h
  split at h
  next => rw [Act.gives_pure.1 h]
  next =>
    obtain ⟨t, h⟩ := h
    rw [(Registry.answerRequests_ends h).1]

theorem serviceNetwork_gives (h : (s.serviceNetwork now).Gives s') :
    ∃ (res : Nat × Registry) (r registry : Registry), (s.registry.pump now).Gives res ∧
      r.connections = res.2.connections ∧ (r.pollAll now).Gives registry ∧
      s' = { s with registry } := by
  rw [serviceNetwork_eq] at h
  obtain ⟨res, hpump, h⟩ := Act.gives_bind.1 h
  obtain ⟨r, hanswers, h⟩ := Act.gives_bind.1 h
  obtain ⟨registry, hpoll, h⟩ := Act.gives_bind.1 h
  exact ⟨res, r, registry, hpump, answerVisitors_gives hanswers, hpoll, Act.gives_pure.1 h⟩

theorem serviceNetwork_calm (h : (s.serviceNetwork now).Gives s') : Calm s s' := by
  obtain ⟨res, r, registry, ⟨t, hpump⟩, hconnections, hpoll, rfl⟩ := serviceNetwork_gives h
  refine ⟨fun hplaced => ?_, rfl, rfl⟩
  have hpumped : res.2.Placed := (Registry.pump_ends hplaced hpump).2.1
  refine Registry.pollAll_placed (fun id c hget => hpumped id c ?_) hpoll
  rwa [Registry.get?, ← hconnections]

theorem serviceNetwork_from {P : Connection → Connection → Prop} (hP : Connection.Passive P)
    (hplaced : s.registry.Placed) (h : (s.serviceNetwork now).Gives s') :
    Registry.From P s.registry s'.registry := by
  obtain ⟨res, r, registry, hpump, hconnections, hpoll, rfl⟩ := serviceNetwork_gives h
  refine (Registry.pump_from hP hplaced hpump).1.trans hP fun id d hget => ?_
  obtain ⟨c, hget', hcd⟩ := Registry.pollAll_from hP hpoll id d hget
  refine ⟨c, ?_, hcd⟩
  rwa [Registry.get?, ← hconnections]

/-! ## Reading -/

theorem read_gives {supply : Option SupplyReading} {utcMs : Nat}
    {res : Except MeterError Nat × Entry} (h : (e.read supply utcMs now).Gives res) :
    ∃ lastRead channels, res.2 = { e with lastRead, channels } := by
  simp only [Entry.read] at h
  split at h
  next =>
    simp only [Act.gives_bind, Act.gives_pure] at h
    obtain ⟨_, -, rfl⟩ := h
    exact ⟨some now, e.channels, rfl⟩
  next =>
    simp only [Act.gives_bind] at h
    obtain ⟨outcome, -, h⟩ := h
    split at h
    next =>
      simp only [Act.gives_bind, Act.gives_pure] at h
      obtain ⟨_, -, rfl⟩ := h
      exact ⟨some now, e.channels, rfl⟩
    next =>
      simp only [Act.gives_bind, Act.gives_pure] at h
      obtain ⟨_, -, _, -, rfl⟩ := h
      exact ⟨some now, Entry.fileAll outcome.readings e.channels, rfl⟩

theorem readEntry_gives (h : (s.readEntry index e now).Gives s') :
    ∃ e', s' = s.setEntry index e' ∧ e'.sending = e.sending := by
  have hread : ∃ res, (e.read s.supply (s.time.utcMs now) now).Gives res ∧
      s' = s.setEntry index res.2 := by
    simp only [readEntry] at h
    split at h
    next =>
      obtain ⟨⟨result, e'⟩, hread, h⟩ := Act.gives_bind.1 h
      refine ⟨_, RadioController.withBus_gives hread, ?_⟩
      cases result <;> simpa using h
    next =>
      obtain ⟨⟨result, e'⟩, hread, h⟩ := Act.gives_bind.1 h
      refine ⟨_, hread, ?_⟩
      cases result <;> simpa using h
  obtain ⟨⟨result, e'⟩, hread, rfl⟩ := hread
  obtain ⟨lastRead, channels, rfl⟩ : ∃ lastRead channels, e' = { e with lastRead, channels } :=
    read_gives hread
  exact ⟨_, rfl, rfl⟩

theorem raiseClock_gives {res : Bool × Scheduler} (h : (s.raiseClock now atDefault).Gives res) :
    ∃ speed, res.2 = { s with speed } := by
  simp only [raiseClock] at h
  split at h
  next =>
    simp only [Act.gives_pure] at h
    exact ⟨s.speed, by rw [h]⟩
  next =>
    simp only [Act.gives_bind, Act.gives_pure] at h
    obtain ⟨⟨atDefault', speed⟩, -, rfl⟩ := h
    exact ⟨speed, rfl⟩

/-- What comes of the read at the beginning of a turn, with what was asked for: nothing if the entry
is not due.  Otherwise it is read, behind a change to the default frequency if its source needs
that. -/
inductive Gathered (index : Nat) (now : Instant) (atDefault : Bool) (s : Scheduler) :
    Trace Node → Bool × Scheduler → Prop where
  | nothing : (∀ e, s.entries[index]? = some e → e.readDueIn now ≠ 0) →
      Gathered index now atDefault s [] (atDefault, s)
  | plain {e : Entry} {t : Trace Node} {s' : Scheduler} : s.entries[index]? = some e →
      e.readDueIn now = 0 → e.source.needsDefaultClock = false →
      (s.readEntry index e now).Ends t s' → Gathered index now atDefault s t (atDefault, s')
  | raised {e : Entry} {t₁ t₂ : Trace Node} {atDefault' : Bool} {speed : SpeedController}
      {s' : Scheduler} : s.entries[index]? = some e → e.readDueIn now = 0 →
      e.source.needsDefaultClock = true →
      (s.raiseClock now atDefault).Ends t₁ (atDefault', { s with speed }) →
      (({ s with speed } : Scheduler).readEntry index e now).Ends t₂ s' →
      Gathered index now atDefault s (t₁ ++ t₂) (atDefault', s')

theorem readIfDue_gathered {res : Bool × Scheduler}
    (h : (s.readIfDue index now atDefault).Ends t res) : Gathered index now atDefault s t res := by
  simp only [readIfDue] at h
  split at h
  next hnone =>
    obtain ⟨rfl, rfl⟩ := Prog.ends_pure.1 h
    refine .nothing fun e he => ?_
    rw [hnone] at he
    cases he
  next e he =>
    split at h
    next hlater =>
      obtain ⟨rfl, rfl⟩ := Prog.ends_pure.1 h
      refine .nothing fun e' he' => ?_
      rw [he, Option.some.injEq] at he'
      rw [← he']
      exact Nat.ne_of_gt hlater
    next hdue =>
      have hdue : e.readDueIn now = 0 := Nat.eq_zero_of_not_pos hdue
      split at h
      next hneeds =>
        obtain ⟨t₁, ⟨atDefault', s₁⟩, t₂, hraise, hrest, rfl⟩ := Prog.ends_bind.1 h
        obtain ⟨s₂, hread, rfl⟩ := Prog.ends_bind_pure.1 hrest
        obtain ⟨speed, rfl⟩ : ∃ speed, s₁ = { s with speed } := raiseClock_gives hraise.gives
        exact .raised he hdue hneeds hraise hread
      next hneeds =>
        rw [pure_bind] at h
        obtain ⟨s₂, hread, rfl⟩ := Prog.ends_bind_pure.1 h
        exact .plain he hdue (Bool.eq_false_iff.2 hneeds) hread

/-- A read changes the processor and the entry at its place, but not how the entry sends. -/
theorem readIfDue_gives {res : Bool × Scheduler} (h : (s.readIfDue index now atDefault).Gives res) :
    ∃ speed entries, res.2 = { s with speed, entries } ∧ res.2.sendings = s.sendings ∧
      Others index s res.2 := by
  obtain ⟨t, h⟩ := h
  cases readIfDue_gathered h with
  | nothing => exact ⟨s.speed, s.entries, rfl, rfl, .refl index s⟩
  | plain he _ _ hread =>
    obtain ⟨e', rfl, hsending⟩ := readEntry_gives hread.gives
    exact ⟨s.speed, _, rfl, sendings_setEntry he hsending, others_setEntry s index e'⟩
  | @raised e _ _ _ speed _ he _ _ _ hread =>
    obtain ⟨e', rfl, hsending⟩ := readEntry_gives hread.gives
    have he' : ({ s with speed } : Scheduler).entries[index]? = some e := he
    exact ⟨speed, _, rfl, sendings_setEntry he' hsending, others_setEntry s index e'⟩

theorem readIfDue_still {res : Bool × Scheduler} (h : (s.readIfDue index now atDefault).Gives res) :
    Still s res.2 ∧ Others index s res.2 := by
  obtain ⟨speed, entries, hs', hsendings, hothers⟩ := readIfDue_gives h
  refine ⟨⟨?_, ?_, seats_of_sendings hsendings⟩, hothers⟩
  · rw [hs']
  · rw [hs']

/-! ## Sending -/

theorem raiseRadio_gives {res : Bool × Scheduler} (h : s.raiseRadio.Gives res) :
    ∃ radio, res.2 = { s with radio } := by
  simp only [raiseRadio, Act.gives_bind] at h
  obtain ⟨⟨up, radio⟩, -, h⟩ := h
  split at h
  next =>
    simp only [Act.gives_pure] at h
    exact ⟨radio, by rw [h]⟩
  next =>
    simp only [Act.gives_bind, Act.gives_pure] at h
    obtain ⟨⟨up', radio'⟩, -, rfl⟩ := h
    exact ⟨radio', rfl⟩

/-- A step of the upload of an entry: no other entry owns the connection that it sends on, and the
step changes that connection, the seat of the entry, and the books of the connection. -/
structure Served (index : Nat) (conn : ConnId) (s s' : Scheduler) : Prop where
  sends : s.connOf? index = some conn
  free : ∀ owner, s.exchanges.owner? conn = some owner → owner = index
  registry : ∃ d : Connection, d.id = conn ∧ s'.registry = s.registry.set d
  booked : ∃ busy, s'.seats = s.seats.set index (conn, busy) ∧
    s'.exchanges = s.exchanges.book conn index busy

/-- Nothing that matters has changed, or the upload of an entry took a step. -/
def Moved (index : Nat) (s s' : Scheduler) : Prop :=
  Still s s' ∨ ∃ conn, Served index conn s s'

theorem Moved.after (h : Moved index s₁ s₂) (hstill : Still s s₁) : Moved index s s₂ := by
  rcases h with h | ⟨conn, h⟩
  · exact Or.inl (hstill.trans h)
  · obtain ⟨hsends, hfree, hregistry, hbooked⟩ := h
    rw [hstill.registry] at hregistry
    rw [hstill.exchanges] at hfree hbooked
    rw [hstill.seats] at hbooked
    rw [hstill.connOf?] at hsends
    exact Or.inr ⟨conn, hsends, hfree, hregistry, hbooked⟩

/-- The entry after a step of its upload. -/
def advanced (e : Entry) (r : Uploader.Serviced) : Entry :=
  { e with
    uploader := r.uploader
    channels := r.channels
    held := e.held || r.progress.isFailed }

/-- The node after a step of an upload. -/
def advance (s : Scheduler) (index : Nat) (e : Entry) (r : Uploader.Serviced) : Scheduler :=
  { s with
    registry := s.registry.set r.conn
    entries := s.entries.set index (advanced e r)
    exchanges := s.exchanges.book e.conn index r.uploader.isBusy }

theorem hold_setEntry : (s.setEntry index e).hold index =
    s.setEntry index { e with held := true } := by
  have hentries : (s.entries.set index e).modify index (fun e => { e with held := true }) =
      s.entries.set index { e with held := true } := by
    refine List.ext_getElem? fun i => ?_
    rw [List.getElem?_modify, List.getElem?_set', List.getElem?_set']
    split
    next => cases s.entries[i]? <;> rfl
    next => simp
  rw [hold, setEntry, setEntry, hentries]

/-- A step of an upload, and what is logged of it. -/
theorem stepUpload_ends {c : Connection} (h : (s.stepUpload index e c now).Ends t s') :
    ∃ t₁ r t₂, (e.uploader.service c e.channels now).Ends t₁ r ∧ Trace.Of [.note] t₂ ∧
      t = t₁ ++ t₂ ∧ s' = s.advance index e r := by
  obtain ⟨t₁, ⟨progress, e', d⟩, t₂, h₁, h₂, rfl⟩ := Prog.ends_bind.1 h
  obtain ⟨r, hr, heq⟩ := Prog.ends_bind_pure.1 h₁
  cases heq
  refine ⟨t₁, r, t₂, hr, ?_⟩
  cases hp : r.progress with
  | failed cause =>
    simp only [hp, pure_bind] at h₂
    obtain ⟨t₃, _, t₄, h₃, h₄, rfl⟩ := Prog.ends_bind.1 h₂
    obtain ⟨rfl, rfl⟩ := Prog.ends_pure.1 h₄
    have hlog : Trace.Of [.note] t₃ := h₃.of (by simp)
    refine ⟨by simpa using hlog, rfl, ?_⟩
    rw [hold_setEntry]
    simp [advance, advanced, hp, setEntry, Entry.isBusy]
  | idle | inFlight =>
    simp only [hp, pure_bind] at h₂
    obtain ⟨rfl, rfl⟩ := Prog.ends_pure.1 h₂
    refine ⟨Trace.of_nil, rfl, ?_⟩
    simp [advance, advanced, hp, setEntry, Entry.isBusy]
  | delivered samples =>
    simp only [hp, pure_bind] at h₂
    obtain ⟨t₃, _, t₄, h₃, h₄, rfl⟩ := Prog.ends_bind.1 h₂
    obtain ⟨rfl, rfl⟩ := Prog.ends_pure.1 h₄
    have hlog : Trace.Of [.note] t₃ := h₃.of (by simp)
    refine ⟨by simpa using hlog, rfl, ?_⟩
    simp [advance, advanced, hp, setEntry, Entry.isBusy]

/-- What comes of the step of an upload, with what was asked for: nothing if another entry owns the
connection, a hold if there is no connection, and otherwise a step of the uploader. -/
inductive Taken (index : Nat) (now : Instant) (s : Scheduler) : Trace Node → Scheduler → Prop where
  | skipped {t : Trace Node} : Trace.Of [.note] t → Taken index now s t s
  | unconnected {t : Trace Node} : Trace.Of [.note] t → Taken index now s t (s.hold index)
  | stepped {e : Entry} {c : Connection} {r : Uploader.Serviced} {t₁ t₂ : Trace Node} :
      s.entries[index]? = some e → s.registry.get? e.conn = some c →
      (∀ owner, s.exchanges.owner? e.conn = some owner → owner = index) →
      (e.uploader.service c e.channels now).Ends t₁ r → Trace.Of [.note] t₂ →
      Taken index now s (t₁ ++ t₂) (s.advance index e r)

theorem serviceEntry_ends (h : (s.serviceEntry index now).Ends t s') : Taken index now s t s' := by
  simp only [serviceEntry] at h
  split at h
  next =>
    obtain ⟨rfl, rfl⟩ := Prog.ends_pure.1 h
    exact .skipped Trace.of_nil
  next e he =>
    split at h
    next owner _ =>
      obtain ⟨t₁, _, t₂, h₁, h₂, rfl⟩ := Prog.ends_bind.1 h
      obtain ⟨rfl, rfl⟩ := Prog.ends_pure.1 h₂
      have hlog : Trace.Of [.note] t₁ := h₁.of (by simp)
      exact .skipped (by simpa using hlog)
    next hfree =>
      split at h
      next =>
        obtain ⟨t₁, _, t₂, h₁, h₂, rfl⟩ := Prog.ends_bind.1 h
        obtain ⟨rfl, rfl⟩ := Prog.ends_pure.1 h₂
        have hlog : Trace.Of [.note] t₁ := h₁.of (by simp)
        exact .unconnected (by simpa using hlog)
      next c hget =>
        have howner : ∀ owner, s.exchanges.owner? e.conn = some owner → owner = index := by
          intro owner howner
          rw [howner, Option.filter_eq_none_iff] at hfree
          simpa using hfree owner rfl
        obtain ⟨t₁, r, t₂, hr, hlog, rfl, rfl⟩ := stepUpload_ends h
        exact .stepped he hget howner hr hlog

/-- A step of an upload changes the registry, the entries and the owners only. -/
theorem serviceEntry_fields (h : (s.serviceEntry index now).Gives s') :
    ∃ registry entries exchanges, s' = { s with registry, entries, exchanges } := by
  obtain ⟨t, h⟩ := h
  cases serviceEntry_ends h with
  | skipped => exact ⟨s.registry, s.entries, s.exchanges, rfl⟩
  | unconnected => exact ⟨s.registry, (s.hold index).entries, s.exchanges, rfl⟩
  | stepped => exact ⟨_, _, _, rfl⟩

/-- An upload that begins opens the window. -/
theorem beginUpload_fields {conn : ConnId} (h : (s.beginUpload index conn).Gives s') :
    ∃ registry entries exchanges,
      s' = { s with registry, entries, exchanges, windowOpen := true } := by
  simp only [beginUpload, Act.gives_bind] at h
  obtain ⟨now, -, s₁, hservice, h⟩ := h
  obtain ⟨registry, entries, exchanges, rfl⟩ := serviceEntry_fields hservice
  split at h
  next =>
    obtain ⟨⟨state, registry'⟩, -, h⟩ := Act.gives_bind.1 h
    exact ⟨registry', entries, exchanges, Act.gives_pure.1 h⟩
  next => exact ⟨registry, entries, exchanges, Act.gives_pure.1 h⟩

/-- An entry takes a step only on a connection that no other entry owns; otherwise nothing that
matters changes. -/
theorem serviceEntry_gives (hplaced : s.registry.Placed)
    (h : (s.serviceEntry index now).Gives s') : Moved index s s' ∧ Others index s s' := by
  obtain ⟨t, h⟩ := h
  cases serviceEntry_ends h with
  | skipped => exact ⟨Or.inl (.refl s), .refl index s⟩
  | unconnected => exact ⟨Or.inl (still_hold s index), others_hold s index⟩
  | @stepped e c r _ _ he hget hfree hr =>
    have hsends : s.connOf? index = some e.conn := by rw [connOf?, he]; rfl
    have hid : r.conn.id = e.conn := (Uploader.service_id hr.gives).trans (hplaced e.conn c hget)
    have hseats : (s.advance index e r).seats =
        s.seats.set index (e.conn, r.uploader.isBusy) := by
      rw [seats, seats, advance, List.map_set]
      rfl
    exact ⟨Or.inr ⟨e.conn, hsends, hfree, ⟨r.conn, hid, rfl⟩, r.uploader.isBusy, hseats, rfl⟩,
      fun _ hi => List.getElem?_set_ne (Ne.symm hi)⟩

/-- An entry waits while another one owns its connection. -/
theorem serviceEntry_refused {owner : Nat} (he : s.entries[index]? = some e)
    (howner : s.exchanges.owner? e.conn = some owner) (hne : owner ≠ index) :
    s.serviceEntry index now = (do
      Act.log .debug ("sched: entry=" ++ toString index ++ " waits for entry=" ++
        toString owner ++ " conn=" ++ toString e.conn.index)
      return s) := by
  have hother : (s.exchanges.owner? e.conn).filter (· ≠ index) = some owner := by
    rw [howner, Option.filter_some, if_pos (by simpa using hne)]
  simp only [serviceEntry, he, hother]

/-- An entry has no batch out, has something to send, and may send it. -/
structure Due (index : Nat) (now : Instant) (s : Scheduler) (e : Entry) : Prop where
  entry : s.entries[index]? = some e
  idle : e.isBusy = false
  pending : e.sendPending = true
  allowed : s.windowAllowed now = true

/-- What comes of a turn behind its read, with what was asked for: nothing, a step of the batch that
is out, or a batch that begins, unless the radio cannot be brought up for it. -/
inductive Sent (index : Nat) (now : Instant) (atDefault : Bool) (s : Scheduler) :
    Trace Node → Bool × Bool × Scheduler → Prop where
  | nothing : (∀ e, s.entries[index]? = some e →
        e.isBusy = false ∧ (e.sendPending = false ∨ s.windowAllowed now = false)) →
      Sent index now atDefault s [] (false, atDefault, s)
  | goesOn {e : Entry} {t : Trace Node} {s' : Scheduler} :
      s.entries[index]? = some e → e.isBusy = true → (s.serviceEntry index now).Ends t s' →
      Sent index now atDefault s t (s'.needsRadio index, atDefault, s')
  | deferred {e : Entry} {t₁ t₂ t₃ : Trace Node} {atDefault' : Bool} {speed : SpeedController}
      {radio : RadioController} : Due index now s e →
      (s.raiseClock now atDefault).Ends t₁ (atDefault', { s with speed }) →
      ({ s with speed } : Scheduler).raiseRadio.Ends t₂ (false, { s with speed, radio }) →
      Trace.Of [.note] t₃ →
      Sent index now atDefault s (t₁ ++ (t₂ ++ t₃)) (false, atDefault', { s with speed, radio })
  | begun {e : Entry} {t₁ t₂ t₃ : Trace Node} {atDefault' : Bool} {speed : SpeedController}
      {radio : RadioController} {s' : Scheduler} : Due index now s e →
      (s.raiseClock now atDefault).Ends t₁ (atDefault', { s with speed }) →
      ({ s with speed } : Scheduler).raiseRadio.Ends t₂ (true, { s with speed, radio }) →
      (({ s with speed, radio } : Scheduler).beginUpload index e.conn).Ends t₃ s' →
      Sent index now atDefault s (t₁ ++ (t₂ ++ t₃)) (s'.needsRadio index, atDefault', s')

theorem sendIfReady_sent {res : Bool × Bool × Scheduler}
    (h : (s.sendIfReady index now atDefault).Ends t res) : Sent index now atDefault s t res := by
  simp only [sendIfReady] at h
  split at h
  next hnone =>
    obtain ⟨rfl, rfl⟩ := Prog.ends_pure.1 h
    refine .nothing fun e he => ?_
    rw [hnone] at he
    cases he
  next e he =>
    split at h
    next hbusy =>
      obtain ⟨s₁, h₁, rfl⟩ := Prog.ends_bind_pure.1 h
      exact .goesOn he hbusy h₁
    next hbusy =>
      have hidle : e.isBusy = false := Bool.eq_false_iff.2 hbusy
      split at h
      next hrest =>
        obtain ⟨rfl, rfl⟩ := Prog.ends_pure.1 h
        refine .nothing fun e' he' => ?_
        rw [he, Option.some.injEq] at he'
        subst he'
        exact ⟨hidle, by simpa using hrest⟩
      next hsend =>
        obtain ⟨hpending, hallowed⟩ : e.sendPending = true ∧ s.windowAllowed now = true := by
          simpa using hsend
        obtain ⟨t₁, ⟨atDefault', s₁⟩, u₁, h₁, k₁, rfl⟩ := Prog.ends_bind.1 h
        obtain ⟨t₂, ⟨up, s₂⟩, u₂, h₂, k₂, rfl⟩ := Prog.ends_bind.1 k₁
        obtain ⟨speed, rfl⟩ : ∃ speed, s₁ = { s with speed } := raiseClock_gives h₁.gives
        obtain ⟨radio, rfl⟩ : ∃ radio, s₂ = { s with speed, radio } := raiseRadio_gives h₂.gives
        cases up with
        | false =>
          obtain ⟨_, h₃, rfl⟩ := Prog.ends_bind_pure.1 k₂
          exact .deferred ⟨he, hidle, hpending, hallowed⟩ h₁ h₂ (h₃.of (by simp))
        | true =>
          obtain ⟨s₃, h₃, rfl⟩ := Prog.ends_bind_pure.1 k₂
          exact .begun ⟨he, hidle, hpending, hallowed⟩ h₁ h₂ h₃

/-! ## What a turn asks for -/

section Kinds

variable {kinds : List Effect.Kind}

theorem read_kinds {supply : Option SupplyReading} {utcMs : Nat} (h : [.note, .input] ⊆ kinds) :
    Prog.Asks (Effect.Of kinds) (e.read supply utcMs now) := by
  obtain ⟨hnote, -⟩ : .note ∈ kinds ∧ .input ∈ kinds := by simpa using h
  simp only [Entry.read]
  split
  next => simp [Tally.isFailure, hnote]
  next =>
    simp only [Act.asks_bind, Source.read_kinds h, true_and]
    rintro outcome -
    split <;> simp [Tally.isFailure, hnote]

theorem readEntry_kinds (h : [.note, .radio, .input] ⊆ kinds) :
    Prog.Asks (Effect.Of kinds) (s.readEntry index e now) := by
  obtain ⟨hnote, hradio, hinput⟩ : .note ∈ kinds ∧ .radio ∈ kinds ∧ .input ∈ kinds := by
    simpa using h
  have hread {supply : Option SupplyReading} {utcMs : Nat} :
      Prog.Asks (Effect.Of kinds) (e.read supply utcMs now) :=
    read_kinds (by simp [hnote, hinput])
  have hbus {supply : Option SupplyReading} {utcMs : Nat} :
      Prog.Asks (Effect.Of kinds) (s.radio.withBus (e.read supply utcMs now)) :=
    RadioController.withBus_kinds (by simpa using hradio) hread
  simp only [readEntry]
  split
  all_goals
    simp only [Act.asks_bind, hbus, hread, true_and]
    rintro ⟨result, e'⟩ -
    cases result <;> simp [hnote]

theorem raiseClock_kinds (h : [.note, .clock, .processor] ⊆ kinds) :
    Prog.Asks (Effect.Of kinds) (s.raiseClock now atDefault) := by
  simp only [raiseClock]
  split <;> simp [SpeedController.setDefault_kinds h]

theorem readIfDue_kinds (h : [.note, .radio, .clock, .processor, .input] ⊆ kinds) :
    Prog.Asks (Effect.Of kinds) (s.readIfDue index now atDefault) := by
  obtain ⟨hnote, hradio, hclock, hprocessor, hinput⟩ : .note ∈ kinds ∧ .radio ∈ kinds ∧
    .clock ∈ kinds ∧ .processor ∈ kinds ∧ .input ∈ kinds := by simpa using h
  have hread {s : Scheduler} {e : Entry} :
      Prog.Asks (Effect.Of kinds) (s.readEntry index e now) :=
    readEntry_kinds (by simp [hnote, hradio, hinput])
  have hclock : Prog.Asks (Effect.Of kinds) (s.raiseClock now atDefault) :=
    raiseClock_kinds (by simp [hnote, hclock, hprocessor])
  simp only [readIfDue]
  split
  next => exact Act.asks_pure
  next =>
    split
    next => exact Act.asks_pure
    next => split <;> simp [hclock, hread]

theorem raiseRadio_kinds (h : [.note, .time, .link, .radio, .wake] ⊆ kinds) :
    Prog.Asks (Effect.Of kinds) s.raiseRadio := by
  obtain ⟨hnote, htime, hlink, -⟩ : .note ∈ kinds ∧ .time ∈ kinds ∧ .link ∈ kinds ∧
    .radio ∈ kinds ∧ .wake ∈ kinds := by simpa using h
  have hasked : Prog.Asks (Effect.Of kinds) s.radio.isConnected :=
    RadioController.isConnected_kinds (by simp [hnote, htime, hlink])
  simp only [raiseRadio, Act.asks_bind, hasked, true_and]
  rintro ⟨up, radio⟩ -
  split <;> simp [RadioController.enable_kinds h]

end Kinds

@[simp] theorem raiseClock_quiet : Prog.Asks Effect.Quiet (s.raiseClock now atDefault) :=
  (raiseClock_kinds (List.Subset.refl _)).quiet (by decide) (by decide)

@[simp] theorem readIfDue_quiet : Prog.Asks Effect.Quiet (s.readIfDue index now atDefault) :=
  (readIfDue_kinds (List.Subset.refl _)).quiet (by decide) (by decide)

@[simp] theorem raiseRadio_quiet : Prog.Asks Effect.Quiet s.raiseRadio :=
  (raiseRadio_kinds (List.Subset.refl _)).quiet (by decide) (by decide)

/-- A step of an upload takes no reports. -/
@[simp] theorem serviceEntry_deaf : Prog.Asks Effect.Deaf (s.serviceEntry index now) := by
  simp only [serviceEntry]
  split
  next => exact Act.asks_pure
  next e _ =>
    split
    next => simp
    next =>
      split
      next => simp
      next c _ =>
        simp only [stepUpload, Entry.service, Act.asks_bind, Uploader.service_deaf, true_and]
        refine ⟨fun _ _ => Act.asks_pure, ?_⟩
        rintro ⟨progress, e', d⟩ -
        cases progress <;> simp

/-! ## After the turns -/

/-- A window closes only if no entry has a batch out. -/
theorem completeWindow_gives (h : (s.completeWindow now).Gives s') :
    s' = s ∨ s.windowOpen = true ∧ s' = s.closeWindow now ∧ ∀ e ∈ s.entries, e.isBusy = false := by
  simp only [completeWindow] at h
  split at h
  next => exact Or.inl (Act.gives_pure.1 h)
  next hcomplete =>
    simp only [Act.gives_bind, Act.gives_pure] at h
    obtain ⟨_, -, rfl⟩ := h
    obtain ⟨hopen, hidle⟩ : s.windowOpen = true ∧ ∀ e ∈ s.entries, e.isBusy = false ∧ _ := by
      simpa [not_or] using hcomplete
    exact Or.inr ⟨hopen, rfl, fun e he => (hidle e he).1⟩

theorem completeWindow_still (h : (s.completeWindow now).Gives s') : Still s s' := by
  rcases completeWindow_gives h with rfl | ⟨-, rfl, -⟩
  · exact .refl s'
  · exact still_closeWindow s now

theorem measureSupply_gives {logIt : Bool} (h : (s.measureSupply logIt).Gives s') :
    ∃ supply, s' = { s with supply } := by
  simp only [measureSupply, Act.gives_bind] at h
  obtain ⟨_, -, reading, -, h⟩ := h
  cases reading with
  | none => exact ⟨s.supply, Act.gives_pure.1 h⟩
  | some reading =>
    simp only at h
    split at h
    next =>
      obtain ⟨_, -, h⟩ := Act.gives_bind.1 h
      exact ⟨some reading, Act.gives_pure.1 h⟩
    next => exact ⟨some reading, Act.gives_pure.1 h⟩

theorem resyncTime_gives (h : s.resyncTime.Gives s') :
    ∃ time resyncDue, s' = { s with time, resyncDue } := by
  simp only [resyncTime, Act.gives_bind] at h
  obtain ⟨_, -, _, -, ⟨correction, time⟩, -, h⟩ := h
  cases correction with
  | some correction =>
    simp only [Act.gives_bind, Act.gives_pure] at h
    obtain ⟨_, -, _, -, rfl⟩ := h
    exact ⟨time, false, rfl⟩
  | none =>
    simp only [Act.gives_bind, Act.gives_pure] at h
    obtain ⟨_, -, _, -, rfl⟩ := h
    exact ⟨time, s.resyncDue, rfl⟩

theorem radioOff_gives (h : s.radioOff.Gives s') :
    ∃ registry radio now, s.registry.releaseAll.Gives registry ∧ s.radio.disable.Gives radio ∧
      s' = { s with registry, radio }.closeWindow now := by
  simp only [radioOff, Act.gives_bind] at h
  obtain ⟨registry, hregistry, radio, hradio, now, -, _, -, h⟩ := h
  refine ⟨registry, radio, now, hregistry, hradio, ?_⟩
  cases hsupply : s.supply with
  | none =>
    rw [hsupply] at h
    simpa using h
  | some supply =>
    rw [hsupply] at h
    simpa using h

/-- While the radio is up, the supply and the clock change, and the radio goes off or not. -/
theorem whileUp_gives {keep statusTick : Bool} {due : Instant} {res : Bool × Scheduler}
    (h : (s.whileUp keep statusTick due).Gives res) :
    ∃ supply time resyncDue,
      (res = (true, { s with supply, time, resyncDue }) ∧ (keep || !s.mayRest due) = true) ∨
      (res.1 = false ∧ keep = false ∧ s.mayRest due = true ∧
        ({ s with supply, time, resyncDue } : Scheduler).radioOff.Gives res.2) := by
  simp only [whileUp, Act.gives_bind] at h
  obtain ⟨_, -, s₁, hmeasure, h⟩ := h
  obtain ⟨supply, rfl⟩ := measureSupply_gives hmeasure
  have hend {s₂ : Scheduler} (hpolicy : s₂.policy = s.policy)
      (h : Prog.Gives (S := Node) (if !keep && s₂.mayRest due then do
        return (false, ← s₂.radioOff) else return (true, s₂)) res) :
      (res = (true, s₂) ∧ (keep || !s.mayRest due) = true) ∨
        (res.1 = false ∧ keep = false ∧ s.mayRest due = true ∧ s₂.radioOff.Gives res.2) := by
    have hrest : s₂.mayRest due = s.mayRest due := by rw [mayRest, mayRest, hpolicy]
    rw [hrest] at h
    split at h
    next hoff =>
      obtain ⟨s₃, hoff', h⟩ := Act.gives_bind.1 h
      rw [Act.gives_pure.1 h]
      simp only [Bool.and_eq_true, Bool.not_eq_true'] at hoff
      exact Or.inr ⟨rfl, hoff.1, hoff.2, hoff'⟩
    next hon =>
      refine Or.inl ⟨Act.gives_pure.1 h, ?_⟩
      cases keep with
      | true => rfl
      | false =>
        rw [Bool.not_false, Bool.true_and] at hon
        rw [Bool.false_or, Bool.not_eq_true']
        exact Bool.eq_false_iff.2 hon
  split at h
  next =>
    obtain ⟨s₂, hresync, h⟩ := Act.gives_bind.1 h
    obtain ⟨time, resyncDue, rfl⟩ := resyncTime_gives hresync
    exact ⟨supply, time, resyncDue, hend rfl h⟩
  next => exact ⟨supply, s.time, s.resyncDue, hend rfl h⟩

theorem radioOff_calm (h : s.radioOff.Gives s') : Calm s s' := by
  obtain ⟨registry, radio, t, hregistry, -, rfl⟩ := radioOff_gives h
  have hclosed := still_closeWindow { s with registry, radio } t
  refine ⟨fun hplaced => ?_, hclosed.exchanges, hclosed.seats⟩
  rw [hclosed.registry]
  exact Registry.releaseAll_placed hplaced hregistry

theorem whileUp_calm {keep statusTick : Bool} {due : Instant} {res : Bool × Scheduler}
    (h : (s.whileUp keep statusTick due).Gives res) : Calm s res.2 := by
  obtain ⟨supply, time, resyncDue, ⟨rfl, -⟩ | ⟨-, -, -, hoff⟩⟩ := whileUp_gives h
  · exact ⟨id, rfl, rfl⟩
  · have hcalm : Calm s { s with supply, time, resyncDue } := ⟨id, rfl, rfl⟩
    exact hcalm.trans (radioOff_calm hoff)

theorem askRadio_gives {res : Bool × Scheduler} (h : s.askRadio.Gives res) :
    ∃ radio, res.2 = { s with radio } := by
  simp only [askRadio, Act.gives_bind, Act.gives_pure] at h
  obtain ⟨_, -, rfl⟩ := h
  exact ⟨_, rfl⟩

/-- The radio is asked for its link, or nothing happens, or what is done while it is up. -/
theorem tendRadio_gives {keep statusTick : Bool} {due : Instant} {res : Bool × Scheduler}
    (h : (s.tendRadio keep atDefault statusTick due).Gives res) :
    ∃ radio, res = (false, { s with radio }) ∨
      (({ s with radio } : Scheduler).whileUp keep statusTick due).Gives res := by
  simp only [tendRadio] at h
  split at h
  next => exact ⟨s.radio, Or.inl (Act.gives_pure.1 h)⟩
  next =>
    obtain ⟨⟨up, s₁⟩, hask, h⟩ := Act.gives_bind.1 h
    obtain ⟨radio, rfl⟩ : ∃ radio, s₁ = { s with radio } := askRadio_gives hask
    refine ⟨radio, ?_⟩
    split at h
    next => exact Or.inr h
    next => exact Or.inl (Act.gives_pure.1 h)

theorem tendRadio_calm {keep statusTick : Bool} {due : Instant} {res : Bool × Scheduler}
    (h : (s.tendRadio keep atDefault statusTick due).Gives res) : Calm s res.2 := by
  obtain ⟨radio, hres | hup⟩ := tendRadio_gives h
  · rw [hres]
    exact ⟨id, rfl, rfl⟩
  · have hasked : Calm s { s with radio } := ⟨id, rfl, rfl⟩
    exact hasked.trans (whileUp_calm hup)

theorem tendRadio_from {P : Connection → Connection → Prop} {keep statusTick : Bool}
    {due : Instant} {res : Bool × Scheduler} (hP : Connection.Passive P)
    (h : (s.tendRadio keep atDefault statusTick due).Gives res) :
    Registry.From P s.registry res.2.registry := by
  obtain ⟨radio, hres | hup⟩ := tendRadio_gives h
  · rw [hres]
    exact .refl hP s.registry
  · obtain ⟨supply, time, resyncDue, ⟨rfl, -⟩ | ⟨-, -, -, hoff⟩⟩ := whileUp_gives hup
    · exact .refl hP s.registry
    · obtain ⟨registry, radio', now, hregistry, -, hs'⟩ := radioOff_gives hoff
      rw [hs']
      exact Registry.releaseAll_from hP hregistry

theorem lowerClock_gives {res : Bool × Scheduler} (h : (s.lowerClock atDefault).Gives res) :
    ∃ radio speed, res.2 = { s with radio, speed } := by
  simp only [lowerClock] at h
  split at h
  next =>
    rw [Act.gives_pure.1 h]
    exact ⟨s.radio, s.speed, rfl⟩
  next =>
    obtain ⟨⟨up, s₁⟩, hask, h⟩ := Act.gives_bind.1 h
    obtain ⟨radio, rfl⟩ : ∃ radio, s₁ = { s with radio } := askRadio_gives hask
    split at h
    next =>
      rw [Act.gives_pure.1 h]
      exact ⟨radio, s.speed, rfl⟩
    next =>
      simp only [Act.gives_bind, Act.gives_pure] at h
      obtain ⟨_, -, ⟨low, speed⟩, -, rfl⟩ := h
      exact ⟨radio, speed, rfl⟩

theorem lowerClock_still {res : Bool × Scheduler} (h : (s.lowerClock atDefault).Gives res) :
    Still s res.2 := by
  obtain ⟨radio, speed, hs'⟩ := lowerClock_gives h
  rw [hs']
  exact ⟨rfl, rfl, rfl⟩

/-- The log of the state books time, and leaves the default frequency alone. -/
theorem logStatus_gives {due : Instant} {up : Bool} (h : (s.logStatus due up).Gives s') :
    ∃ speed, s' = { s with speed } ∧ speed.defaultMhz = s.speed.defaultMhz := by
  simp only [logStatus, SpeedController.account, Act.gives_bind, Act.gives_pure] at h
  obtain ⟨_, -, speed, ⟨_, -, rfl⟩, _, -, _, -, _, -, _, -, _, -, _, -, rfl⟩ := h
  exact ⟨_, rfl, rfl⟩

theorem logStatus_still {due : Instant} {up : Bool} (h : (s.logStatus due up).Gives s') :
    Still s s' := by
  obtain ⟨speed, rfl, -⟩ := logStatus_gives h
  exact ⟨rfl, rfl, rfl⟩

end Scheduler

end MeterNode
