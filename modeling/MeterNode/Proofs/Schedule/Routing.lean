import Mathlib.Data.List.Forall2
import MeterNode.Proofs.Devices
import MeterNode.Proofs.Sample.Channel
import MeterNode.Schedule.Entry

/-!
# Where readings go

A read of an entry that is closed, or whose source fails, leaves the channels as they are; a read
that works gives every channel the readings that it takes.  `Entry.Routed` says this of a read, with
everything that is asked for on the way.

The readings of an entry go through one buffer, that is used again by every read, and each reading
is offered to all channels before the next one.  `Entry.readThrough` reads in this way.  The buffer
is emptied ahead of the source, so it makes no difference what an earlier read has left there, a
failed one in particular, and the channels do not mind the order (`fileEach_eq`).
So it does what `Entry.read` does (`readThrough_eq`).
-/

namespace MeterNode.Entry

variable {e e' : Entry} {supply : Option SupplyReading} {utcMs : Nat} {now : Instant}
  {t : Trace Node} {result : Except MeterError Nat} {buffer : List Reading}
  {channels channels' : List MeterChannel} {readings : List Reading}

/-! ## The buffer of the readings -/

/-- Offer readings to all channels, one after the other. -/
def fileEach (readings : List Reading) (channels : List MeterChannel) : List MeterChannel :=
  readings.foldl (fun cs r => cs.map (·.take r)) channels

/-- Read the source through the buffer of the entry, and leave in the buffer what the source has put
there. -/
def readThrough (e : Entry) (buffer : List Reading) (supply : Option SupplyReading) (utcMs : Nat)
    (now : Instant) : Act (Except MeterError Nat × Entry × List Reading) := do
  let e := { e with lastRead := some now }
  if !e.isOpen then
    Act.count (.meterRead false)
    return (.error .notOpen, e, buffer)
  let buffer : List Reading := []
  let outcome ← e.source.read supply readingsPerRead utcMs
  let buffer := buffer ++ outcome.readings
  match outcome.result with
  | .error cause => do
      Act.count (.meterRead false)
      return (.error cause, e, buffer)
  | .ok produced => do
      Act.count (.meterRead true)
      let channels := fileEach buffer e.channels
      Act.log .debug ("sched: read protocol=" ++ e.source.protocol ++ " readings=" ++
        toString produced)
      return (.ok produced, { e with channels }, buffer)

/-- Going through the readings first or through the channels first comes to the same. -/
theorem fileEach_eq : fileEach readings channels = fileAll readings channels := by
  induction readings generalizing channels with
  | nil => simp [fileEach, fileAll]
  | cons r readings ih =>
    rw [fileEach, List.foldl_cons, ← fileEach, ih, fileAll, fileAll, List.map_map]
    rfl

/-- What is in the buffer ahead of a read makes no difference. -/
theorem readThrough_eq :
    (fun res => (res.1, res.2.1)) <$> e.readThrough buffer supply utcMs now =
      e.read supply utcMs now := by
  simp only [readThrough, read, List.nil_append, fileEach_eq]
  split
  next => rfl
  next =>
    rw [map_bind]
    refine bind_congr fun outcome => ?_
    cases outcome.result <;> rfl

/-! ## Reads -/

/-- The line that tells of a read. -/
def readLine (e : Entry) (produced : Nat) : (op : Node.Op) × Node.Answer op :=
  ⟨.log .debug ("sched: read protocol=" ++ e.source.protocol ++ " readings=" ++ toString produced),
    ()⟩

/-- What comes of a read of an entry. -/
inductive Routed (e : Entry) (supply : Option SupplyReading) (utcMs : Nat) (now : Instant) :
    Trace Node → Except MeterError Nat → Entry → Prop where
  /-- The source of an entry that is closed is not asked. -/
  | closed : e.isOpen = false →
      Routed e supply utcMs now [⟨.count (.meterRead false), ()⟩] (.error .notOpen)
        { e with lastRead := some now }
  /-- The source fails, whatever readings it has given before. -/
  | failed {t : Trace Node} {readings : List Reading} {cause : MeterError} : e.isOpen = true →
      (e.source.read supply readingsPerRead utcMs).Ends t ⟨readings, .error cause⟩ →
      Routed e supply utcMs now (t ++ [⟨.count (.meterRead false), ()⟩]) (.error cause)
        { e with lastRead := some now }
  /-- Every channel is pushed the readings that it takes. -/
  | filed {t : Trace Node} {readings : List Reading} {produced : Nat}
      {channels : List MeterChannel} : e.isOpen = true →
      (e.source.read supply readingsPerRead utcMs).Ends t ⟨readings, .ok produced⟩ →
      List.Forall₂ (fun c c' => MeterChannel.Pushed (c.samplesOf readings) c c')
        e.channels channels →
      Routed e supply utcMs now (t ++ [⟨.count (.meterRead true), ()⟩, e.readLine produced])
        (.ok produced) { e with lastRead := some now, channels }

theorem forall₂_pushed_iff :
    List.Forall₂ (fun c c' => MeterChannel.Pushed (c.samplesOf readings) c c')
      channels channels' ↔ channels' = fileAll readings channels := by
  have hpushed (c c' : MeterChannel) :
      MeterChannel.Pushed (c.samplesOf readings) c c' ↔
        readings.foldl MeterChannel.take c = c' := by
    rw [MeterChannel.foldl_take]
    constructor
    · intro h
      exact h.eq_foldl.symm
    · rintro rfl
      exact MeterChannel.foldl_push_pushed c _
  simp only [hpushed]
  rw [← List.forall₂_map_left_iff, List.forall₂_eq_eq_eq]
  exact eq_comm

theorem read_ends_iff :
    (e.read supply utcMs now).Ends t (result, e') ↔ e.Routed supply utcMs now t result e' := by
  constructor
  · intro h
    simp only [read] at h
    split at h
    next hclosed =>
      obtain ⟨_, hcount, hres⟩ := Prog.ends_bind_pure.1 h
      cases hres
      rw [Prog.ends_perform.1 hcount]
      exact .closed (by simpa using hclosed)
    next hopen =>
      have hopen : e.isOpen = true := by simpa using hopen
      obtain ⟨t₁, ⟨readings, outcome⟩, t₂, hread, k, rfl⟩ := Prog.ends_bind.1 h
      cases outcome with
      | error cause =>
        obtain ⟨_, hcount, hres⟩ := Prog.ends_bind_pure.1 k
        cases hres
        rw [Prog.ends_perform.1 hcount]
        exact .failed hopen hread
      | ok produced =>
        obtain ⟨t₃, _, t₄, hcount, k₁, rfl⟩ := Prog.ends_bind.1 k
        obtain ⟨_, hlog, hres⟩ := Prog.ends_bind_pure.1 k₁
        cases hres
        rw [Prog.ends_perform.1 hcount, Prog.ends_perform.1 hlog]
        exact .filed hopen hread (forall₂_pushed_iff.2 rfl)
  · intro h
    cases h with
    | closed hclosed =>
      simp only [read, hclosed]
      exact Prog.ends_bind_pure.2 ⟨(), Prog.ends_perform.2 rfl, rfl⟩
    | failed hopen hread =>
      simp only [read, hopen]
      exact hread.bind (Prog.ends_bind_pure.2 ⟨(), Prog.ends_perform.2 rfl, rfl⟩)
    | filed hopen hread hchannels =>
      obtain rfl := forall₂_pushed_iff.1 hchannels
      simp only [read, hopen]
      refine hread.bind (Prog.ends_bind.2 ⟨[_], (), [_], Prog.ends_perform.2 rfl, ?_, rfl⟩)
      exact Prog.ends_bind_pure.2 ⟨(), Prog.ends_perform.2 rfl, rfl⟩

/-- A source counts nothing. -/
theorem source_tallies {source : Source} {most : Nat} {outcome : ReadOutcome}
    (h : (source.read supply most utcMs).Ends t outcome) : t.tallies = [] := by
  have hasked : (source.read supply most utcMs).Asks fun op => Effect.tally? op = none :=
    Source.read_asks (fun _ _ => rfl) fun _ _ => rfl
  exact List.filterMap_eq_nil_iff.2 (hasked.of_mem h)

theorem Routed.tallies_eq (h : e.Routed supply utcMs now t result e') :
    t.tallies = [.meterRead result.isOk] := by
  cases h with
  | closed => rfl
  | failed _ hread | filed _ hread =>
    rw [Trace.tallies_append, source_tallies hread]
    rfl

/-- A read through the buffer comes to what `Routed` says, whatever is in the buffer, and so does a
read without one.  In every case the interval starts again and one read is counted, as a failure if
it is one; then the channels are as they were. -/
theorem read_routes (e : Entry) (buffer : List Reading) (supply : Option SupplyReading)
    (utcMs : Nat) (now : Instant) (t : Trace Node) (result : Except MeterError Nat) (e' : Entry) :
    ((∃ left, (e.readThrough buffer supply utcMs now).Ends t (result, e', left)) ↔
      e.Routed supply utcMs now t result e') ∧
    ((e.read supply utcMs now).Ends t (result, e') ↔ e.Routed supply utcMs now t result e') ∧
    (e.Routed supply utcMs now t result e' →
      e'.lastRead = some now ∧ (result.isOk = false → e'.channels = e.channels) ∧
      ∀ start : Telemetry, t.tallies.foldl Telemetry.record start =
        { start with
          meterReads := start.meterReads + 1
          meterErrors := if result.isOk then start.meterErrors else start.meterErrors + 1 }) := by
  refine ⟨?_, read_ends_iff, fun h => ⟨?_, ?_, fun start => ?_⟩⟩
  · rw [← read_ends_iff, ← @readThrough_eq e supply utcMs now buffer, map_eq_pure_bind,
      Prog.ends_bind_pure]
    constructor
    · rintro ⟨left, h⟩
      exact ⟨_, h, rfl⟩
    · rintro ⟨⟨_, _, left⟩, h, hres⟩
      cases hres
      exact ⟨left, h⟩
  · cases h <;> rfl
  · intro hfails
    cases h with
    | closed | failed => rfl
    | filed => cases hfails
  · rw [h.tallies_eq]
    rfl

/-- An entry with a channel for one metric and a channel for all, and a driver. -/
def sorting : Entry where
  source := .external ⟨0, "em", 0, false, false⟩
  channels := [{ uuid := "u", identifier := some "power" }, { uuid := "v", identifier := none }]
  conn := ⟨0⟩
  uploader := Uploader.new "/"
  isOpen := true

/-- A read has failed and left a reading in the buffer; the next one gives two. -/
theorem routes_of_sorting :
    let stale : Reading := ⟨some "power", 4, 0⟩
    let outcome : ReadOutcome := ⟨[⟨some "power", 5, 1⟩, ⟨some "energy", 5, 2⟩], .ok 2⟩
    let t : Trace Node :=
      [⟨.meter 0 (.readSource 16 5), outcome⟩, ⟨.count (.meterRead true), ()⟩, sorting.readLine 2]
    ∃ e' left, (sorting.readThrough [stale] none 5 7).Ends t (.ok 2, e', left) ∧
      e'.lastRead = some 7 ∧
      e'.channels.map (·.pending) = [[⟨5, 1⟩], [⟨5, 1⟩, ⟨5, 2⟩]] := by
  intro stale outcome t
  have hread : (sorting.source.read none readingsPerRead 5).Ends
      [⟨.meter 0 (.readSource 16 5), outcome⟩] outcome := Prog.ends_perform.2 rfl
  have hrouted : sorting.Routed none 5 7 t (.ok 2)
      { sorting with
        lastRead := some 7
        channels := fileAll outcome.readings sorting.channels } :=
    .filed rfl hread (forall₂_pushed_iff.2 rfl)
  obtain ⟨hbuffered, -, hlast⟩ := read_routes sorting [stale] none 5 7 t (.ok 2) _
  obtain ⟨left, hends⟩ := hbuffered.2 hrouted
  exact ⟨_, left, hends, (hlast hrouted).1, rfl⟩

end MeterNode.Entry
