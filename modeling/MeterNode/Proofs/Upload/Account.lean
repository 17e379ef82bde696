import MeterNode.Bench.World
import MeterNode.Proofs.Upload.Steps

/-!
# Keeping account of a channel

An account follows one channel of an uploader through a run of pushes, reports of the transport and
steps of the uploader.  The state proper is the uploader, its connection and its channels.  Beside
it a ledger records, place by place, what has become of the samples that were pushed to the channel
followed: which of them overflowed, which were skipped as repeats, and which were delivered.

The ledger is written from what is seen from outside.  A push overflows where it finds the buffer
full.  A step that delivers a batch delivers the places that the batch carries and skips those that
it does not; any other step skips those of the samples it removes that are repeats.  A sample that
leaves the buffer in another way is in no class.

*Overruns.*  A batch remembers how many samples it covers, not which.  So the ledger counts the
pushes that overflowed while a batch of the channel was out, and the batches delivered after such a
push.
-/

namespace MeterNode

open MeterNode.Text

/-- What has become of the samples pushed to a channel. -/
structure Ledger where
  /-- All samples, in the order they came. -/
  pushed : List Sample := []
  /-- The places dropped by a push into a full buffer. -/
  overflowed : List Nat := []
  /-- The places skipped as repeats of the timestamp kept before them. -/
  skipped : List Nat := []
  /-- The places that a delivered batch carried. -/
  delivered : List Nat := []
  /-- The delivered batches. -/
  batches : List Batch := []
  /-- The place where the buffer began when the last batch was framed. -/
  framedAt : Nat := 0
  /-- The overflows since the batch that is out was framed. -/
  evicted : Nat := 0
  /-- The batches delivered although there had been such overflows. -/
  overruns : Nat := 0

/-- Where a sample can be. -/
inductive Fate where
  | buffered
  | overflowed
  | skipped
  | delivered
deriving DecidableEq

namespace Ledger

/-- The place of the oldest sample of the buffer. -/
def first (l : Ledger) (buffer : List Sample) : Nat := l.pushed.length - buffer.length

/-- The sample at a place is where `fate` says. -/
def Has (l : Ledger) (buffer : List Sample) : Fate → Nat → Prop
  | .buffered, k => l.first buffer ≤ k
  | .overflowed, k => k ∈ l.overflowed
  | .skipped, k => k ∈ l.skipped
  | .delivered, k => k ∈ l.delivered

/-- Every sample is in exactly one place. -/
def Conserved (l : Ledger) (buffer : List Sample) : Prop :=
  ∀ k < l.pushed.length,
    ∃ fate, l.Has buffer fate k ∧ ∀ other, l.Has buffer other k → other = fate

/-- Record a push; `out` says whether a batch of the channel is out. -/
def push (l : Ledger) (buffer : List Sample) (out : Bool) (s : Sample) : Ledger :=
  if buffer.length < channelCapacity then { l with pushed := l.pushed ++ [s] }
  else
    { l with
      pushed := l.pushed ++ [s]
      overflowed := l.overflowed ++ [l.first buffer]
      evicted := if out then l.evicted + 1 else l.evicted }

/-- Record the delivery of a batch, before which a sample with the timestamp `previous` was
delivered. -/
def deliver (l : Ledger) (previous : Option Nat) (b : Batch) : Ledger :=
  let sorted := sortPlaces previous l.framedAt ((l.pushed.drop l.framedAt).take b.covered)
  { l with
    delivered := l.delivered ++ sorted.1
    skipped := l.skipped ++ sorted.2
    batches := l.batches ++ [b]
    overruns := if l.evicted = 0 then l.overruns else l.overruns + 1 }

/-- Record which of the `count` samples removed from the buffer are repeats. -/
def skip (l : Ledger) (previous : Option Nat) (buffer : List Sample) (count : Nat) : Ledger :=
  let removed := (l.pushed.drop (l.first buffer)).take count
  { l with skipped := l.skipped ++ (sortPlaces previous (l.first buffer) removed).2 }

/-- Record what a step removed from the buffer of the channel at a place. -/
def remove (l : Ledger) (place : Nat) (u : Uploader) (before after : List Sample) :
    UploadProgress → Ledger
  | .delivered _ =>
      match u.batch with
      | some b => if b.channel = place then l.deliver (u.lastSentOf place) b else l
      | none => l
  | _ => l.skip (u.lastSentOf place) before (before.length - after.length)

/-- Record a step. -/
def settle (l : Ledger) (place : Nat) (u : Uploader) (before after : List Sample)
    (r : Uploader.Serviced) : Ledger :=
  let l := l.remove place u before after r.progress
  { l with
    framedAt := if u.batch.isNone then l.first after else l.framedAt
    evicted := if u.batch.isSome && r.uploader.batch.isSome then l.evicted else 0 }

end Ledger

/-- An uploader at work, and the ledger of one of its channels. -/
structure Account where
  uploader : Uploader
  conn : Connection
  channels : List MeterChannel
  ledger : Ledger := {}

namespace Account

/-- The buffered samples of the channel at a place. -/
def bufferOf (channels : List MeterChannel) (place : Nat) : List Sample :=
  (channels[place]?.map MeterChannel.pending).getD []

/-- A batch of the channel at a place is out. -/
def isOut (a : Account) (place : Nat) : Bool := a.uploader.batch.any (·.channel = place)

/-- Push a sample to the channel at the place `i`. -/
def push (a : Account) (place i : Nat) (s : Sample) : Account :=
  { a with
    channels := a.channels.modify i (·.push s)
    ledger :=
      if i = place then a.ledger.push (bufferOf a.channels place) (a.isOut place) s
      else a.ledger }

/-- Take over what a step left behind. -/
def settle (a : Account) (place : Nat) (r : Uploader.Serviced) : Account :=
  { uploader := r.uploader
    conn := r.conn
    channels := r.channels
    ledger := a.ledger.settle place a.uploader (bufferOf a.channels place)
      (bufferOf r.channels place) r }

/-- A push to some channel, a report of the transport, or a step of the uploader. -/
inductive Step (place : Nat) : Account → Account → Prop where
  | push {a : Account} (i : Nat) (s : Sample) : i < a.channels.length →
      Step place a (a.push place i s)
  | event {a : Account} (source : Option Handle) (kind : EventKind) (now : Instant)
      {r : EventOutcome × Connection} : (a.conn.applyEvent source kind now).Gives r →
      Step place a { a with conn := r.2 }
  | service {a : Account} (now : Instant) {r : Uploader.Serviced} :
      (a.uploader.service a.conn a.channels now).Gives r → Step place a (a.settle place r)

/-- Nothing has happened yet. -/
def Fresh (a : Account) : Prop :=
  a.uploader.batch = none ∧ a.ledger = {} ∧ ∀ c ∈ a.channels, c.pending = [] ∧ c.dropped = 0

/-- The account of a run. -/
inductive Reached (place : Nat) : Account → Prop where
  | start {a : Account} : a.Fresh → place < a.channels.length → Reached place a
  | step {a a' : Account} : Reached place a → Step place a a' → Reached place a'

/-- The account after some more steps. -/
inductive Later (place : Nat) (a : Account) : Account → Prop where
  | refl : Later place a a
  | step {a₁ a₂ : Account} : Later place a a₁ → Step place a₁ a₂ → Later place a a₂

theorem Reached.later {place : Nat} {a a' : Account} (h : Reached place a)
    (hlater : Later place a a') : Reached place a' := by
  induction hlater with
  | refl => exact h
  | step _ hstep ih => exact ih.step hstep

/-- The places that the batch of a channel carries that is out. -/
def carried (a : Account) (place : Nat) : List Nat :=
  match a.uploader.batch with
  | some b =>
      if b.channel = place then
        (sortPlaces (a.uploader.lastSentOf place) a.ledger.framedAt
          ((a.ledger.pushed.drop a.ledger.framedAt).take b.covered)).1
      else []
  | none => []

/-! ## Runs on the bench -/

/-- What can happen next. -/
inductive Happening where
  | push (i : Nat) (s : Sample)
  | event (source : Option Handle) (kind : EventKind) (now : Instant)
  | service (now : Instant)

/-- Let it happen, with the answers of a bench. -/
def happen (place : Nat) : Account × Bench.World → Happening → Account × Bench.World
  | (a, w), .push i s => if i < a.channels.length then (a.push place i s, w) else (a, w)
  | (a, w), .event source kind now =>
      let (r, w) := w.run (a.conn.applyEvent source kind now)
      ({ a with conn := r.2 }, w)
  | (a, w), .service now =>
      let (r, w) := w.run (a.uploader.service a.conn a.channels now)
      (a.settle place r, w)

/-- The account after some happenings, on a bench that grants every call. -/
def play (place : Nat) (a : Account) (happenings : List Happening) : Account :=
  (happenings.foldl (happen place) (a, {})).1

theorem happen_reached {place : Nat} {aw : Account × Bench.World} (h : Reached place aw.1)
    (x : Happening) : Reached place (happen place aw x).1 := by
  obtain ⟨a, w⟩ := aw
  cases x with
  | push i s =>
    simp only [happen]
    split
    next hi => exact h.step (.push i s hi)
    next => exact h
  | event source kind now => exact h.step (.event source kind now (Prog.run_ends _ _ w).gives)
  | service now => exact h.step (.service now (Prog.run_ends _ _ w).gives)

theorem play_reached {place : Nat} {a : Account} (h : Reached place a) (xs : List Happening) :
    Reached place (a.play place xs) := by
  have hfold : ∀ aw : Account × Bench.World, Reached place aw.1 →
      Reached place (xs.foldl (happen place) aw).1 := by
    induction xs with
    | nil =>
      intro aw h
      exact h
    | cons x xs ih =>
      intro aw h
      exact ih _ (happen_reached h x)
  exact hfold (a, {}) h

/-- One empty channel, whose samples go to a collector. -/
def single : Account :=
  { uploader := Uploader.new "/middleware.php"
    conn :=
      { id := ⟨0⟩, label := "lwi0", role := .client ⟨.http, "coll.example", 8080, ""⟩
        timeout := Instant.ofSeconds 30 }
    channels := [{ uuid := "u", identifier := none }] }

theorem single_reached : Reached 0 single :=
  .start ⟨rfl, rfl, by simp [single]⟩ (by decide)

/-- Pushes of samples with the timestamps from `ts` on. -/
def pushes (ts count : Nat) : List Happening :=
  (List.range count).map fun k => .push 0 ⟨ts + k, 0⟩

/-- A batch is connected for and written. -/
def written : List Happening :=
  [.service 0, .event (some ⟨1⟩) (.connected (.ok ())) 0, .service 0]

/-- A reply that accepts a batch. -/
def acceptance : Bytes := bytesOf "HTTP/1.1 200 OK\r\n\r\n"

/-- The collector accepts the batch. -/
def accepted : List Happening := [.event (some ⟨1⟩) (.received acceptance) 0, .service 0]

end Account

end MeterNode
