import Mathlib.Data.List.Chain
import MeterNode.Proofs.Upload.Postings

/-!
# The delivered stream of a channel

The batches of a channel that were delivered, one behind the other, make up the stream that the
collector has of it.  The stream is a part of what was pushed to the channel, in the order of the
pushes and with no sample twice, and a timestamp never follows itself.

*One batch.*  `dropRepeats` leaves no two neighbours with one timestamp (`dropRepeats_isChain`) and
begins with another one than the timestamp delivered last (`ne_of_head_dropRepeats`).

*The next one.*  `Account.Ordered` is what the deliveries so far have to do with the last timestamp
that the uploader remembers.  Only a delivery to the channel changes either
(`Account.settle_stream`), and what it adds lies behind everything before it (`Ordered.deliver`).
-/

namespace MeterNode

open MeterNode.Text

section OneBatch

variable {previous : Option Nat} {k : Nat} {samples : List Sample} {s : Sample}

theorem ne_of_head_dropRepeats (h : s ∈ (dropRepeats previous samples).head?) :
    previous ≠ some s.ts := by
  induction samples with
  | nil => cases h
  | cons d rest ih =>
    simp only [dropRepeats] at h
    split at h
    next => exact ih h
    next hne =>
      cases h
      exact hne

theorem dropRepeats_isChain (previous : Option Nat) (samples : List Sample) :
    (dropRepeats previous samples).IsChain fun s s' => s.ts ≠ s'.ts := by
  induction samples generalizing previous with
  | nil => exact .nil
  | cons d rest ih =>
    simp only [dropRepeats]
    split
    · exact ih previous
    · refine List.isChain_cons.2 ⟨fun s hs heq => ?_, ih (some d.ts)⟩
      exact ne_of_head_dropRepeats hs (congrArg some heq)

theorem sortPlaces_sorted (previous : Option Nat) (k : Nat) (samples : List Sample) :
    (sortPlaces previous k samples).1.Pairwise (· < ·) := by
  induction samples generalizing previous k with
  | nil => exact .nil
  | cons d rest ih =>
    simp only [sortPlaces]
    split
    · exact ih previous (k + 1)
    · exact .cons (fun n hn => (le_of_mem_carried hn).1) (ih (some d.ts) (k + 1))

end OneBatch

theorem Uploader.lastSentOf_markSent (u : Uploader) (i j ts : Nat) :
    (u.markSent i ts).lastSentOf j = if j = i then some ts else u.lastSentOf j := by
  simp only [lastSentOf, markSent, List.getElem?_set, List.length_append, List.length_replicate]
  by_cases hij : i = j
  · subst hij
    rw [if_pos rfl, if_pos rfl, if_pos (by omega)]
    rfl
  · rw [if_neg hij, if_neg (Ne.symm hij), List.getElem?_append]
    split
    next => rfl
    next hj =>
      -- Beyond what is remembered there is only the room just made.
      rw [List.getElem?_replicate, List.getElem?_eq_none (Nat.not_lt.1 hj)]
      split <;> rfl

namespace Ledger

/-- The samples of the delivered batches, one after the other. -/
def stream (l : Ledger) : List Sample := l.batches.flatMap Batch.tuples

/-- The deliveries are in order, and the last of them is remembered. -/
structure Ordered (l : Ledger) (remembered : Option Nat) : Prop where
  increasing : l.delivered.Pairwise (· < ·)
  apart : l.stream.IsChain fun s s' => s.ts ≠ s'.ts
  latest : ∀ s ∈ l.stream.getLast?, remembered = some s.ts

/-- The batch that is out is the next one. -/
theorem Ordered.deliver {l : Ledger} {c : MeterChannel} {b : Batch} {remembered : Option Nat}
    (h : l.Ordered remembered) (hb : l.Covers remembered c b) (hne : b.tuples ≠ []) :
    (l.deliver remembered b).Ordered (some b.lastTs) := by
  have hstream : (l.deliver remembered b).stream = l.stream ++ b.tuples := by
    simp [stream, Ledger.deliver]
  refine ⟨?_, ?_, ?_⟩
  · refine List.pairwise_append.2 ⟨h.increasing, sortPlaces_sorted _ _ _, fun n hn m hm => ?_⟩
    have hbefore := hb.undelivered n hn
    have hafter := le_of_mem_carried hm
    omega
  · rw [hstream, hb.tuples]
    refine h.apart.append (dropRepeats_isChain _ _) fun s hs s' hs' heq => ?_
    refine ne_of_head_dropRepeats hs' ?_
    rw [h.latest s hs, heq]
  · intro s hs
    rw [hstream, List.getLast?_append_of_ne_nil _ hne] at hs
    rw [Batch.lastTs, Option.mem_def.1 hs]
    rfl

end Ledger

namespace Account

open Ledger

variable {a : Account} {place : Nat} {ps : List Posting} {ws : List (Handle × Bytes)}

/-- A step delivers the batch of the channel that is out, or it changes neither the deliveries to
the channel nor what is remembered of them. -/
theorem settle_stream (place : Nat) {r : Uploader.Serviced} {now : Instant}
    (hr : (a.uploader.service a.conn a.channels now).Gives r) :
    ((a.settle place r).ledger.batches = a.ledger.batches ∧
      (a.settle place r).ledger.delivered = a.ledger.delivered ∧
      r.uploader.lastSentOf place = a.uploader.lastSentOf place) ∨
    ∃ b, a.uploader.batch = some b ∧ b.channel = place ∧
      (a.settle place r).ledger.batches =
        (a.ledger.deliver (a.uploader.lastSentOf place) b).batches ∧
      (a.settle place r).ledger.delivered =
        (a.ledger.deliver (a.uploader.lastSentOf place) b).delivered ∧
      r.uploader.lastSentOf place = some b.lastTs := by
  have hstep := Uploader.service_gives hr
  obtain ⟨progress, uploader, conn, channels⟩ := r
  have hother (hp : ∀ n, progress ≠ .delivered n)
      (hu : uploader.lastSentOf place = a.uploader.lastSentOf place) :
      (a.settle place ⟨progress, uploader, conn, channels⟩).ledger.batches = a.ledger.batches ∧
        (a.settle place ⟨progress, uploader, conn, channels⟩).ledger.delivered =
          a.ledger.delivered ∧
        uploader.lastSentOf place = a.uploader.lastSentOf place := by
    simp only [Account.settle, Ledger.settle, remove_of_ne hp]
    exact ⟨rfl, rfl, hu⟩
  cases hstep with
  | rested hp | carried _ _ hp | givenUp _ hp =>
    exact Or.inl (hother (fun n => UploadProgress.ne_delivered hp) rfl)
  | idle htaken => exact Or.inl (hother (fun n => UploadProgress.ne_delivered rfl) rfl)
  | refused hb hs hcode =>
    exact Or.inl (hother (fun n hn => hcode (Uploader.verdict_delivered.1 ⟨n, hn⟩)) rfl)
  | @delivered b hb hs hcode =>
    have hlast := Uploader.lastSentOf_markSent { a.uploader with batch := none } b.channel place
      b.lastTs
    by_cases hplace : b.channel = place
    · refine Or.inr ⟨b, hb, hplace, ?_, ?_, hlast.trans (if_pos hplace.symm)⟩
      all_goals simp only [Account.settle, Ledger.settle, Ledger.remove, hb, if_pos hplace]
    · refine Or.inl ⟨?_, ?_, hlast.trans (if_neg (Ne.symm hplace))⟩
      all_goals simp only [Account.settle, Ledger.settle, Ledger.remove, hb, if_neg hplace]

/-- The delivered batches are in order, and each of them was posted. -/
structure Streamed (place : Nat) (a : Account) (ps : List Posting) : Prop where
  ordered : a.ledger.Ordered (a.uploader.lastSentOf place)
  posted : ∀ b ∈ a.ledger.batches, ∃ p ∈ ps, p.IsFor b

theorem Fresh.streamed (h : a.Fresh) : a.Streamed place [] := by
  obtain ⟨-, hledger, -⟩ := h
  constructor
  · rw [hledger]
    exact ⟨.nil, .nil, by simp [stream]⟩
  · simp [hledger]

/-- A push delivers nothing. -/
theorem push_deliveries (a : Account) (place i : Nat) (s : Sample) :
    (a.push place i s).ledger.delivered = a.ledger.delivered ∧
      (a.push place i s).ledger.batches = a.ledger.batches := by
  simp only [Account.push, Ledger.push]
  repeat' split
  all_goals exact ⟨rfl, rfl⟩

/-- A step keeps the postings, and adds requests to them or a new one. -/
theorem record_isFor {t : Trace Node} {r : Uploader.Serviced} {p : Posting} {b : Batch}
    (hp : p ∈ ps) (hb : p.IsFor b) : ∃ q ∈ a.record t r ps, q.IsFor b := by
  obtain ⟨attempts, rfl⟩ := hb
  cases ps with
  | nil => cases hp
  | cons q rest =>
    simp only [record]
    split
    next =>
      rcases List.mem_cons.1 hp with rfl | hp
      · exact ⟨p.write t.writes, List.mem_cons_self, attempts, rfl⟩
      · exact ⟨p, List.mem_cons_of_mem _ hp, attempts, rfl⟩
    next => exact ⟨p, List.mem_cons_of_mem _ hp, attempts, rfl⟩
    next => exact ⟨p, hp, attempts, rfl⟩

theorem Streamed.service (h : a.Streamed place ps) (hkept : a.Kept ps ws) (hsound : a.Sound place)
    {now : Instant} {t : Trace Node} {r : Uploader.Serviced}
    (hr : (a.uploader.service a.conn a.channels now).Ends t r) :
    (a.settle place r).Streamed place (a.record t r ps) := by
  have hsame {b : Batch} (hb : b ∈ a.ledger.batches) : ∃ p ∈ a.record t r ps, p.IsFor b := by
    obtain ⟨p, hp, hfor⟩ := h.posted b hb
    exact record_isFor hp hfor
  rcases settle_stream place hr.gives with ⟨hbatches, hdelivered, hlast⟩ |
    ⟨b, hb, rfl, hbatches, hdelivered, hlast⟩
  · refine ⟨⟨?_, ?_, ?_⟩, fun b hb => hsame (hbatches ▸ hb)⟩
    · rw [hdelivered]
      exact h.ordered.increasing
    · rw [stream, hbatches]
      exact h.ordered.apart
    · rw [stream, hbatches]
      exact fun s hs => hlast.trans (h.ordered.latest s hs)
  · obtain ⟨c, -, -, hfollows⟩ := hsound
    obtain ⟨p, rest, rfl, attempts, rfl⟩ := hkept.out b hb
    obtain ⟨d, hfaithful⟩ := hkept.faithful p List.mem_cons_self
    have hnext := h.ordered.deliver (hfollows.out _ hb rfl)
      (List.length_pos_iff.1 hfaithful.positive)
    refine ⟨⟨?_, ?_, ?_⟩, fun d hd => ?_⟩
    · rw [hdelivered]
      exact hnext.increasing
    · rw [stream, hbatches]
      exact hnext.apart
    · rw [stream, hbatches]
      exact fun s hs => hlast.trans (hnext.latest s hs)
    · rw [hbatches] at hd
      rcases List.mem_append.1 hd with hd | hd
      · exact hsame hd
      · rw [List.mem_singleton.1 hd]
        exact record_isFor List.mem_cons_self ⟨attempts, rfl⟩

theorem Recorded.streamed (h : Recorded place a ps ws) : a.Streamed place ps := by
  induction h with
  | start hfresh _ => exact hfresh.streamed
  | @push a ps ws i s _ _ ih =>
    obtain ⟨hdelivered, hbatches⟩ := push_deliveries a place i s
    refine ⟨⟨?_, ?_, ?_⟩, ?_⟩
    · rw [hdelivered]
      exact ih.ordered.increasing
    · rw [stream, hbatches]
      exact ih.ordered.apart
    · rw [stream, hbatches]
      exact ih.ordered.latest
    · rw [hbatches]
      exact ih.posted
  | event source kind now _ _ ih => exact ⟨ih.ordered, ih.posted⟩
  | service now h hr ih => exact ih.service h.kept h.reached.sound hr

/-- After any run, the stream that was delivered for a channel consists of samples pushed to it, in
the order of the pushes and each at most once, and no timestamp in it follows itself.  Every batch
of it was posted.  Every batch that was posted carries between one and sixty-four samples, the
oldest of its channel when it was framed, and its payload is the one text that frames them.  Every
request that was ever written says where such a batch goes and has its payload for a body. -/
theorem Recorded.delivered_stream (h : Recorded place a ps ws) :
    a.ledger.delivered.Pairwise (· < ·) ∧
    a.ledger.delivered.map (a.ledger.pushed[·]?) = a.ledger.stream.map some ∧
    (a.ledger.stream.IsChain fun s s' => s.ts ≠ s'.ts) ∧
    (∀ b ∈ a.ledger.batches, (1 ≤ b.tuples.length ∧ b.tuples.length ≤ 64) ∧
      ∃ p ∈ ps, p.IsFor b) ∧
    ps.reverse.flatMap Posting.requests = ws ∧
    ∀ p ∈ ps, ∃ c, p.Faithful c := by
  obtain ⟨c, -, hbalanced, -⟩ := h.reached.sound
  have hkept := h.kept
  have hstreamed := h.streamed
  refine ⟨hstreamed.ordered.increasing, hbalanced.samples, hstreamed.ordered.apart,
    fun b hb => ?_, hkept.written, hkept.faithful⟩
  obtain ⟨p, hp, attempts, rfl⟩ := hstreamed.posted b hb
  obtain ⟨d, hfaithful⟩ := hkept.faithful p hp
  exact ⟨⟨hfaithful.positive, hfaithful.bound⟩, p, hp, attempts, rfl⟩

/-- A batch is connected for, written and accepted, on whatever socket. -/
def exchange : List Happening :=
  [.service 0, .event none (.connected (.ok ())) 0, .service 0,
    .event none (.received acceptance) 0, .service 0]

/-- Repeats within a batch and across two batches. -/
def repeated : Account :=
  single.play 0 (pushes 5 1 ++ pushes 5 2 ++ exchange ++ pushes 6 2 ++ exchange)

/-- Of five samples three are delivered, and each batch is posted as the text that frames them. -/
theorem delivered_stream_of_repeats : ∃ ps ws, Recorded 0 repeated ps ws ∧
    repeated.ledger.delivered = [0, 2, 4] ∧
    repeated.ledger.batches.map Batch.payload = ["[[5,0.00],[6,0.00]]", "[[7,0.00]]"] ∧
    (repeated.ledger.stream.IsChain fun s s' => s.ts ≠ s'.ts) ∧
    ∀ b ∈ repeated.ledger.batches, ∃ p ∈ ps, p.IsFor b ∧
      ∃ c : MeterChannel, ∀ text, Batch.Frames c.precision b.tuples text ↔ text = b.payload := by
  have hreached : Reached 0 repeated := play_reached single_reached _
  obtain ⟨ps, ws, h⟩ := hreached.recorded
  obtain ⟨-, -, hchain, hbatches, -, hfaithful⟩ := Recorded.delivered_stream h
  refine ⟨ps, ws, h, by decide +kernel, by decide +kernel, hchain, fun b hb => ?_⟩
  obtain ⟨-, p, hp, attempts, rfl⟩ := hbatches b hb
  obtain ⟨c, hc⟩ := hfaithful p hp
  exact ⟨p, hp, ⟨attempts, rfl⟩, c, hc.payload⟩

end Account

end MeterNode
