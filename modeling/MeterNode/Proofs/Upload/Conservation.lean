import MeterNode.Proofs.Upload.Ledger

/-!
# Conservation of samples

A sample that was pushed to a channel is buffered, has overflowed, was skipped as a repeat or was
delivered, unless the channel overflowed while one of its batches was out.  The batch then counts
samples that are no longer there, and its delivery removes as many that it does not carry.

* `Account.Reached.sound`: in every run the ledger agrees with the channel and with the batch that
  is out.  Every step of an account keeps it so (`Account.Step.sound`).
* `carried_undelivered`: a batch carries no sample that was delivered before.
-/

namespace MeterNode

namespace Account

open Ledger

variable {a a' : Account} {place : Nat} {c : MeterChannel}

theorem bufferOf_eq {channels : List MeterChannel} (h : channels[place]? = some c) :
    bufferOf channels place = c.pending := by
  simp [bufferOf, h]

/-- The ledger agrees with the channel that it follows, and with the uploader. -/
def Sound (place : Nat) (a : Account) : Prop :=
  ∃ c, a.channels[place]? = some c ∧ a.ledger.Balanced c ∧ a.ledger.Follows a.uploader place c

theorem Fresh.sound (h : a.Fresh) (hplace : place < a.channels.length) : a.Sound place := by
  obtain ⟨hbatch, hledger, hchannels⟩ := h
  obtain ⟨hpending, hdropped⟩ := hchannels _ (List.getElem_mem hplace)
  refine ⟨a.channels[place], List.getElem?_eq_getElem hplace, ?_, ?_⟩
  · rw [hledger]
    refine ⟨?_, ?_, ?_, ?_, rfl, ?_, ?_, ?_, ?_⟩
    all_goals simp [hpending, hdropped, first, Left]
  · constructor
    · intro b hb
      rw [hbatch] at hb
      cases hb
    · intro _
      rw [hledger]

theorem push_sound (h : a.Sound place) (i : Nat) (s : Sample) : (a.push place i s).Sound place := by
  obtain ⟨c, hc, hl, hf⟩ := h
  by_cases hi : i = place
  · subst hi
    refine ⟨c.push s, ?_, ?_⟩
    · simp [Account.push, hc]
    · simp only [Account.push, if_true, bufferOf_eq hc]
      exact ⟨hl.push _ s, hf.push hl s⟩
  · refine ⟨c, ?_, ?_⟩
    · simp [Account.push, hi, hc]
    · simp only [Account.push, if_neg hi]
      exact ⟨hl, hf⟩

/-- A step that leaves the channels alone and delivers nothing. -/
theorem settle_kept {r : Uploader.Serviced} (h : a.Sound place)
    (hchannels : r.channels = a.channels) (hp : ∀ n, r.progress ≠ .delivered n)
    (hu : r.uploader = a.uploader ∨ r.uploader = { a.uploader with batch := none } ∨
      ∃ b attempts, a.uploader.batch = some b ∧
        r.uploader = { a.uploader with batch := some { b with attempts } }) :
    (a.settle place r).Sound place := by
  obtain ⟨c, hc, hl, hf⟩ := h
  refine ⟨c, by rw [← hc, ← hchannels]; rfl, ?_⟩
  simp only [Account.settle, Ledger.settle, hchannels, remove_same hp]
  refine ⟨hl.reframe _ _, ?_⟩
  rcases hu with hu | hu | ⟨b, attempts, hb, hu⟩
  · rw [hu]
    cases hb : a.uploader.batch with
    | none => exact follows_none hb (by simp)
    | some b => exact hf
  · rw [hu]
    exact follows_none rfl (by simp)
  · rw [hu, hb]
    exact hf.carried hb attempts

/-- A step that frames. -/
theorem settle_framed {r : Uploader.Serviced} {now : Instant} (h : a.Sound place)
    (hb : a.uploader.batch = none) (hp : ∀ n, r.progress ≠ .delivered n)
    (hchannels : r.channels = (a.uploader.framed now 0 a.channels).2)
    (hu : r.uploader = a.uploader ∨ ∃ b attempts,
      (a.uploader.framed now 0 a.channels).1 = some b ∧
        r.uploader = { a.uploader with batch := some { b with attempts } }) :
    (a.settle place r).Sound place := by
  obtain ⟨c, hc, hl, hf⟩ := h
  obtain ⟨c', hc', hl', hkept⟩ := hl.framed a.uploader now hc
  rw [← hchannels] at hc'
  refine ⟨c', hc', ?_⟩
  simp only [Account.settle, Ledger.settle, remove_of_ne hp, bufferOf_eq hc, bufferOf_eq hc', hb]
  refine ⟨hl'.reframe _ _, ?_⟩
  rcases hu with hu | ⟨b, attempts, hframed, hu⟩
  · rw [hu]
    exact follows_none hb (by simp)
  · rw [hu]
    refine Follows.carried (u := { a.uploader with batch := some b }) ⟨?_, ?_⟩ rfl attempts
    · intro d hd hplace
      cases hd
      obtain ⟨rfl, rfl, hne⟩ := hkept b hframed hplace
      exact covers_batchOf (hl'.reframe _ _) rfl rfl hne
    · intro _
      rfl

/-- A step that delivers. -/
theorem settle_delivered {r : Uploader.Serviced} {b : Batch} {n : Nat} (h : a.Sound place)
    (hb : a.uploader.batch = some b) (hp : r.progress = .delivered n)
    (hchannels : r.channels = Uploader.acknowledgeBatch b a.channels)
    (hu : r.uploader.batch = none) : (a.settle place r).Sound place := by
  obtain ⟨c, hc, hl, hf⟩ := h
  by_cases hplace : b.channel = place
  · refine ⟨c.acknowledge b.covered, ?_, ?_⟩
    · simp only [Account.settle, hchannels, Uploader.acknowledgeBatch, hplace]
      simp [hc]
    · simp only [Account.settle, Ledger.settle, Ledger.remove, hp, hb, hplace, if_true]
      refine ⟨(hl.deliver (hf.out b hb hplace)).reframe _ _, follows_none hu ?_⟩
      simp [hu]
  · refine ⟨c, ?_, ?_⟩
    · simp only [Account.settle, hchannels, Uploader.acknowledgeBatch]
      simp [hc, hplace]
    · simp only [Account.settle, Ledger.settle, Ledger.remove, hp, hb, if_neg hplace]
      refine ⟨hl.reframe _ _, follows_none hu ?_⟩
      simp [hu]

theorem settle_sound {r : Uploader.Serviced} {now : Instant} (h : a.Sound place)
    (hr : (a.uploader.service a.conn a.channels now).Gives r) : (a.settle place r).Sound place := by
  have hstep := Uploader.service_gives hr
  obtain ⟨progress, uploader, conn, channels⟩ := r
  cases hstep with
  | rested hp => exact settle_kept h rfl (fun n => UploadProgress.ne_delivered hp) (Or.inl rfl)
  | idle htaken =>
    rcases Uploader.taken_cases htaken with ⟨hsome, hnone, -⟩ | ⟨hb, hframed⟩
    · rw [hnone] at hsome
      cases hsome
    · exact settle_framed h hb (fun n => UploadProgress.ne_delivered rfl)
        (congrArg Prod.snd hframed).symm (Or.inl rfl)
  | carried attempts htaken hp =>
    have hne (n : Nat) := UploadProgress.ne_delivered (n := n) hp
    rcases Uploader.taken_cases htaken with ⟨-, hb, hkept⟩ | ⟨hb, hframed⟩
    · exact settle_kept h hkept hne (Or.inr (Or.inr ⟨_, attempts, hb, rfl⟩))
    · exact settle_framed h hb hne (congrArg Prod.snd hframed).symm
        (Or.inr ⟨_, attempts, congrArg Prod.fst hframed, rfl⟩)
  | givenUp hb hp =>
    exact settle_kept h rfl (fun n => UploadProgress.ne_delivered hp) (Or.inr (Or.inl rfl))
  | refused hb hs hcode =>
    refine settle_kept h rfl (fun n hn => hcode ?_) (Or.inr (Or.inl rfl))
    exact Uploader.verdict_delivered.1 ⟨n, hn⟩
  | delivered hb hs hcode => exact settle_delivered h hb rfl rfl rfl

theorem Step.sound (hstep : Step place a a') (h : a.Sound place) : a'.Sound place := by
  cases hstep with
  | push i s _ => exact push_sound h i s
  | event source kind now hr => exact h
  | service now hr => exact settle_sound h hr

theorem Reached.sound (h : Reached place a) : a.Sound place := by
  induction h with
  | start hfresh hplace => exact hfresh.sound hplace
  | step _ hstep ih => exact hstep.sound ih

/-! ## Deliveries are final -/

theorem carried_undelivered {k : Nat} (h : a.Sound place) (hk : k ∈ a.carried place) :
    k ∉ a.ledger.delivered := by
  obtain ⟨c, -, -, hf⟩ := h
  simp only [carried] at hk
  split at hk
  next b hb =>
    split at hk
    next hplace =>
      intro hdelivered
      have hcovers := hf.out b hb hplace
      have hbefore := hcovers.undelivered k hdelivered
      have hafter := le_of_mem_carried hk
      omega
    next => cases hk
  next => cases hk

/-- The places of a delivered batch are recorded. -/
theorem settle_delivers {r : Uploader.Serviced} {k n : Nat} (hp : r.progress = .delivered n)
    (hk : k ∈ a.carried place) : k ∈ (a.settle place r).ledger.delivered := by
  simp only [carried] at hk
  split at hk
  next b hb =>
    split at hk
    next hplace =>
      simp only [Account.settle, Ledger.settle, Ledger.remove, hp, hb, hplace, if_true, deliver]
      exact List.mem_append_right _ hk
    next => cases hk
  next => cases hk

theorem settle_delivered_mono {r : Uploader.Serviced} {k : Nat} (hk : k ∈ a.ledger.delivered) :
    k ∈ (a.settle place r).ledger.delivered := by
  simp only [Account.settle, Ledger.settle, Ledger.remove]
  split
  · split
    · split
      · exact List.mem_append_left _ hk
      · exact hk
    · exact hk
  · exact hk

theorem Step.delivered_mono {k : Nat} (h : Step place a a') (hk : k ∈ a.ledger.delivered) :
    k ∈ a'.ledger.delivered := by
  cases h with
  | push i s _ =>
    simp only [Account.push]
    split
    · unfold Ledger.push
      split <;> exact hk
    · exact hk
  | event source kind now _ => exact hk
  | service now _ => exact settle_delivered_mono hk

theorem Later.delivered_mono {k : Nat} (h : Later place a a') (hk : k ∈ a.ledger.delivered) :
    k ∈ a'.ledger.delivered := by
  induction h with
  | refl => exact hk
  | step _ hstep ih => exact hstep.delivered_mono ih

/-! ## Conservation -/

/-- What has left the buffer in a step was covered by the batch. -/
def Covered (a : Account) (place : Nat) (b : Batch) (after : List Sample) : Prop :=
  ∀ k, a.ledger.first (bufferOf a.channels place) ≤ k → k < a.ledger.first after →
    b.channel = place ∧ a.ledger.framedAt ≤ k ∧ k < a.ledger.framedAt + b.covered

theorem covered_iff {r : Uploader.Serviced} {n : Nat} {now : Instant} (h : a.Sound place)
    (hr : (a.uploader.service a.conn a.channels now).Gives r) (hp : r.progress = .delivered n) :
    ∃ b, a.uploader.batch = some b ∧
      (a.Covered place b (bufferOf r.channels place) ↔ a.ledger.evicted = 0) := by
  obtain ⟨c, hc, hl, hf⟩ := h
  obtain ⟨b, hb, -, -, -, hchannels⟩ := Uploader.service_delivered hr hp
  refine ⟨b, hb, ?_⟩
  rw [Covered, bufferOf_eq hc, hchannels]
  have hbound := hl.bound
  by_cases hplace : b.channel = place
  · have hcovers := hf.out b hb hplace
    have hstart := hcovers.start
    have hpositive := hcovers.positive
    have henough := hcovers.enough
    have hafter : a.ledger.first (bufferOf (Uploader.acknowledgeBatch b a.channels) place) =
        a.ledger.first c.pending + b.covered := by
      have hget : (Uploader.acknowledgeBatch b a.channels)[place]? =
          some (c.acknowledge b.covered) := by
        simp [Uploader.acknowledgeBatch, hplace, hc]
      rw [bufferOf_eq hget]
      simp only [first, MeterChannel.acknowledge, List.length_drop]
      omega
    rw [hafter]
    constructor
    · intro hcovered
      have hlast := hcovered (a.ledger.first c.pending + b.covered - 1) (by omega) (by omega)
      omega
    · intro hevicted k hk hk'
      exact ⟨hplace, by omega, by omega⟩
  · have hget : (Uploader.acknowledgeBatch b a.channels)[place]? = some c := by
      simp [Uploader.acknowledgeBatch, hplace, hc]
    rw [bufferOf_eq hget]
    refine iff_of_true (fun k hk hk' => absurd hk' (by omega)) (hf.rest fun d hd => ?_)
    rw [hb] at hd
    cases hd
    exact hplace

theorem conserved_iff (hl : a.ledger.Balanced c) :
    a.ledger.Conserved c.pending ↔ a.ledger.overruns = 0 := by
  have hbound := hl.bound
  constructor
  · intro hconserved
    refine Classical.byContradiction fun hsome => ?_
    obtain ⟨k, hk, hleft⟩ := hl.lost hsome
    have hlt : k < a.ledger.pushed.length := Nat.lt_of_lt_of_le hk (Nat.sub_le _ _)
    obtain ⟨fate, hfate, -⟩ := hconserved k hlt
    cases fate with
    | buffered => exact absurd hk (Nat.not_lt.2 hfate)
    | overflowed => exact hleft (Or.inl hfate)
    | skipped => exact hleft (Or.inr (Or.inl hfate))
    | delivered => exact hleft (Or.inr (Or.inr hfate))
  · intro hzero k hk
    rcases Nat.lt_or_ge k (a.ledger.first c.pending) with hlt | hge
    · obtain ⟨hleft, htwice⟩ := hl.placed hzero k hlt
      have hbuffered : ¬ a.ledger.Has c.pending .buffered k := Nat.not_le.2 hlt
      simp only [Twice, not_or, not_and] at htwice
      rcases hleft with ho | hs | hd
      · refine ⟨.overflowed, ho, fun other hother => ?_⟩
        cases other with
        | buffered => exact absurd hother hbuffered
        | overflowed => rfl
        | skipped => exact absurd hother (htwice.1 ho)
        | delivered => exact absurd hother (htwice.2.1 ho)
      · refine ⟨.skipped, hs, fun other hother => ?_⟩
        cases other with
        | buffered => exact absurd hother hbuffered
        | overflowed => exact absurd hs (htwice.1 hother)
        | skipped => rfl
        | delivered => exact absurd hother (htwice.2.2 hs)
      · refine ⟨.delivered, hd, fun other hother => ?_⟩
        cases other with
        | buffered => exact absurd hother hbuffered
        | overflowed => exact absurd hd (htwice.2.1 hother)
        | skipped => exact absurd hd (htwice.2.2 hother)
        | delivered => rfl
    · have hleft : ¬ a.ledger.Left k := fun h => absurd (hl.before k h) (Nat.not_lt.2 hge)
      simp only [Left, not_or] at hleft
      refine ⟨.buffered, hge, fun other hother => ?_⟩
      cases other with
      | buffered => rfl
      | overflowed => exact absurd hother hleft.1
      | skipped => exact absurd hother hleft.2.1
      | delivered => exact absurd hother hleft.2.2

/-- After any run, the buffer is the end of the sequence of pushed samples, the overflows are
counted, and the delivered samples are the tuples of the payloads that were delivered.  Every sample
is in exactly one class if and only if no batch was delivered after its channel had overflowed, and
a delivery removes only samples that its batch covers if and only if its channel has not overflowed
since. -/
theorem Reached.conservation (h : Reached place a) (hc : a.channels[place]? = some c) :
    c.pending = a.ledger.pushed.drop (a.ledger.first c.pending) ∧
    c.dropped = min a.ledger.overflowed.length droppedMax ∧
    a.ledger.delivered.map (a.ledger.pushed[·]?) =
      (a.ledger.batches.flatMap Batch.tuples).map some ∧
    (∀ b ∈ a.ledger.batches, b.payload = Batch.payloadText c.precision b.tuples) ∧
    (a.ledger.Conserved c.pending ↔ a.ledger.overruns = 0) ∧
    ∀ now r n, (a.uploader.service a.conn a.channels now).Gives r → r.progress = .delivered n →
      ∃ b, a.uploader.batch = some b ∧
        (a.Covered place b (bufferOf r.channels place) ↔ a.ledger.evicted = 0) := by
  have hsound := h.sound
  obtain ⟨d, hd, hl, -⟩ := h.sound
  rw [hc] at hd
  cases hd
  refine ⟨hl.window, hl.dropped, hl.samples, hl.payloads, conserved_iff hl, ?_⟩
  intro now r n hr hp
  exact covered_iff hsound hr hp

/-- Three samples are pushed and delivered. -/
theorem conservation_of_three :
    ∃ c, (single.play 0 (pushes 0 3 ++ written ++ accepted)).channels[0]? = some c ∧
      (single.play 0 (pushes 0 3 ++ written ++ accepted)).ledger.delivered = [0, 1, 2] ∧
      (single.play 0 (pushes 0 3 ++ written ++ accepted)).ledger.Conserved c.pending := by
  have hreached := play_reached single_reached (pushes 0 3 ++ written ++ accepted)
  obtain ⟨c, hc, -⟩ := hreached.sound
  obtain ⟨-, -, -, -, hconserved, -⟩ := hreached.conservation hc
  exact ⟨c, hc, by decide +kernel, hconserved.2 (by decide +kernel)⟩

/-- A full channel overflows while its batch is out.  The delivery then removes a sample that was
neither delivered nor dropped. -/
theorem not_conserved_of_overflow :
    Reached 0 (single.play 0 (pushes 0 256 ++ written ++ pushes 256 1 ++ accepted)) ∧
      ¬ (single.play 0 (pushes 0 256 ++ written ++ pushes 256 1 ++ accepted)).ledger.Conserved
        (bufferOf (single.play 0 (pushes 0 256 ++ written ++ pushes 256 1 ++ accepted)).channels
          0) := by
  have hreached := play_reached single_reached
    (pushes 0 256 ++ written ++ pushes 256 1 ++ accepted)
  obtain ⟨c, hc, hl, -⟩ := hreached.sound
  refine ⟨hreached, ?_⟩
  have hoverrun :
      (single.play 0 (pushes 0 256 ++ written ++ pushes 256 1 ++ accepted)).ledger.overruns ≠ 0 := by
    decide +kernel
  rw [bufferOf_eq hc, conserved_iff hl]
  exact hoverrun

end Account

end MeterNode
