import MeterNode.Proofs.Trace
import MeterNode.Upload.Uploader

/-!
# What framing takes

Framing goes through the channels in order.  A channel whose oldest samples all repeat a delivered
timestamp loses them; the first channel that has something to deliver makes the batch and keeps its
samples.

*Places.*  The samples pushed to a channel are numbered in the order they came.  `sortPlaces`
divides the places of some samples into those that a batch carries and those that it skips as
repeats, and `dropRepeats` reads off the former (`sortPlaces_carried`).

*Closed form.*  The log lines of `Uploader.frame` aside, it is the function `Uploader.framed`
(`frame_gives`).  `framed_of_get` says what becomes of one channel, `framed_batch` where the batch
comes from.
-/

namespace MeterNode

/-! ## Places -/

/-- The places of samples that a batch carries, and of those that it skips as repeats, if the first
sample is at the place `k` and the sample kept before it has the timestamp `previous`. -/
def sortPlaces : Option Nat → Nat → List Sample → List Nat × List Nat
  | _, _, [] => ([], [])
  | previous, k, s :: rest =>
      if previous = some s.ts then
        let (carried, skipped) := sortPlaces previous (k + 1) rest
        (carried, k :: skipped)
      else
        let (carried, skipped) := sortPlaces (some s.ts) (k + 1) rest
        (k :: carried, skipped)

section Places

variable {previous : Option Nat} {k n : Nat} {samples pushed : List Sample}

/-- Every place is carried or skipped. -/
theorem mem_sortPlaces (previous : Option Nat) (k : Nat) (samples : List Sample) :
    n ∈ (sortPlaces previous k samples).1 ∨ n ∈ (sortPlaces previous k samples).2 ↔
      k ≤ n ∧ n < k + samples.length := by
  induction samples generalizing previous k with
  | nil =>
    simp only [sortPlaces, List.not_mem_nil, or_self, List.length_nil, false_iff]
    omega
  | cons s rest ih =>
    simp only [sortPlaces, List.length_cons]
    split
    · rw [List.mem_cons, or_left_comm, ih]
      omega
    · rw [List.mem_cons, or_assoc, ih]
      omega

theorem le_of_mem_carried (h : n ∈ (sortPlaces previous k samples).1) :
    k ≤ n ∧ n < k + samples.length :=
  (mem_sortPlaces _ _ _).1 (Or.inl h)

theorem le_of_mem_skipped (h : n ∈ (sortPlaces previous k samples).2) :
    k ≤ n ∧ n < k + samples.length :=
  (mem_sortPlaces _ _ _).1 (Or.inr h)

/-- No place is both carried and skipped. -/
theorem not_mem_skipped (h : n ∈ (sortPlaces previous k samples).1) :
    n ∉ (sortPlaces previous k samples).2 := by
  induction samples generalizing previous k with
  | nil => simp [sortPlaces] at h
  | cons s rest ih =>
    simp only [sortPlaces] at h ⊢
    split at h
    next hs =>
      have hk := le_of_mem_carried h
      simp only [if_pos hs, List.mem_cons, not_or]
      exact ⟨by omega, ih h⟩
    next hs =>
      simp only [if_neg hs]
      rcases List.mem_cons.1 h with rfl | h
      · intro hn
        have := le_of_mem_skipped hn
        omega
      · exact ih h

/-- The samples at the carried places are those that `dropRepeats` keeps. -/
theorem sortPlaces_carried (h : pushed.drop k = samples ++ pushed.drop (k + samples.length)) :
    (sortPlaces previous k samples).1.map (pushed[·]?) =
      (dropRepeats previous samples).map some := by
  induction samples generalizing previous k with
  | nil => rfl
  | cons s rest ih =>
    have hs : pushed[k]? = some s := by
      have := congrArg (·[0]?) h
      simpa using this
    have hrest : pushed.drop (k + 1) = rest ++ pushed.drop (k + 1 + rest.length) := by
      have := congrArg List.tail h
      rw [List.tail_drop, List.cons_append, List.tail_cons, List.length_cons] at this
      rw [this, Nat.add_assoc, Nat.add_comm 1]
    simp only [sortPlaces, dropRepeats]
    split
    · exact ih hrest
    · simp only [List.map_cons, hs, ih hrest]

/-- Where everything repeats, everything is skipped. -/
theorem sortPlaces_repeats (h : dropRepeats previous samples = []) :
    (sortPlaces previous k samples).1 = [] := by
  induction samples generalizing previous k with
  | nil => rfl
  | cons s rest ih =>
    simp only [dropRepeats, sortPlaces] at h ⊢
    split at h
    next hs => simp only [if_pos hs, ih h]
    next => simp at h

end Places

/-! ## Closed form -/

namespace Uploader

variable {u : Uploader} {now : Instant} {i j : Nat} {channels rest : List MeterChannel}
  {c : MeterChannel} {b : Batch}

/-- A batch from the first channel that has something to deliver, and the channels without the
samples skipped on the way to it. -/
def framed (u : Uploader) (now : Instant) : Nat → List MeterChannel →
    Option Batch × List MeterChannel
  | _, [] => (none, [])
  | i, c :: rest =>
      let batch := u.batchOf now i c
      if batch.tuples.isEmpty then
        let (found, rest) := u.framed now (i + 1) rest
        (found, c.acknowledge batch.covered :: rest)
      else (some batch, c :: rest)

theorem batchOf_of_isEmpty (u : Uploader) (now : Instant) (i : Nat) (h : c.isEmpty) :
    (u.batchOf now i c).tuples = [] ∧ (u.batchOf now i c).covered = 0 := by
  have : c.pending = [] := List.isEmpty_iff.1 h
  simp [batchOf, this, dropRepeats]

theorem frame_gives {r : Option Batch × List MeterChannel}
    (h : Prog.Gives (u.frame now i channels) r) : r = u.framed now i channels := by
  induction channels generalizing i r with
  | nil =>
    simp only [frame, Act.gives_pure] at h
    exact h
  | cons c rest ih =>
    simp only [frame, framed] at h ⊢
    split at h
    next hc =>
      simp only [Act.gives_bind, Act.gives_pure] at h
      obtain ⟨d, hd, rfl⟩ := h
      obtain ⟨ht, hn⟩ := batchOf_of_isEmpty u now i hc
      simp only [ht, hn, List.isEmpty_nil, if_true, ← ih hd]
      rfl
    next hc =>
      split at h
      next ht =>
        simp only [Act.gives_bind, Act.gives_log, Act.gives_pure, true_and, exists_const] at h
        obtain ⟨d, hd, rfl⟩ := h
        simp only [ht, if_true, ← ih hd]
      next ht =>
        simp only [Act.gives_bind, Act.gives_log, Act.gives_pure, true_and, exists_const] at h
        simp only [ht, h]
        rfl

theorem le_channel (h : (u.framed now i channels).1 = some b) : i ≤ b.channel := by
  induction channels generalizing i with
  | nil => simp [framed] at h
  | cons d rest ih =>
    simp only [framed] at h
    split at h
    · exact Nat.le_of_succ_le (ih h)
    · cases h
      exact Nat.le_refl i

/-- A channel either keeps its samples, or loses those that a batch of it would only skip; the
channel of the batch keeps them. -/
theorem framed_of_get (u : Uploader) (now : Instant) (i : Nat) (h : channels[j]? = some c) :
    (u.framed now i channels).2[j]? = some c ∨
    (u.framed now i channels).2[j]? = some (c.acknowledge (u.batchOf now (i + j) c).covered) ∧
      (u.batchOf now (i + j) c).tuples = [] ∧
      ∀ b, (u.framed now i channels).1 = some b → b.channel ≠ i + j := by
  induction channels generalizing i j with
  | nil => simp at h
  | cons d rest ih =>
    simp only [framed]
    split
    next ht =>
      cases j with
      | zero =>
        cases h
        refine Or.inr ⟨rfl, List.isEmpty_iff.1 ht, fun b hb => ?_⟩
        have := le_channel hb
        omega
      | succ j =>
        have := ih (i + 1) h
        rw [Nat.add_right_comm, Nat.add_assoc] at this
        exact this
    next ht => exact Or.inl h

/-- A batch is made of the oldest samples of its channel, and carries some of them. -/
theorem framed_batch (h : (u.framed now i channels).1 = some b) :
    ∃ j c, channels[j]? = some c ∧ b = u.batchOf now (i + j) c ∧ b.tuples ≠ [] ∧
      (u.framed now i channels).2[j]? = some c := by
  induction channels generalizing i with
  | nil => simp [framed] at h
  | cons d rest ih =>
    simp only [framed] at h ⊢
    split at h
    next ht =>
      obtain ⟨j, c, hj, hb, hne, hr⟩ := ih h
      refine ⟨j + 1, c, hj, ?_, hne, ?_⟩
      · rw [hb, Nat.add_right_comm, Nat.add_assoc]
      · rw [if_pos ht]
        exact hr
    next ht =>
      cases h
      refine ⟨0, d, rfl, rfl, ?_, ?_⟩
      · intro hn
        simp [hn] at ht
      · rw [if_neg ht]
        rfl

end Uploader

end MeterNode
