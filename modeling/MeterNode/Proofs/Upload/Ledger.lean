import MeterNode.Proofs.Upload.Account

/-!
# The ledger and the channel

`Ledger.Balanced` is what the ledger of a channel has in common with the channel.  The buffer is the
end of the sequence of pushed samples, and the places before it are accounted for: each is in one
class if there were no overruns, and otherwise one of them is in none.

`Ledger.Covers` is what the ledger knows of a batch that is out: where it was framed, and so which
places it covers, however many of them have been evicted since.

A push keeps the balance (`Balanced.push`), and so does a removal from the front of the buffer, when
it is recorded (`Balanced.acknowledge`).  Repeats are removed in framing (`Balanced.framed`) and the
samples of a batch on delivery (`Balanced.deliver`), where the evicted samples make the overrun.
-/

namespace MeterNode

namespace Ledger

variable {l : Ledger} {c : MeterChannel} {u : Uploader} {b : Batch} {place k : Nat}
  {previous : Option Nat}

/-- A place is in one of the classes of samples that have left the buffer. -/
def Left (l : Ledger) (k : Nat) : Prop := k ∈ l.overflowed ∨ k ∈ l.skipped ∨ k ∈ l.delivered

/-- A place is in two classes of samples that have left the buffer. -/
def Twice (l : Ledger) (k : Nat) : Prop :=
  k ∈ l.overflowed ∧ k ∈ l.skipped ∨ k ∈ l.overflowed ∧ k ∈ l.delivered ∨
    k ∈ l.skipped ∧ k ∈ l.delivered

/-- The ledger agrees with the channel.  Without overruns, the samples that have left the buffer are
in one class each; with overruns, one of them is in none. -/
structure Balanced (l : Ledger) (c : MeterChannel) : Prop where
  bound : c.pending.length ≤ l.pushed.length
  size : c.pending.length ≤ channelCapacity
  window : c.pending = l.pushed.drop (l.first c.pending)
  dropped : c.dropped = min l.overflowed.length droppedMax
  samples : l.delivered.map (l.pushed[·]?) = (l.batches.flatMap Batch.tuples).map some
  payloads : ∀ b ∈ l.batches, b.payload = Batch.payloadText c.precision b.tuples
  before : ∀ k, l.Left k → k < l.first c.pending
  placed : l.overruns = 0 → ∀ k < l.first c.pending, l.Left k ∧ ¬ l.Twice k
  lost : l.overruns ≠ 0 → ∃ k < l.first c.pending, ¬ l.Left k

/-- The ledger knows what a batch covers. -/
structure Covers (l : Ledger) (previous : Option Nat) (c : MeterChannel) (b : Batch) : Prop where
  start : l.framedAt + l.evicted = l.first c.pending
  positive : 0 < b.covered
  enough : b.covered ≤ c.pending.length
  tuples : b.tuples = dropRepeats previous ((l.pushed.drop l.framedAt).take b.covered)
  payload : b.payload = Batch.payloadText c.precision b.tuples
  undelivered : ∀ k ∈ l.delivered, k < l.framedAt

/-- The ledger follows the batch of an uploader. -/
structure Follows (l : Ledger) (u : Uploader) (place : Nat) (c : MeterChannel) : Prop where
  out : ∀ b, u.batch = some b → b.channel = place → l.Covers (u.lastSentOf place) c b
  rest : (∀ b, u.batch = some b → b.channel ≠ place) → l.evicted = 0

theorem Twice.left (h : l.Twice k) : l.Left k := by
  rcases h with ⟨h, -⟩ | ⟨h, -⟩ | ⟨h, -⟩
  · exact Or.inl h
  · exact Or.inl h
  · exact Or.inr (Or.inl h)

/-! ## Pushes -/

section Overflow

variable {n e : Nat} {pushed : List Sample}

theorem overflow_left :
    Left { l with pushed, overflowed := l.overflowed ++ [n], evicted := e } k ↔
      l.Left k ∨ k = n := by
  simp only [Left, List.mem_append, List.mem_singleton]
  grind

theorem overflow_twice :
    Twice { l with pushed, overflowed := l.overflowed ++ [n], evicted := e } k ↔
      l.Twice k ∨ k = n ∧ (k ∈ l.skipped ∨ k ∈ l.delivered) := by
  simp only [Twice, List.mem_append, List.mem_singleton]
  grind

end Overflow

/-- A delivered sample stays at its place when another one is pushed. -/
theorem Balanced.samples_push (h : l.Balanced c) (s : Sample) :
    l.delivered.map ((l.pushed ++ [s])[·]?) = (l.batches.flatMap Batch.tuples).map some := by
  rw [← h.samples]
  refine List.map_congr_left fun k hk => List.getElem?_append_left ?_
  have hbefore := h.before k (Or.inr (Or.inr hk))
  exact Nat.lt_of_lt_of_le hbefore (Nat.sub_le _ _)

/-- A push into a buffer with room. -/
theorem Balanced.append (h : l.Balanced c) (hroom : c.pending.length < channelCapacity)
    (s : Sample) :
    Balanced { l with pushed := l.pushed ++ [s] }
      { c with pending := c.pending ++ [s], last := some s } := by
  have hbound := h.bound
  have hfirst : first { l with pushed := l.pushed ++ [s] } (c.pending ++ [s]) =
      l.first c.pending := by
    simp only [first, List.length_append, List.length_cons, List.length_nil]
    omega
  refine ⟨?_, ?_, ?_, h.dropped, h.samples_push s, h.payloads, ?_, ?_, ?_⟩
  all_goals try rw [hfirst]
  · simp only [List.length_append, List.length_cons, List.length_nil]
    omega
  · simp only [List.length_append, List.length_cons, List.length_nil]
    omega
  · have hlength : l.first c.pending ≤ l.pushed.length := Nat.sub_le _ _
    show c.pending ++ [s] = (l.pushed ++ [s]).drop (l.first c.pending)
    rw [List.drop_append_of_le_length hlength, ← h.window]
  · exact h.before
  · exact h.placed
  · exact h.lost

/-- A push into a full buffer. -/
theorem Balanced.overflow (h : l.Balanced c) (hfull : ¬ c.pending.length < channelCapacity)
    (evicted : Nat) (s : Sample) :
    Balanced { l with
        pushed := l.pushed ++ [s]
        overflowed := l.overflowed ++ [l.first c.pending]
        evicted }
      { c with
        pending := c.pending.tail ++ [s]
        last := some s
        dropped := min (c.dropped + 1) droppedMax } := by
  have hbound := h.bound
  have hsize := h.size
  have hcapacity : channelCapacity = 256 := rfl
  have hfirst : first { l with
      pushed := l.pushed ++ [s]
      overflowed := l.overflowed ++ [l.first c.pending]
      evicted } (c.pending.tail ++ [s]) = l.first c.pending + 1 := by
    simp only [first, List.length_append, List.length_cons, List.length_nil, List.length_tail]
    omega
  refine ⟨?_, ?_, ?_, ?_, h.samples_push s, h.payloads, ?_, ?_, ?_⟩
  all_goals try rw [hfirst]
  · simp only [List.length_append, List.length_cons, List.length_nil, List.length_tail]
    omega
  · simp only [List.length_append, List.length_cons, List.length_nil, List.length_tail]
    omega
  · have hlt : l.first c.pending + 1 ≤ l.pushed.length := by
      simp only [first]
      omega
    show c.pending.tail ++ [s] = (l.pushed ++ [s]).drop (l.first c.pending + 1)
    rw [List.drop_append_of_le_length hlt, ← List.tail_drop, ← h.window]
  · show min (c.dropped + 1) droppedMax = _
    rw [h.dropped, List.length_append, List.length_singleton]
    omega
  · intro k hk
    rcases overflow_left.1 hk with hk | rfl
    · exact Nat.lt_succ_of_lt (h.before k hk)
    · exact Nat.lt_succ_self _
  · intro hzero k hk
    rw [overflow_left]
    rcases Nat.lt_succ_iff_lt_or_eq.1 hk with hk | rfl
    · obtain ⟨hleft, htwice⟩ := h.placed hzero k hk
      refine ⟨Or.inl hleft, fun h' => ?_⟩
      rcases overflow_twice.1 h' with h' | ⟨rfl, -⟩
      · exact htwice h'
      · exact Nat.lt_irrefl _ hk
    · refine ⟨Or.inr rfl, fun h' => ?_⟩
      have hout : ¬ l.Left (l.first c.pending) := fun hl => Nat.lt_irrefl _ (h.before _ hl)
      rcases overflow_twice.1 h' with h' | ⟨-, h'⟩
      · exact hout h'.left
      · exact hout (Or.inr h')
  · intro hsome
    obtain ⟨k, hk, hleft⟩ := h.lost hsome
    refine ⟨k, Nat.lt_succ_of_lt hk, fun h' => ?_⟩
    rcases overflow_left.1 h' with h' | rfl
    · exact hleft h'
    · exact Nat.lt_irrefl _ hk

theorem Balanced.push (h : l.Balanced c) (out : Bool) (s : Sample) :
    (l.push c.pending out s).Balanced (c.push s) := by
  by_cases hroom : c.pending.length < channelCapacity
  · simp only [Ledger.push, MeterChannel.push, if_pos hroom]
    exact h.append hroom s
  · simp only [Ledger.push, MeterChannel.push, if_neg hroom]
    exact h.overflow hroom _ s

/-! ## Removals -/

section Removal

variable {n overruns : Nat} {carried skipped : List Nat} {batches : List Batch}

/-- Removing the oldest samples keeps the ledger balanced, provided that it records the removed
places once each, or else an overrun and a place that is lost. -/
theorem Balanced.acknowledge (h : l.Balanced c) (hn : n ≤ c.pending.length)
    (hbelow : ∀ k, k ∈ carried ∨ k ∈ skipped → k < l.first c.pending + n)
    (hexact : overruns = 0 → l.overruns = 0 ∧ ∀ k,
      (k ∈ carried ∨ k ∈ skipped ↔ l.first c.pending ≤ k ∧ k < l.first c.pending + n) ∧
        ¬ (k ∈ carried ∧ k ∈ skipped))
    (hlost : overruns ≠ 0 →
      ∃ k < l.first c.pending + n, ¬ l.Left k ∧ k ∉ carried ∧ k ∉ skipped)
    (hsamples : carried.map (l.pushed[·]?) = (batches.flatMap Batch.tuples).map some)
    (hpayloads : ∀ b ∈ batches, b.payload = Batch.payloadText c.precision b.tuples) :
    Balanced { l with
      delivered := l.delivered ++ carried
      skipped := l.skipped ++ skipped
      batches := l.batches ++ batches
      overruns } (c.acknowledge n) := by
  have hbound := h.bound
  have hsize := h.size
  have hleft (k : Nat) : Left { l with
      delivered := l.delivered ++ carried
      skipped := l.skipped ++ skipped
      batches := l.batches ++ batches
      overruns } k ↔ l.Left k ∨ k ∈ carried ∨ k ∈ skipped := by
    simp only [Left, List.mem_append]
    grind
  have hfirst : first { l with
      delivered := l.delivered ++ carried
      skipped := l.skipped ++ skipped
      batches := l.batches ++ batches
      overruns } (c.acknowledge n).pending = l.first c.pending + n := by
    simp only [first, MeterChannel.acknowledge, List.length_drop]
    omega
  refine ⟨?_, ?_, ?_, h.dropped, ?_, ?_, ?_, ?_, ?_⟩
  all_goals try rw [hfirst]
  · simp only [MeterChannel.acknowledge, List.length_drop]
    omega
  · simp only [MeterChannel.acknowledge, List.length_drop]
    omega
  · simp only [MeterChannel.acknowledge]
    rw [← List.drop_drop, ← h.window]
  · rw [List.map_append, List.flatMap_append, List.map_append, h.samples, hsamples]
  · intro b hb
    rcases List.mem_append.1 hb with hb | hb
    · exact h.payloads b hb
    · exact hpayloads b hb
  · intro k hk
    rcases (hleft k).1 hk with hk | hk
    · exact Nat.lt_add_right n (h.before k hk)
    · exact hbelow k hk
  · intro hzero k hk
    obtain ⟨hl, hexact⟩ := hexact hzero
    obtain ⟨hin, hapart⟩ := hexact k
    rw [hleft]
    rcases Nat.lt_or_ge k (l.first c.pending) with hlt | hge
    · obtain ⟨hleft, htwice⟩ := h.placed hl k hlt
      refine ⟨Or.inl hleft, fun h' => ?_⟩
      have hout : ¬ (k ∈ carried ∨ k ∈ skipped) := fun hc => absurd (hin.1 hc).1 (by omega)
      refine htwice ?_
      simp only [Twice, List.mem_append] at h' ⊢
      grind
    · have hnew := hin.2 ⟨hge, hk⟩
      refine ⟨Or.inr hnew, fun h' => ?_⟩
      have hout : ¬ l.Left k := fun hl => absurd (h.before k hl) (by omega)
      simp only [Left, not_or] at hout
      simp only [Twice, List.mem_append] at h'
      grind
  · intro hsome
    obtain ⟨k, hk, hl, hc, hs⟩ := hlost hsome
    refine ⟨k, hk, fun h' => ?_⟩
    rcases (hleft k).1 h' with h' | h' | h'
    · exact hl h'
    · exact hc h'
    · exact hs h'

/-- A removal of repeats is recorded. -/
theorem Balanced.skip (h : l.Balanced c) (hn : n ≤ c.pending.length)
    (hrepeats : dropRepeats previous (c.pending.take n) = []) :
    (l.skip previous c.pending n).Balanced (c.acknowledge n) := by
  have hremoved : (l.pushed.drop (l.first c.pending)).take n = c.pending.take n := by
    rw [← h.window]
  have hcarried := sortPlaces_repeats (k := l.first c.pending) hrepeats
  have hplaces (k : Nat) : k ∈ (sortPlaces previous (l.first c.pending) (c.pending.take n)).2 ↔
      l.first c.pending ≤ k ∧ k < l.first c.pending + n := by
    have := mem_sortPlaces (n := k) previous (l.first c.pending) (c.pending.take n)
    rw [hcarried, List.length_take, Nat.min_eq_left hn] at this
    simpa using this
  have hbalanced : Balanced { l with
      delivered := l.delivered ++ []
      skipped := l.skipped ++ (sortPlaces previous (l.first c.pending) (c.pending.take n)).2
      batches := l.batches ++ []
      overruns := l.overruns } (c.acknowledge n) := h.acknowledge hn
    (fun k hk => ((hplaces k).1 (by simpa using hk)).2)
    (fun hzero => ⟨hzero, fun k => ⟨by simpa using hplaces k, by simp⟩⟩)
    (fun hsome => by
      obtain ⟨k, hk, hleft⟩ := h.lost hsome
      refine ⟨k, Nat.lt_add_right n hk, hleft, by simp, fun hk' => ?_⟩
      exact absurd ((hplaces k).1 hk').1 (by omega))
    rfl (by simp)
  simpa only [Ledger.skip, hremoved, List.append_nil] using hbalanced

/-- A delivery is recorded: exactly, or with an overrun. -/
theorem Balanced.deliver (h : l.Balanced c) (hb : l.Covers previous c b) :
    (l.deliver previous b).Balanced (c.acknowledge b.covered) := by
  have hbound := h.bound
  have hstart := hb.start
  have henough := hb.enough
  have hpositive := hb.positive
  have hfirst : l.first c.pending + c.pending.length = l.pushed.length := by
    simp only [first]
    omega
  have hcovered : ((l.pushed.drop l.framedAt).take b.covered).length = b.covered := by
    rw [List.length_take, List.length_drop]
    omega
  have hplaces (k : Nat) := mem_sortPlaces (n := k) previous l.framedAt
    ((l.pushed.drop l.framedAt).take b.covered)
  simp only [hcovered] at hplaces
  refine h.acknowledge henough ?_ ?_ ?_ ?_ ?_
  · intro k hk
    have := (hplaces k).1 hk
    omega
  · intro hzero
    split at hzero
    next hevicted =>
      refine ⟨hzero, fun k => ⟨?_, fun ⟨hc, hs⟩ => not_mem_skipped hc hs⟩⟩
      rw [hplaces]
      omega
    next => exact absurd hzero (Nat.succ_ne_zero _)
  · intro hsome
    have hout (k : Nat) (hk : k < l.framedAt ∨ l.framedAt + b.covered ≤ k) :
        k ∉ (sortPlaces previous l.framedAt ((l.pushed.drop l.framedAt).take b.covered)).1 ∧
        k ∉ (sortPlaces previous l.framedAt ((l.pushed.drop l.framedAt).take b.covered)).2 := by
      rw [← not_or, hplaces]
      omega
    split at hsome
    next hevicted =>
      obtain ⟨k, hk, hleft⟩ := h.lost hsome
      exact ⟨k, Nat.lt_add_right _ hk, hleft, hout k (by omega)⟩
    next hevicted =>
      -- The last sample removed was not covered.
      refine ⟨l.first c.pending + b.covered - 1, by omega, fun hleft => ?_, hout _ (by omega)⟩
      have := h.before _ hleft
      omega
  · rw [sortPlaces_carried, ← hb.tuples]
    · simp
    · rw [hcovered, ← List.drop_drop, List.take_append_drop]
  · intro d hd
    rw [List.mem_singleton.1 hd]
    exact hb.payload

end Removal

/-! ## The batch that is out -/

theorem Covers.push (h : l.Covers previous c b) (hl : l.Balanced c) (s : Sample) :
    (l.push c.pending true s).Covers previous (c.push s) b := by
  have hbound := hl.bound
  have hstart := h.start
  have henough := h.enough
  have hfirst : l.first c.pending + c.pending.length = l.pushed.length := by
    simp only [first]
    omega
  have htuples : ((l.pushed ++ [s]).drop l.framedAt).take b.covered =
      (l.pushed.drop l.framedAt).take b.covered := by
    rw [List.drop_append_of_le_length (by omega), List.take_append_of_le_length]
    rw [List.length_drop]
    omega
  by_cases hroom : c.pending.length < channelCapacity
  · simp only [Ledger.push, MeterChannel.push, if_pos hroom]
    refine ⟨?_, h.positive, ?_, ?_, h.payload, h.undelivered⟩
    · simp only [first, List.length_append, List.length_singleton]
      omega
    · simp only [List.length_append, List.length_singleton]
      omega
    · rw [htuples]
      exact h.tuples
  · have hcapacity : channelCapacity = 256 := rfl
    simp only [Ledger.push, MeterChannel.push, if_neg hroom]
    refine ⟨?_, h.positive, ?_, ?_, h.payload, h.undelivered⟩
    · simp only [first, List.length_append, List.length_singleton, List.length_tail, if_true]
      omega
    · simp only [List.length_append, List.length_singleton, List.length_tail]
      omega
    · rw [htuples]
      exact h.tuples

theorem push_evicted (hout : l.evicted = 0) (s : Sample) :
    (l.push c.pending false s).evicted = 0 := by
  simp only [Ledger.push]
  split
  · exact hout
  · exact hout

theorem Follows.push (h : l.Follows u place c) (hl : l.Balanced c) (s : Sample) :
    (l.push c.pending (u.batch.any (·.channel = place)) s).Follows u place (c.push s) := by
  constructor
  · intro b hb hplace
    have hany : u.batch.any (·.channel = place) = true := by simp [hb, hplace]
    rw [hany]
    exact (h.out b hb hplace).push hl s
  · intro hne
    have hany : u.batch.any (·.channel = place) = false := by
      cases hb : u.batch with
      | none => rfl
      | some b => simp [hne b hb]
    rw [hany]
    exact push_evicted (h.rest hne) s

theorem follows_none (hb : u.batch = none) (hevicted : l.evicted = 0) : l.Follows u place c := by
  constructor
  · intro b hsome
    rw [hb] at hsome
    cases hsome
  · intro _
    exact hevicted

theorem Follows.carried (h : l.Follows u place c) (hb : u.batch = some b) (attempts : Nat) :
    l.Follows { u with batch := some { b with attempts } } place c := by
  constructor
  · intro d hd hplace
    cases hd
    have hcovers := h.out b hb hplace
    exact ⟨hcovers.start, hcovers.positive, hcovers.enough, hcovers.tuples, hcovers.payload,
      hcovers.undelivered⟩
  · intro hne
    refine h.rest fun d hd => ?_
    rw [hb] at hd
    cases hd
    exact hne { b with attempts } rfl

/-- A batch that is framed covers the oldest samples. -/
theorem covers_batchOf {now : Instant} (hl : l.Balanced c) (hfirst : l.framedAt = l.first c.pending)
    (hevicted : l.evicted = 0) (hne : (u.batchOf now place c).tuples ≠ []) :
    l.Covers (u.lastSentOf place) c (u.batchOf now place c) := by
  have hcovered : c.pending.take (c.pending.take batchMax).length = c.pending.take batchMax := by
    rw [List.length_take, ← List.take_take, List.take_length]
  refine ⟨by omega, ?_, ?_, ?_, rfl, ?_⟩
  · refine List.length_pos_iff.2 fun hnil => hne ?_
    simp only [Uploader.batchOf, hnil, dropRepeats]
  · exact List.length_take_le' _ _
  · rw [hfirst, ← hl.window]
    simp only [Uploader.batchOf, hcovered]
  · intro k hk
    rw [hfirst]
    exact hl.before k (Or.inr (Or.inr hk))

/-! ## Steps -/

section Steps

variable {before after : List Sample} {p : UploadProgress}

/-- Where a batch begins and how much of it was evicted does not matter to the balance. -/
theorem Balanced.reframe (h : l.Balanced c) (framedAt evicted : Nat) :
    Balanced { l with framedAt, evicted } c :=
  ⟨h.bound, h.size, h.window, h.dropped, h.samples, h.payloads, h.before, h.placed, h.lost⟩

theorem skip_zero : l.skip previous before 0 = l := by
  simp [skip, sortPlaces]

theorem remove_of_ne (h : ∀ n, p ≠ .delivered n) :
    l.remove place u before after p =
      l.skip (u.lastSentOf place) before (before.length - after.length) := by
  cases p with
  | delivered n => exact absurd rfl (h n)
  | idle | inFlight | failed => rfl

/-- A step that leaves the channel alone and delivers nothing removes nothing. -/
theorem remove_same (h : ∀ n, p ≠ .delivered n) : l.remove place u before before p = l := by
  rw [remove_of_ne h, Nat.sub_self, skip_zero]

/-- Framing records the repeats that it removes, and keeps the samples of the batch. -/
theorem Balanced.framed (h : l.Balanced c) (u : Uploader) (now : Instant)
    {channels : List MeterChannel} (hc : channels[place]? = some c) :
    ∃ c', (u.framed now 0 channels).2[place]? = some c' ∧
      (l.skip (u.lastSentOf place) c.pending (c.pending.length - c'.pending.length)).Balanced c' ∧
      ∀ b, (u.framed now 0 channels).1 = some b → b.channel = place →
        c' = c ∧ b = u.batchOf now place c ∧ b.tuples ≠ [] := by
  have hframed := Uploader.framed_of_get u now 0 hc
  rw [Nat.zero_add] at hframed
  rcases hframed with hkept | ⟨hgone, htuples, hother⟩
  · refine ⟨c, hkept, ?_, fun b hb hplace => ?_⟩
    · rw [Nat.sub_self, skip_zero]
      exact h
    · obtain ⟨j, d, hj, hbatch, hne, -⟩ := Uploader.framed_batch hb
      rw [Nat.zero_add] at hbatch
      have hchannel : b.channel = j := congrArg Batch.channel hbatch
      rw [hplace] at hchannel
      subst hchannel
      rw [hc] at hj
      cases hj
      exact ⟨rfl, hbatch, hne⟩
  · have hcovered : (u.batchOf now place c).covered ≤ c.pending.length :=
      List.length_take_le' _ _
    have hlength : c.pending.length - (c.acknowledge (u.batchOf now place c).covered).pending.length
        = (u.batchOf now place c).covered := by
      simp only [MeterChannel.acknowledge, List.length_drop]
      omega
    refine ⟨_, hgone, ?_, fun b hb hplace => absurd hplace (hother b hb)⟩
    rw [hlength]
    refine h.skip hcovered ?_
    have htake : c.pending.take (u.batchOf now place c).covered = c.pending.take batchMax := by
      simp only [Uploader.batchOf, List.length_take, ← List.take_take, List.take_length]
    rw [htake]
    exact htuples

end Steps

end Ledger

end MeterNode
