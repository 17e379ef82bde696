import MeterNode.Sample.Channel

/-!
# What a channel receives

`MeterChannel.Pushed` says what some samples do to a channel.  They stand behind the buffered ones,
in their order, and the oldest samples make room for those that do not fit.  Pushing samples one by
one comes to this (`foldl_push_pushed`), and to nothing else (`Pushed.eq_foldl`).

A channel takes the readings of its metric, and a channel without a metric takes all
(`MeterChannel.samplesOf`).  Readings that are offered to it one by one are pushed as far as it
takes them (`foldl_take`).
-/

namespace MeterNode.MeterChannel

variable {c c' : MeterChannel} {s : Sample} {ss : List Sample}

/-- The samples that make room, if there are some new ones. -/
def overflow (c : MeterChannel) (new : Nat) : Nat := new - (channelCapacity - c.pending.length)

/-- What comes of a channel when some samples are pushed. -/
structure Pushed (ss : List Sample) (c c' : MeterChannel) : Prop where
  uuid_eq : c'.uuid = c.uuid
  identifier_eq : c'.identifier = c.identifier
  precision_eq : c'.precision = c.precision
  /-- The new samples stand behind those that are left of the old ones. -/
  pending_eq : c'.pending = (c.pending ++ ss).drop (c.overflow ss.length)
  /-- The last sample is the last new one. -/
  last_eq : c'.last = ss.getLast?.or c.last
  /-- The samples that made room are counted. -/
  dropped_eq : c'.dropped =
    if c.overflow ss.length = 0 then c.dropped
    else min (c.dropped + c.overflow ss.length) droppedMax

theorem Pushed.nil : Pushed [] c c where
  uuid_eq := rfl
  identifier_eq := rfl
  precision_eq := rfl
  pending_eq := by simp [overflow]
  last_eq := rfl
  dropped_eq := by simp [overflow]

/-- One more sample ahead of some others. -/
theorem Pushed.cons (h : Pushed ss (c.push s) c') : Pushed (s :: ss) c c' := by
  obtain ⟨huuid, hidentifier, hprecision, hpending, hlast, hdropped⟩ := h
  have hlast : c'.last = (s :: ss).getLast?.or c.last := by
    have hpushed : (c.push s).last = some s := by
      unfold push
      split <;> rfl
    rw [hlast, hpushed, List.getLast?_cons]
    cases ss.getLast? <;> rfl
  by_cases hroom : c.pending.length < channelCapacity
  · have hpush : c.push s = { c with pending := c.pending ++ [s], last := some s } := if_pos hroom
    have hoverflow : (c.push s).overflow ss.length = c.overflow (s :: ss).length := by
      simp only [overflow, hpush, List.length_append, List.length_cons, List.length_nil]
      omega
    rw [hoverflow] at hpending hdropped
    rw [hpush] at huuid hidentifier hprecision hpending hdropped
    exact ⟨huuid, hidentifier, hprecision, by simpa using hpending, hlast, hdropped⟩
  · have hpush : c.push s = { c with
        pending := c.pending.tail ++ [s]
        last := some s
        dropped := min (c.dropped + 1) droppedMax } := if_neg hroom
    have hpositive : 0 < channelCapacity := by decide
    obtain ⟨oldest, rest, hc⟩ : ∃ oldest rest, c.pending = oldest :: rest :=
      List.exists_cons_of_length_pos (by omega)
    have hnew : c.overflow (s :: ss).length = ss.length + 1 := by
      simp only [overflow, List.length_cons]
      omega
    have hoverflow : (c.push s).overflow ss.length = ss.length := by
      simp only [overflow, hpush, hc, List.tail_cons, List.length_append,
        List.length_cons] at hroom ⊢
      omega
    rw [hoverflow] at hpending hdropped
    rw [hpush] at huuid hidentifier hprecision hpending hdropped
    refine ⟨huuid, hidentifier, hprecision, ?_, hlast, ?_⟩
    · rw [hpending, hnew, hc]
      simp
    · rw [hdropped, hnew, if_neg (Nat.succ_ne_zero _)]
      simp only
      generalize droppedMax = limit
      split <;> omega

/-- Samples that are pushed one by one. -/
theorem foldl_push_pushed (c : MeterChannel) (ss : List Sample) :
    Pushed ss c (ss.foldl push c) := by
  induction ss generalizing c with
  | nil => exact .nil
  | cons s ss ih => exact (ih (c.push s)).cons

theorem Pushed.unique {c'' : MeterChannel} (h : Pushed ss c c') (h' : Pushed ss c c'') :
    c' = c'' := by
  obtain ⟨huuid, hidentifier, hprecision, hpending, hlast, hdropped⟩ := h
  obtain ⟨huuid', hidentifier', hprecision', hpending', hlast', hdropped'⟩ := h'
  rw [← huuid'] at huuid
  rw [← hidentifier'] at hidentifier
  rw [← hprecision'] at hprecision
  rw [← hpending'] at hpending
  rw [← hlast'] at hlast
  rw [← hdropped'] at hdropped
  cases c'
  cases c''
  simp only at huuid hidentifier hprecision hpending hlast hdropped
  rw [huuid, hidentifier, hprecision, hpending, hlast, hdropped]

theorem Pushed.eq_foldl (h : Pushed ss c c') : c' = ss.foldl push c :=
  h.unique (foldl_push_pushed c ss)

/-! ## Readings -/

/-- What a channel takes of some readings, as samples: those of its metric, or all if it has
none. -/
def samplesOf (c : MeterChannel) (readings : List Reading) : List Sample :=
  (readings.filter fun r => c.identifier = none ∨ r.identifier = c.identifier).map fun r =>
    ⟨r.ts, r.value⟩

theorem accepts_iff {r : Reading} :
    c.accepts r = true ↔ c.identifier = none ∨ r.identifier = c.identifier := by
  cases hc : c.identifier <;> simp [accepts, hc]

/-- Readings that are offered one by one. -/
theorem foldl_take (c : MeterChannel) (readings : List Reading) :
    readings.foldl take c = (c.samplesOf readings).foldl push c := by
  induction readings generalizing c with
  | nil => rfl
  | cons r readings ih =>
    rw [List.foldl_cons, ih, take]
    by_cases hr : c.identifier = none ∨ r.identifier = c.identifier
    · have hsame : (c.push ⟨r.ts, r.value⟩).samplesOf readings = c.samplesOf readings := by
        unfold samplesOf push
        split <;> rfl
      rw [if_pos (accepts_iff.2 hr), hsame, samplesOf, samplesOf,
        List.filter_cons_of_pos (by simpa using hr)]
      rfl
    · rw [if_neg (mt accepts_iff.1 hr), samplesOf, samplesOf,
        List.filter_cons_of_neg (by simpa using hr)]

end MeterNode.MeterChannel
