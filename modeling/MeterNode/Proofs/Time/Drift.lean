import Mathlib.Algebra.Group.Nat.Defs
import Mathlib.Algebra.Ring.Int.Defs
import MeterNode.Time.Sntp
import MeterNode.Time.Sync

/-!
# Drift correction

Every answer of the time server moves the offset by the difference between the UTC time and the
local time that passed since the reference.  The references in between cancel: the offset is always
what the last answer alone would give (`Anchored`), however many answers there were and in whatever
order their instants came, and the corrections add up to the way from the first offset to the last
(`resyncAll_sum`).

The node computes with signed 64-bit numbers.  `initial64`, `resync64` and `utcMs64` do the same
operations one by one and have no value when one of them overflows.  A server tells the time in 32
bits (`Sntp.replyTime_lt`) and the local clock counts in 64, so they always have a value, and it is
the same (`resyncAll64_eq`).
-/

namespace MeterNode

open MeterNode.Text

/-! ## What the server can say -/

theorem Sntp.bigEndian_foldl_lt {bytes : Bytes} {n k : Nat} (h : n < 256 ^ k) :
    bytes.foldl (fun n b => n * 256 + b.toNat) n < 256 ^ (k + bytes.length) := by
  induction bytes generalizing n k with
  | nil => exact h
  | cons b rest ih =>
    have hb : b.toNat < 256 := b.toNat_lt
    have hnext : n * 256 + b.toNat < 256 ^ (k + 1) := by
      rw [Nat.pow_succ]
      omega
    rw [List.foldl_cons, List.length_cons, Nat.add_comm rest.length, ← Nat.add_assoc]
    exact ih hnext

/-- The time of a reply has 32 bits. -/
theorem Sntp.replyTime_lt {packet : Bytes} {utc : Nat} (h : replyTime packet = some utc) :
    utc < 2 ^ 32 := by
  have hstamp :
      bigEndian ((packet.drop 40).take 4) < 256 ^ (0 + ((packet.drop 40).take 4).length) :=
    bigEndian_foldl_lt (Nat.zero_lt_one)
  have hlength : ((packet.drop 40).take 4).length ≤ 4 := List.length_take_le _ _
  have hpow : 256 ^ (0 + ((packet.drop 40).take 4).length) ≤ 256 ^ 4 :=
    Nat.pow_le_pow_right (by decide) (by omega)
  simp only [replyTime] at h
  split at h
  next =>
    split at h
    next =>
      have hutc := Option.some.inj h
      omega
    next => cases h
  next => cases h

namespace TimeSync

/-- Answers of the server in order, each with the instant it came at. -/
abbrev Answers : Type := List (Nat × Instant)

/-- A time of the server has 32 bits and an instant 64. -/
def Timely (utc now : Nat) : Prop := utc < 2 ^ 32 ∧ now < 2 ^ 64

instance (utc now : Nat) : Decidable (Timely utc now) := inferInstanceAs (Decidable (_ ∧ _))

variable {s : TimeSync} {answers : Answers} {utc : Nat} {now : Instant}

/-- Compare with one answer after the other: the corrections, and the state at the end. -/
def resyncAll (s : TimeSync) : Answers → List (Option Int) × TimeSync
  | [] => ([], s)
  | (utc, now) :: rest =>
      let (correction, next) := s.resync utc now
      let (corrections, last) := next.resyncAll rest
      (correction :: corrections, last)

/-- The answer and the instant of the reference. -/
def reference (s : TimeSync) : Nat × Instant := (s.referenceUtc, s.referenceAt)

/-! ## The offset -/

/-- The offset is what the reference alone gives. -/
def Anchored (s : TimeSync) : Prop :=
  s.offsetMs = utcMillis s.referenceUtc - localMillis s.referenceAt

theorem initial_eq (h : utc ≠ 0) :
    initial utc now = some ⟨utcMillis utc - localMillis now, utc, now⟩ := if_neg h

theorem Anchored.resync (h : s.Anchored) : (s.resync utc now).2.Anchored := by
  unfold TimeSync.resync
  split
  next => exact h
  next =>
    -- the old reference is in the offset and in the correction, with opposite signs
    simp only [Anchored, corrected, correction, utcDelta, localDelta] at h ⊢
    omega

theorem Anchored.resyncAll (h : s.Anchored) : (s.resyncAll answers).2.Anchored := by
  induction answers generalizing s with
  | nil => exact h
  | cons answer rest ih => exact ih h.resync

theorem resync_reference :
    (s.resync utc now).2.reference = if utc = 0 then s.reference else (utc, now) := by
  unfold TimeSync.resync
  split <;> rfl

/-- The reference is the last answer that the server gave. -/
theorem resyncAll_reference :
    (s.resyncAll answers).2.reference = (answers.filter (·.1 ≠ 0)).getLastD s.reference := by
  induction answers generalizing s with
  | nil => rfl
  | cons answer rest ih =>
    have hrest := ih (s := (s.resync answer.1 answer.2).2)
    rw [resync_reference] at hrest
    by_cases hzero : answer.1 = 0
    · rw [if_pos hzero] at hrest
      rw [List.filter_cons_of_neg (by simpa using hzero)]
      exact hrest
    · rw [if_neg hzero] at hrest
      rw [List.filter_cons_of_pos (by simpa using hzero), List.getLastD_cons]
      exact hrest

/-- There is a correction for every answer that the server gave. -/
theorem resyncAll_isSome :
    (s.resyncAll answers).1.map Option.isSome = answers.map (·.1 != 0) := by
  induction answers generalizing s with
  | nil => rfl
  | cons answer rest ih =>
    have hone : (s.resync answer.1 answer.2).1.isSome = (answer.1 != 0) := by
      unfold TimeSync.resync
      split
      next hzero => simp [hzero]
      next hanswered => simp [hanswered]
    rw [List.map_cons, ← hone, ← ih (s := (s.resync answer.1 answer.2).2)]
    rfl

theorem resync_offset :
    (s.resync utc now).2.offsetMs = s.offsetMs + (s.resync utc now).1.getD 0 := by
  unfold TimeSync.resync
  split
  next => exact (Int.add_zero _).symm
  next => rfl

/-- The corrections add up to what became of the offset. -/
theorem resyncAll_sum :
    ((s.resyncAll answers).1.filterMap id).sum = (s.resyncAll answers).2.offsetMs - s.offsetMs := by
  induction answers generalizing s with
  | nil => exact (Int.sub_self _).symm
  | cons answer rest ih =>
    have hrest := ih (s := (s.resync answer.1 answer.2).2)
    have hone : (s.resync answer.1 answer.2).2.offsetMs =
        s.offsetMs + (s.resync answer.1 answer.2).1.getD 0 := resync_offset
    cases hcorrection : (s.resync answer.1 answer.2).1 with
    | none =>
      rw [hcorrection, Option.getD_none] at hone
      simp only [TimeSync.resyncAll, hcorrection]
      rw [List.filterMap_cons_none (f := id) rfl, hrest]
      omega
    | some correction =>
      rw [hcorrection, Option.getD_some] at hone
      simp only [TimeSync.resyncAll, hcorrection]
      rw [List.filterMap_cons_some (f := id) rfl, List.sum_cons, hrest]
      omega

/-! ## Signed 64-bit numbers -/

/-- The result of an operation, unless it overflows. -/
def signed64? (x : Int) : Option Int := if -2 ^ 63 ≤ x ∧ x < 2 ^ 63 then some x else none

/-- The first reference, one operation at a time. -/
def initial64 (utc : Nat) (now : Instant) : Option (Option TimeSync) :=
  if utc = 0 then return none
  else do
    let offset ← signed64? (utcMillis utc - localMillis now)
    return some ⟨offset, utc, now⟩

/-- A comparison with an answer, one operation at a time. -/
def resync64 (s : TimeSync) (utc : Nat) (now : Instant) : Option (Option Int × TimeSync) :=
  if utc = 0 then return (none, s)
  else do
    let utcDelta ← signed64? (utcMillis utc - utcMillis s.referenceUtc)
    let localDelta ← signed64? (localMillis now - localMillis s.referenceAt)
    let correction ← signed64? (utcDelta - localDelta)
    let offset ← signed64? (s.offsetMs + correction)
    return (some correction, ⟨offset, utc, now⟩)

/-- Comparisons with one answer after the other, one operation at a time. -/
def resyncAll64 (s : TimeSync) : Answers → Option (List (Option Int) × TimeSync)
  | [] => return ([], s)
  | (utc, now) :: rest => do
      let (correction, next) ← s.resync64 utc now
      let (corrections, last) ← next.resyncAll64 rest
      return (correction :: corrections, last)

/-- UTC milliseconds at a local instant, one operation at a time. -/
def utcMs64 (s : TimeSync) (now : Instant) : Option Nat := do
  let utc ← signed64? (s.offsetMs + localMillis now)
  return utc.toNat

theorem signed64?_eq {x : Int} (hlow : -2 ^ 63 ≤ x) (hhigh : x < 2 ^ 63) :
    signed64? x = some x := if_pos ⟨hlow, hhigh⟩

theorem utcMillis_of_lt (h : utc < 2 ^ 32) : utcMillis utc = 1000 * utc := by
  have hmax : millisMax = 9223372036854775807 := rfl
  simp only [utcMillis]
  omega

/-- The local clock is far from the largest number of milliseconds. -/
theorem localMillis_of_lt {now : Nat} (h : now < 2 ^ 64) :
    localMillis now = Instant.millis now ∧ Instant.millis now < 2 ^ 55 := by
  have hmax : millisMax = 9223372036854775807 := rfl
  simp only [localMillis, Instant.millis]
  omega

theorem initial64_eq (h : Timely utc now) : initial64 utc now = some (initial utc now) := by
  obtain ⟨hutc, hnow⟩ := h
  obtain ⟨hlocal, hlt⟩ := localMillis_of_lt hnow
  unfold initial64 initial
  split
  next => rfl
  next =>
    rw [utcMillis_of_lt hutc, hlocal, signed64?_eq (by omega) (by omega)]
    rfl

/-- No operation of a comparison overflows. -/
theorem resync64_eq (hs : s.Anchored) (href : Timely s.referenceUtc s.referenceAt)
    (h : Timely utc now) : s.resync64 utc now = some (s.resync utc now) := by
  obtain ⟨hutc, hnow⟩ := h
  obtain ⟨hutc', hnow'⟩ := href
  obtain ⟨hlocal, hlt⟩ := localMillis_of_lt hnow
  obtain ⟨hlocal', hlt'⟩ := localMillis_of_lt hnow'
  simp only [Anchored] at hs
  unfold resync64 resync
  split
  next => rfl
  next =>
    simp only [corrected, correction, utcDelta, localDelta, hs, utcMillis_of_lt hutc,
      utcMillis_of_lt hutc', hlocal, hlocal', Option.bind_eq_bind]
    rw [signed64?_eq (by omega) (by omega), Option.bind_some,
      signed64?_eq (by omega) (by omega), Option.bind_some,
      signed64?_eq (by omega) (by omega), Option.bind_some,
      signed64?_eq (by omega) (by omega)]
    rfl

/-- No operation overflows in any number of comparisons. -/
theorem resyncAll64_eq (hs : s.Anchored) (href : Timely s.referenceUtc s.referenceAt)
    (h : ∀ answer ∈ answers, Timely answer.1 answer.2) :
    s.resyncAll64 answers = some (s.resyncAll answers) := by
  induction answers generalizing s with
  | nil => rfl
  | cons answer rest ih =>
    have hanswer : Timely answer.1 answer.2 := h answer List.mem_cons_self
    have hnext : Timely (s.resync answer.1 answer.2).2.referenceUtc
        (s.resync answer.1 answer.2).2.referenceAt := by
      unfold TimeSync.resync
      split
      next => exact href
      next => exact hanswer
    have hrest := ih hs.resync hnext fun a ha => h a (List.mem_cons_of_mem _ ha)
    simp only [resyncAll64, resync64_eq hs href hanswer, Option.bind_eq_bind, Option.bind_some,
      hrest]
    rfl

theorem Anchored.offsetMs_eq (hs : s.Anchored) (href : Timely s.referenceUtc s.referenceAt) :
    s.offsetMs = 1000 * s.referenceUtc - s.referenceAt.millis := by
  simp only [Anchored] at hs
  rw [hs, utcMillis_of_lt href.1, (localMillis_of_lt href.2).1]

theorem Anchored.utcMs_eq (hs : s.Anchored) (href : Timely s.referenceUtc s.referenceAt)
    {now : Nat} (h : now < 2 ^ 64) : (s.utcMs now : Int) =
      max 0 (1000 * s.referenceUtc + Instant.millis now - s.referenceAt.millis) := by
  rw [utcMs, hs.offsetMs_eq href, (localMillis_of_lt h).1, Int.toNat_eq_max]
  omega

theorem utcMs64_eq (hs : s.Anchored) (href : Timely s.referenceUtc s.referenceAt) {now : Nat}
    (h : now < 2 ^ 64) : s.utcMs64 now = some (s.utcMs now) := by
  obtain ⟨hutc', hnow'⟩ := href
  obtain ⟨hlocal, hlt⟩ := localMillis_of_lt h
  obtain ⟨hlocal', hlt'⟩ := localMillis_of_lt hnow'
  simp only [Anchored] at hs
  simp only [utcMs64, utcMs, hs, utcMillis_of_lt hutc', hlocal', hlocal, Option.bind_eq_bind]
  rw [signed64?_eq (by omega) (by omega)]
  rfl

/-! ## All runs -/

/-- However often the clock is compared with the server, its offset is what the last answer alone
gives, and an answer that did not come changes nothing.  The corrections add up to the change of the
offset, and no operation on signed 64-bit numbers overflows. -/
theorem resyncAll_telescopes {first : Nat × Instant} (hanswered : first.1 ≠ 0)
    (hfirst : Timely first.1 first.2) (hanswers : ∀ answer ∈ answers, Timely answer.1 answer.2) :
    ∃ s, initial first.1 first.2 = some s ∧
      let (corrections, last) := s.resyncAll answers
      let (utc, at_) := (answers.filter (·.1 ≠ 0)).getLastD first
      last.reference = (utc, at_) ∧
      last.offsetMs = 1000 * utc - at_.millis ∧
      (∀ t : Nat, t < 2 ^ 64 →
        (last.utcMs t : Int) = max 0 (1000 * utc + Instant.millis t - at_.millis)) ∧
      corrections.map Option.isSome = answers.map (·.1 != 0) ∧
      (corrections.filterMap id).sum = last.offsetMs - s.offsetMs ∧
      (∀ t, last.resync 0 t = (none, last)) ∧
      initial64 first.1 first.2 = some (some s) ∧
      s.resyncAll64 answers = some (corrections, last) ∧
      (∀ t : Nat, t < 2 ^ 64 → last.utcMs64 t = some (last.utcMs t)) ∧
      ∀ packet utc, Sntp.replyTime packet = some utc → utc < 2 ^ 32 := by
  obtain ⟨s, hinitial, hs, hsref⟩ : ∃ s, initial first.1 first.2 = some s ∧ s.Anchored ∧
      s.reference = first := ⟨_, initial_eq hanswered, rfl, rfl⟩
  refine ⟨s, hinitial, ?_⟩
  have hlast : (s.resyncAll answers).2.Anchored := hs.resyncAll
  have href : (s.resyncAll answers).2.reference = (answers.filter (·.1 ≠ 0)).getLastD first :=
    hsref ▸ resyncAll_reference
  have htimely :
      Timely (s.resyncAll answers).2.reference.1 (s.resyncAll answers).2.reference.2 := by
    have hmem := List.getLastD_mem_cons (l := answers.filter (·.1 ≠ 0)) (a := first)
    rw [← href] at hmem
    rcases List.mem_cons.1 hmem with h | h
    · rw [h]
      exact hfirst
    · exact hanswers _ (List.mem_filter.1 h).1
  have hstart : Timely s.referenceUtc s.referenceAt := by
    rw [← hsref] at hfirst
    exact hfirst
  simp only [← href]
  exact ⟨trivial, hlast.offsetMs_eq htimely, fun t => hlast.utcMs_eq htimely, resyncAll_isSome,
    resyncAll_sum, fun _ => rfl, (initial64_eq hfirst).trans (congrArg some hinitial),
    resyncAll64_eq hs hstart hanswers, fun t => utcMs64_eq hlast htimely,
    fun _ _ => Sntp.replyTime_lt⟩

/-- After an hour the local clock is two seconds ahead; one answer does not come, and the next one
is of an instant before the one that did. -/
theorem telescopes_of_backward :
    ∃ s, initial 1700000000 7000000 = some s ∧
      (s.resyncAll [(1700003600, 3609000000), (0, 3700000000),
        (1700003000, 3000000000)]).2.offsetMs = 1700003000000 - 3000000 := by
  have hfirst : Timely 1700000000 7000000 := by decide
  have hanswers : ∀ answer ∈ [((1700003600, 3609000000) : Nat × Instant), (0, 3700000000),
      (1700003000, 3000000000)], Timely answer.1 answer.2 := by decide
  obtain ⟨s, hinitial, -, hoffset, -⟩ :=
    @resyncAll_telescopes _ (1700000000, 7000000) (by decide) hfirst hanswers
  exact ⟨s, hinitial, hoffset⟩

end TimeSync

end MeterNode
