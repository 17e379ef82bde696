import Mathlib.Data.List.Forall2
import MeterNode.Proofs.Text.Cutting
import MeterNode.Proofs.Trace
import MeterNode.Schedule.Assignment
import MeterNode.Settings.Build

/-!
# Handing out identifiers

The channels of a node get their identifiers from one setting.  What the setting names is said
without the functions that cut it (`BuildSettings.Names`), and it always names one list
(`BuildSettings.names_iff`).

All metrics of all plans stand in one row, and so do the identifiers; the metric at a place of the
one row gets the identifier at the same place of the other.  So the share of a plan begins at the
place of its first metric (`SourcePlan.share`), and shares that lie side by side make up the row
(`flatMap_shares`).  The places go on by the identifiers that a plan took, which comes to the same:
if these are fewer than its metrics, none are left (`drop_taken`).

The main result is `assignChannels_hands_out`.
-/

namespace MeterNode

open MeterNode.Text

/-! ## The identifiers of a setting -/

/-- The identifiers that a setting names: what is left of the pieces between its commas when they
are trimmed, blank pieces left out. -/
def BuildSettings.Names (setting : String) (uuids : List String) : Prop :=
  ∃ ps kept : List (List Char), ps ≠ [] ∧ [','].intercalate ps = setting.toList ∧
    (∀ p ∈ ps, ',' ∉ p) ∧ List.Forall₂ Trimmed ps kept ∧
    uuids = (kept.filter (· ≠ [])).map String.ofList

theorem BuildSettings.names_iff {setting : String} {uuids : List String} :
    Names setting uuids ↔ uuids = uuidsOf setting := by
  have htrimmed (ps kept : List (List Char)) :
      List.Forall₂ Trimmed ps kept ↔ ps.map trim = kept := by
    rw [← List.forall₂_eq_eq_eq, List.forall₂_map_left_iff]
    simp only [trim_eq_iff]
  constructor
  · rintro ⟨ps, kept, hne, hjoined, hps, hkept, rfl⟩
    rw [uuidsOf, pieces_eq_iff.2 ⟨hne, hjoined, hps⟩, (htrimmed ps kept).1 hkept]
  · rintro rfl
    obtain ⟨hne, hjoined, hps⟩ := pieces_eq_iff.1 (Eq.refl (pieces ',' setting.toList))
    exact ⟨_, _, hne, hjoined, hps, (htrimmed _ _).2 rfl, rfl⟩

/-- Blanks and empty entries do not count. -/
example : BuildSettings.uuidsOf " a, ,,b c," = ["a", "b c"] := by decide

/-! ## Shares -/

/-- A channel as it is handed out. -/
def MeterChannel.fresh (uuid : String) (metric : Option String) : MeterChannel :=
  { uuid, identifier := metric }

/-- The metrics of some plans, in order. -/
def metricsOf (plans : List SourcePlan) : List (Option String) := plans.flatMap (·.metrics)

/-- The channels of a plan, if its first metric takes the first of some identifiers. -/
def SourcePlan.share (plan : SourcePlan) (uuids : List String) : PlannedSource :=
  ⟨plan.source, List.zipWith .fresh uuids plan.metrics⟩

/-- The shares of some plans: each begins at the place of its first metric among all. -/
def shares (uuids : List String) (plans : List SourcePlan) : List PlannedSource :=
  plans.mapIdx fun i plan => plan.share (uuids.drop (metricsOf (plans.take i)).length)

variable {uuids : List String} {next : Nat} {plan : SourcePlan} {plans : List SourcePlan}

@[simp] theorem shares_nil : shares uuids [] = [] := rfl

@[simp] theorem shares_cons : shares uuids (plan :: plans) =
    plan.share uuids :: shares (uuids.drop plan.metrics.length) plans := by
  simp only [shares, metricsOf, List.mapIdx_cons, List.take_zero, List.take_succ_cons,
    List.flatMap_nil, List.flatMap_cons, List.length_nil, List.length_append, List.drop_zero,
    List.drop_drop]

theorem assignMetrics_eq {metrics : List (Option String)} :
    assignMetrics (uuids[·]?) next metrics = List.zipWith .fresh (uuids.drop next) metrics := by
  induction metrics generalizing next with
  | nil => simp [assignMetrics]
  | cons metric metrics ih =>
    rw [assignMetrics]
    split
    next hnone => simp [List.drop_eq_nil_of_le (List.getElem?_eq_none_iff.1 hnone)]
    next uuid hsome =>
      obtain ⟨hlt, rfl⟩ := List.getElem?_eq_some_iff.1 hsome
      rw [ih, List.drop_eq_getElem_cons hlt]
      rfl

/-- The next plan goes on behind the identifiers that were taken.  If they did not suffice, there
are none left. -/
theorem drop_taken : uuids.drop (next + (plan.share (uuids.drop next)).channels.length) =
    (uuids.drop next).drop plan.metrics.length := by
  have hlength : (plan.share (uuids.drop next)).channels.length =
      min (uuids.length - next) plan.metrics.length := by
    simp [SourcePlan.share]
  rw [List.drop_drop, hlength]
  by_cases hle : plan.metrics.length ≤ uuids.length - next
  · rw [Nat.min_eq_right hle]
  · rw [List.drop_eq_nil_of_le (by omega), List.drop_eq_nil_of_le (by omega)]

theorem zipWith_append_right {α β γ : Type} (f : α → β → γ) (as : List α) (bs cs : List β) :
    List.zipWith f as (bs ++ cs) =
      List.zipWith f as bs ++ List.zipWith f (as.drop bs.length) cs := by
  induction bs generalizing as with
  | nil => simp
  | cons b bs ih =>
    cases as with
    | nil => simp
    | cons a as => simp [ih]

/-- The channels that are handed out, source after source, are the metrics in order with the
identifiers in order. -/
theorem flatMap_shares :
    (shares uuids plans).flatMap (·.channels) = List.zipWith .fresh uuids (metricsOf plans) := by
  -- what is left of the identifiers behind the first plan is dealt to the others
  induction plans generalizing uuids with
  | nil => simp [metricsOf]
  | cons plan plans ih =>
    rw [shares_cons, List.flatMap_cons, ih]
    exact (zipWith_append_right _ _ _ _).symm

/-! ## What is handed out -/

/-- The warning that a source is left out. -/
def PlannedSource.skipped (p : PlannedSource) : (op : Node.Op) × Node.Answer op :=
  ⟨.log .warn ("sched: source protocol=" ++ p.source.protocol ++ " has no channel uuid, skipped"),
    ()⟩

theorem assignFrom_ends {t : Trace Node} {planned : List PlannedSource} :
    (assignFrom (uuids[·]?) next plans).Ends t planned ↔
      planned = (shares (uuids.drop next) plans).filter (0 < ·.channels.length) ∧
      t = ((shares (uuids.drop next) plans).filter (·.channels.length = 0)).map
        PlannedSource.skipped := by
  induction plans generalizing next t planned with
  | nil =>
    rw [assignFrom, Prog.ends_pure]
    simp [and_comm]
  | cons plan plans ih =>
    have hshare : List.zipWith MeterChannel.fresh (uuids.drop next) plan.metrics =
        (plan.share (uuids.drop next)).channels := rfl
    have htaken : uuids.drop (next + (plan.share (uuids.drop next)).channels.length) =
        (uuids.drop next).drop plan.metrics.length := drop_taken
    rw [assignFrom, assignMetrics_eq, hshare, shares_cons]
    split
    next hempty =>
      have hnone : (plan.share (uuids.drop next)).channels = [] := List.isEmpty_iff.1 hempty
      rw [hnone, List.length_nil, Nat.add_zero] at htaken
      rw [← htaken, List.filter_cons_of_neg (by simp [hnone]),
        List.filter_cons_of_pos (by simp [hnone])]
      constructor
      · intro h
        obtain ⟨t₁, _, t₂, hlog, hrest, rfl⟩ := Prog.ends_bind.1 h
        obtain ⟨rfl, rfl⟩ := ih.1 hrest
        rw [Prog.ends_perform.1 hlog]
        exact ⟨rfl, rfl⟩
      · rintro ⟨rfl, rfl⟩
        exact Prog.ends_bind.2 ⟨_, (), _, Prog.ends_perform.2 rfl, ih.2 ⟨rfl, rfl⟩, rfl⟩
    next hkept =>
      have hsome : (plan.share (uuids.drop next)).channels ≠ [] := fun h => hkept (by simp [h])
      have hpos := List.length_pos_iff.2 hsome
      rw [Prog.ends_bind_pure, ← htaken, List.filter_cons_of_pos (by simpa using hpos),
        List.filter_cons_of_neg (by simp [hsome])]
      constructor
      · rintro ⟨rest, hrest, rfl⟩
        obtain ⟨rfl, rfl⟩ := ih.1 hrest
        exact ⟨rfl, rfl⟩
      · rintro ⟨rfl, rfl⟩
        exact ⟨_, ih.2 ⟨rfl, rfl⟩, rfl⟩

/-- How some identifiers are handed out to the metrics of some plans. -/
structure HandedOut (uuids : List String) (plans : List SourcePlan)
    (planned : List PlannedSource) : Prop where
  /-- The channels are new, one for each metric with an identifier. -/
  channels_eq :
    planned.flatMap (·.channels) = List.zipWith MeterChannel.fresh uuids (metricsOf plans)
  /-- The identifiers go in order, none twice and none skipped. -/
  uuids_eq : (planned.flatMap (·.channels)).map (·.uuid) =
    uuids.take (min uuids.length (metricsOf plans).length)
  /-- They go to the first metrics, and all others are not published. -/
  metrics_eq : (planned.flatMap (·.channels)).map (·.identifier) =
    (metricsOf plans).take (min uuids.length (metricsOf plans).length)
  /-- The sources are those with a channel, in the order of the plans, each with the metrics of its
  plan. -/
  planned_eq : planned = (shares uuids plans).filter (0 < ·.channels.length)

theorem map_uuid_fresh {metrics : List (Option String)} :
    (List.zipWith MeterChannel.fresh uuids metrics).map (·.uuid) =
      uuids.take (min uuids.length metrics.length) := by
  induction uuids generalizing metrics with
  | nil => rfl
  | cons uuid uuids ih =>
    cases metrics with
    | nil => rfl
    | cons metric metrics => simp [ih, MeterChannel.fresh]

theorem map_identifier_fresh {metrics : List (Option String)} :
    (List.zipWith MeterChannel.fresh uuids metrics).map (·.identifier) =
      metrics.take (min uuids.length metrics.length) := by
  induction uuids generalizing metrics with
  | nil => simp
  | cons uuid uuids ih =>
    cases metrics with
    | nil => rfl
    | cons metric metrics => simp [ih, MeterChannel.fresh]

/-- Sources without a channel have nothing to do with the channels. -/
theorem flatMap_kept {ps : List PlannedSource} :
    (ps.filter (0 < ·.channels.length)).flatMap (·.channels) = ps.flatMap (·.channels) := by
  induction ps with
  | nil => rfl
  | cons p ps ih =>
    by_cases hp : 0 < p.channels.length
    · rw [List.filter_cons_of_pos (by simpa using hp), List.flatMap_cons, List.flatMap_cons, ih]
    · rw [List.filter_cons_of_neg (by simpa using hp), List.flatMap_cons, ih,
        List.length_eq_zero_iff.1 (Nat.eq_zero_of_not_pos hp), List.nil_append]

theorem handedOut_shares :
    HandedOut uuids plans ((shares uuids plans).filter (0 < ·.channels.length)) where
  channels_eq := by rw [flatMap_kept, flatMap_shares]
  uuids_eq := by rw [flatMap_kept, flatMap_shares, map_uuid_fresh]
  metrics_eq := by rw [flatMap_kept, flatMap_shares, map_identifier_fresh]
  planned_eq := rfl

/-- A setting names one list of identifiers.  Whatever the plans are, their channels are assigned in
one way: the first metrics of all plans get the first of these identifiers, as many as there are of
both, and the sources that got one are left, with a warning for each of the others. -/
theorem assignChannels_hands_out (plans : List SourcePlan) (settings : BuildSettings) :
    ∃ uuids planned,
      (∀ named, BuildSettings.Names settings.channelUuids named ↔ named = uuids) ∧
      HandedOut uuids plans planned ∧
      ∀ t res, (assignChannels plans settings.channelUuid).Ends t res ↔
        res = planned ∧
        t = ((shares uuids plans).filter (·.channels.length = 0)).map PlannedSource.skipped := by
  refine ⟨BuildSettings.uuidsOf settings.channelUuids, _, fun _ => BuildSettings.names_iff,
    handedOut_shares, fun t res => ?_⟩
  exact assignFrom_ends

end MeterNode
