import MeterNode.Proofs.Schedule.Ticks

/-!
# Send windows

While the send window is closed, no entry has a batch out and no entry is held (`Scheduler.Marked`).
Only turns set these marks, and only with the window open.  The window closes in two places, and
both release the entries and find that none of them has a batch out: `completeWindow` looks at the
entries, and `radioOff` is reached only if no turn said that it needs the radio (`Turns.idle`).

An entry whose batch failed is spent: it is held, and has no batch out.  It stays so, and fails no
further batch, until the window closes (`Turn`).
-/

namespace MeterNode

/-- The entry is held, and has no batch out. -/
def Entry.Spent (e : Entry) : Prop := e.held = true ∧ e.isBusy = false

namespace Scheduler

variable {s s₁ s₂ s₃ s' : Scheduler} {index i : Nat} {now : Instant} {atDefault keep : Bool}
  {e : Entry} {t t₁ : Trace Node}

/-! ## Marks -/

/-- No entry has a batch out. -/
def Idle (s : Scheduler) : Prop := ∀ e ∈ s.entries, e.isBusy = false

/-- The window is closed, no entry has a batch out, and none is held. -/
structure Shut (s : Scheduler) : Prop where
  closed : s.windowOpen = false
  idle : s.Idle
  released : ∀ e ∈ s.entries, e.held = false

/-- Entries have batches out or are held only while the window is open. -/
def Marked (s : Scheduler) : Prop := s.windowOpen = true ∨ s.Shut

/-- The entry at a place, if there is one, is spent. -/
def SpentAt (s : Scheduler) (i : Nat) : Prop := ∀ e, s.entries[i]? = some e → e.Spent

/-- The window and the uploads of the entries are as before. -/
structure Mild (s s' : Scheduler) : Prop where
  windowOpen : s'.windowOpen = s.windowOpen
  sendings : s'.sendings = s.sendings

theorem Mild.refl (s : Scheduler) : Mild s s := ⟨rfl, rfl⟩

theorem Mild.trans (h : Mild s s₁) (h' : Mild s₁ s₂) : Mild s s₂ :=
  ⟨h'.windowOpen.trans h.windowOpen, h'.sendings.trans h.sendings⟩

theorem idle_iff : s.Idle ↔ ∀ x ∈ s.sendings, x.2.1.isBusy = false := by
  rw [sendings, List.forall_mem_map]
  rfl

theorem idle_of_sendings (h : s'.sendings = s.sendings) (hidle : s.Idle) : s'.Idle := by
  rw [idle_iff] at hidle ⊢
  rwa [h]

theorem Shut.mild (h : s.Shut) (hmild : Mild s s') : s'.Shut := by
  refine ⟨hmild.windowOpen.trans h.closed, idle_of_sendings hmild.sendings h.idle, ?_⟩
  have hreleased (s : Scheduler) :
      (∀ e ∈ s.entries, e.held = false) ↔ ∀ x ∈ s.sendings, x.2.2 = false := by
    rw [sendings, List.forall_mem_map]
    rfl
  rw [hreleased, hmild.sendings, ← hreleased]
  exact h.released

theorem Marked.mild (h : s.Marked) (hmild : Mild s s') : s'.Marked :=
  h.imp hmild.windowOpen.trans fun hshut => hshut.mild hmild

theorem spentAt_of_sendings (h : s'.sendings = s.sendings) (hspent : s.SpentAt i) :
    s'.SpentAt i := by
  intro e he
  have hsending : s.sendings[i]? = some e.sending := by
    rw [← h, sendings, List.getElem?_map, he]
    rfl
  obtain ⟨e₀, he₀, heq⟩ := Option.map_eq_some_iff.1 (List.getElem?_map .. ▸ hsending)
  obtain ⟨-, huploader, hheld⟩ : e₀.conn = e.conn ∧ e₀.uploader = e.uploader ∧
      e₀.held = e.held := by
    simpa [Entry.sending] using heq
  obtain ⟨hheld₀, hidle₀⟩ := hspent e₀ he₀
  refine ⟨hheld ▸ hheld₀, ?_⟩
  rw [Entry.isBusy, ← huploader]
  exact hidle₀

theorem closeWindow_shut (h : s.Idle) : (s.closeWindow now).Shut := by
  refine ⟨rfl, ?_, ?_⟩
  all_goals
    intro e he
    obtain ⟨e₀, he₀, rfl⟩ := List.mem_map.1 he
  · exact h e₀ he₀
  · rfl

/-! ## Turns -/

/-- What the step of an upload does to the marks. -/
structure Tried (index : Nat) (t : Trace Node) (s s' : Scheduler) : Prop where
  windowOpen : s'.windowOpen = s.windowOpen
  others : Others index s s'
  once : t.failures ≤ 1
  spent : t.failures ≠ 0 → s'.SpentAt index

theorem serviceEntry_tried (h : (s.serviceEntry index now).Ends t s') : Tried index t s s' := by
  cases serviceEntry_ends h with
  | skipped hlog =>
    have hnone := hlog.failures (by decide)
    exact ⟨rfl, .refl index s, by omega, fun hfailed => absurd hnone hfailed⟩
  | unconnected hlog =>
    have hnone := hlog.failures (by decide)
    exact ⟨rfl, others_hold s index, by omega, fun hfailed => absurd hnone hfailed⟩
  | @stepped e c r t₁ t₂ he _ _ hr hlog =>
    have hcount : (t₁ ++ t₂).failures = t₁.failures := by
      rw [Trace.failures_append, hlog.failures (by decide), Nat.add_zero]
    obtain ⟨honce, hfailure⟩ := Uploader.service_failures hr
    refine ⟨rfl, fun _ hi => List.getElem?_set_ne (Ne.symm hi), hcount ▸ honce, ?_⟩
    intro hfailed e' he'
    obtain ⟨⟨cause, hp⟩, hb⟩ := hfailure (hcount ▸ hfailed)
    rw [advance, List.getElem?_set', if_pos rfl, he] at he'
    cases he'
    refine ⟨?_, ?_⟩
    · simp [advanced, hp]
    · rw [Entry.isBusy, Uploader.isBusy]
      exact congrArg Option.isSome hb

theorem raiseClock_failures {res : Bool × Scheduler}
    (h : (s.raiseClock now atDefault).Ends t res) : t.failures = 0 :=
  (h.of (raiseClock_kinds (List.Subset.refl _))).failures (by decide)

theorem raiseRadio_failures {res : Bool × Scheduler} (h : s.raiseRadio.Ends t res) :
    t.failures = 0 :=
  (h.of (raiseRadio_kinds (List.Subset.refl _))).failures (by decide)

/-- What a turn does to the marks.  The answer of the turn says whether it needs the radio. -/
structure Turn (index : Nat) (t : Trace Node) (s : Scheduler) (needs : Bool) (s' : Scheduler) :
    Prop where
  others : Others index s s'
  once : t.failures ≤ 1
  spent : t.failures ≠ 0 → s'.SpentAt index
  rests : s.SpentAt index → t.failures = 0 ∧ s'.SpentAt index
  marked : s.Marked → s'.Marked
  idle : needs = false → ∀ e, s'.entries[index]? = some e → e.isBusy = false

/-- A turn that leaves the uploads alone. -/
theorem Mild.turn (hmild : Mild s s') (hothers : Others index s s') (ht : t.failures = 0)
    (hidle : ∀ e, s'.entries[index]? = some e → e.isBusy = false) : Turn index t s keep s' where
  others := hothers
  once := by omega
  spent hfailed := absurd ht hfailed
  rests hspent := ⟨ht, spentAt_of_sendings hmild.sendings hspent⟩
  marked hmarked := hmarked.mild hmild
  idle _ := hidle

theorem Turn.prepend (h : Turn index t s₁ keep s') (hmild : Mild s s₁)
    (hothers : Others index s s₁) (ht : t₁.failures = 0) : Turn index (t₁ ++ t) s keep s' := by
  have hcount : (t₁ ++ t).failures = t.failures := by
    rw [Trace.failures_append, ht, Nat.zero_add]
  refine ⟨hothers.trans h.others, hcount ▸ h.once, fun hfailed => h.spent (hcount ▸ hfailed), ?_,
    fun hmarked => h.marked (hmarked.mild hmild), h.idle⟩
  intro hspent
  rw [hcount]
  exact h.rests (spentAt_of_sendings hmild.sendings hspent)

/-- An entry that needs no radio has no batch out. -/
theorem idle_of_needsRadio (h : s.needsRadio index = false) (he : s.entries[index]? = some e) :
    e.isBusy = false := by
  rw [needsRadio, he, Option.any_some, Bool.or_eq_false_iff] at h
  exact h.1

/-- A step in a window that is open is a turn. -/
theorem Tried.turn (h : Tried index t s s') (hopen : s.windowOpen = true)
    (hready : ¬ s.SpentAt index) : Turn index t s (s'.needsRadio index) s' where
  others := h.others
  once := h.once
  spent := h.spent
  rests hspent := absurd hspent hready
  marked _ := Or.inl (h.windowOpen.trans hopen)
  idle hneeds _ he := idle_of_needsRadio hneeds he

theorem beginUpload_ends_tried {conn : ConnId} (h : (s.beginUpload index conn).Ends t s') :
    Tried index t { s with windowOpen := true } s' := by
  obtain ⟨t₁, now, t₂, h₁, h₂, rfl⟩ := Prog.ends_bind.1 h
  obtain ⟨t₃, s₁, t₄, h₃, h₄, rfl⟩ := Prog.ends_bind.1 h₂
  have htried := serviceEntry_tried h₃
  have hof : t₁.Of [.time] := h₁.of (by simp)
  have hnow : t₁.failures = 0 := hof.failures (by decide)
  have hlast : t₄.failures = 0 ∧ ∃ registry, s' = { s₁ with registry } := by
    split at h₄
    next =>
      obtain ⟨⟨state, r⟩, h₅, rfl⟩ := Prog.ends_bind_pure.1 h₄
      exact ⟨(h₅.of (Registry.awaitDns_kinds (List.Subset.refl _))).failures (by decide), r, rfl⟩
    next =>
      obtain ⟨rfl, rfl⟩ := Prog.ends_pure.1 h₄
      exact ⟨rfl, s'.registry, rfl⟩
  obtain ⟨hawait, registry, rfl⟩ := hlast
  have hcount : (t₁ ++ (t₃ ++ t₄)).failures = t₃.failures := by
    rw [Trace.failures_append, Trace.failures_append, hnow, hawait]
    omega
  exact ⟨htried.windowOpen, htried.others, hcount ▸ htried.once,
    fun hfailed => htried.spent (hcount ▸ hfailed)⟩

theorem sendIfReady_turn {res : Bool × Bool × Scheduler} (hmarked : s.Marked)
    (h : (s.sendIfReady index now atDefault).Ends t res) : Turn index t s res.1 res.2.2 := by
  cases sendIfReady_sent h with
  | nothing hrest => exact (Mild.refl s).turn (.refl index s) rfl fun e he => (hrest e he).1
  | @goesOn e t s' he hbusy h₁ =>
    have hready : ¬ s.SpentAt index := fun hspent => by
      have := (hspent e he).2
      rw [hbusy] at this
      cases this
    have hopen : s.windowOpen = true := by
      refine hmarked.resolve_right fun hshut => ?_
      have := hshut.idle e (List.mem_of_getElem? he)
      rw [hbusy] at this
      cases this
    exact (serviceEntry_tried h₁).turn hopen hready
  | @deferred e t₁ t₂ t₃ _ speed radio hdue h₁ h₂ hlog =>
    have hmild : Mild s { s with speed, radio } := ⟨rfl, rfl⟩
    refine hmild.turn (fun _ _ => rfl) ?_ fun e' he' => ?_
    · rw [Trace.failures_append, Trace.failures_append, raiseClock_failures h₁,
        raiseRadio_failures h₂, hlog.failures (by decide)]
    · have hentry : s.entries[index]? = some e' := he'
      rw [hdue.entry, Option.some.injEq] at hentry
      rw [← hentry]
      exact hdue.idle
  | @begun e t₁ t₂ t₃ _ speed radio s' hdue h₁ h₂ h₃ =>
    have hmild : Mild s { s with speed, radio } := ⟨rfl, rfl⟩
    have hready : ¬ s.SpentAt index := fun hspent => by
      have := hdue.pending
      rw [Entry.sendPending, (hspent e hdue.entry).1] at this
      cases this
    have hturn := (beginUpload_ends_tried h₃).turn rfl hready
    rw [← List.append_assoc]
    refine Turn.prepend ?_ hmild (fun _ _ => rfl) ?_
    · exact ⟨hturn.others, hturn.once, hturn.spent, hturn.rests,
        fun _ => hturn.marked (Or.inl rfl), hturn.idle⟩
    · rw [Trace.failures_append, raiseClock_failures h₁, raiseRadio_failures h₂]

theorem turn_ends_turn {res : Bool × Bool × Scheduler} (hmarked : s.Marked)
    (h : (s.turn index now atDefault).Ends t res) : Turn index t s res.1 res.2.2 := by
  obtain ⟨t₁, ⟨atDefault', s₁⟩, t₂, h₁, h₂, rfl⟩ := Prog.ends_bind.1 h
  obtain ⟨speed, entries, hs₁, hsendings, hothers⟩ := readIfDue_gives h₁.gives
  have hmild : Mild s s₁ := ⟨by rw [show s₁ = _ from hs₁], hsendings⟩
  have hread := (h₁.of (readIfDue_kinds (List.Subset.refl _))).failures (by decide)
  exact (sendIfReady_turn (hmarked.mild hmild) h₂).prepend hmild hothers hread

/-- The batches that failed in the turn of an entry. -/
def failuresAt (turns : List (Trace Node)) (i : Nat) : Nat := (turns[i]?.getD []).failures

section Turns

variable {indices : List Nat} {ts : List (Trace Node)} {res : Bool × Bool × Scheduler}

theorem Turns.marked (h : Turns now indices keep atDefault s ts res) (hmarked : s.Marked) :
    res.2.2.Marked := by
  induction h with
  | nil => exact hmarked
  | cons hturn _ ih => exact ih ((turn_ends_turn hmarked hturn).marked hmarked)

theorem Turns.others (h : Turns now indices keep atDefault s ts res) (hmarked : s.Marked)
    (hi : i ∉ indices) : res.2.2.entries[i]? = s.entries[i]? := by
  induction h with
  | nil => rfl
  | cons hturn _ ih =>
    obtain ⟨hne, hrest⟩ : _ ≠ _ ∧ _ := not_or.1 (mt List.mem_cons.2 hi)
    have hfirst := turn_ends_turn hmarked hturn
    rw [ih (hfirst.marked hmarked) hrest, hfirst.others i hne]

/-- If no turn needs the radio, the entries that had turns have no batches out. -/
theorem Turns.idle (h : Turns now indices keep atDefault s ts res) (hmarked : s.Marked)
    (hdistinct : indices.Nodup) (hkeep : res.1 = false) :
    keep = false ∧ ∀ i ∈ indices, ∀ e, res.2.2.entries[i]? = some e → e.isBusy = false := by
  induction h with
  | nil => exact ⟨hkeep, fun _ hi => absurd hi List.not_mem_nil⟩
  | @cons index rest keep atDefault needs atDefault' s s' t ts res hturn hrest ih =>
    obtain ⟨hfresh, hdistinct⟩ := List.nodup_cons.1 hdistinct
    have hfirst := turn_ends_turn hmarked hturn
    obtain ⟨hneeds, hidle⟩ := ih (hfirst.marked hmarked) hdistinct hkeep
    obtain ⟨hkept, hneeds⟩ := Bool.or_eq_false_iff.1 hneeds
    refine ⟨hkept, fun i hi e he => ?_⟩
    rcases List.mem_cons.1 hi with rfl | hi
    · rw [hrest.others (hfirst.marked hmarked) hfresh] at he
      exact hfirst.idle hneeds e he
    · exact hidle i hi e he

/-- If all entries had their turns and none needs the radio, no batch is out. -/
theorem Turns.idle_all (h : Turns now (List.range s.entries.length) keep atDefault s ts res)
    (hmarked : s.Marked) (hkeep : res.1 = false) : res.2.2.Idle := by
  intro e he
  obtain ⟨i, hi⟩ := List.mem_iff_getElem?.1 he
  by_cases hrange : i ∈ List.range s.entries.length
  · exact (h.idle hmarked List.nodup_range hkeep).2 i hrange e hi
  · rw [h.others hmarked hrange] at hi
    exact absurd (List.mem_range.2 (List.getElem?_eq_some_iff.1 hi).1) hrange

/-- Every entry fails one batch at most in its turn, is spent if it does, and fails none if it was
spent before. -/
theorem Turns.spent {k : Nat} (h : Turns now indices keep atDefault s ts res) (hmarked : s.Marked)
    (hdistinct : indices.Nodup) (hk : indices[k]? = some i) :
    failuresAt ts k ≤ 1 ∧ (failuresAt ts k ≠ 0 → res.2.2.SpentAt i) ∧
      (s.SpentAt i → failuresAt ts k = 0 ∧ res.2.2.SpentAt i) := by
  induction h generalizing k with
  | nil => cases hk
  | @cons index rest keep atDefault needs atDefault' s s' t ts res hturn hrest ih =>
    obtain ⟨hfresh, hdistinct⟩ := List.nodup_cons.1 hdistinct
    have hfirst := turn_ends_turn hmarked hturn
    cases k with
    | zero =>
      obtain rfl : index = i := Option.some.inj hk
      have hlater (hspent : s'.SpentAt index) : res.2.2.SpentAt index := by
        intro e he
        rw [hrest.others (hfirst.marked hmarked) hfresh] at he
        exact hspent e he
      exact ⟨hfirst.once, fun hfailed => hlater (hfirst.spent hfailed), fun hspent =>
        ⟨(hfirst.rests hspent).1, hlater (hfirst.rests hspent).2⟩⟩
    | succ k =>
      have hi : i ≠ index := by
        rintro rfl
        exact hfresh (List.mem_of_getElem? hk)
      obtain ⟨honce, hspent, hrests⟩ := ih (hfirst.marked hmarked) hdistinct hk
      refine ⟨honce, hspent, fun hbefore => hrests fun e he => ?_⟩
      rw [hfirst.others i hi] at he
      exact hbefore e he

theorem Turns.length_eq (h : Turns now indices keep atDefault s ts res) :
    ts.length = indices.length := by
  induction h with
  | nil => rfl
  | cons _ _ ih => rw [List.length_cons, List.length_cons, ih]

end Turns

/-! ## Behind the turns -/

/-- The window and the uploads are as before, or the window has closed. -/
def Passing (s s' : Scheduler) : Prop := Mild s s' ∨ s'.Shut

theorem Passing.trans (h : Passing s s₁) (h' : Passing s₁ s₂) : Passing s s₂ := by
  rcases h' with hmild' | hshut
  · rcases h with hmild | hshut
    · exact Or.inl (hmild.trans hmild')
    · exact Or.inr (hshut.mild hmild')
  · exact Or.inr hshut

theorem Passing.marked (h : Passing s s') (hmarked : s.Marked) : s'.Marked := by
  rcases h with hmild | hshut
  · exact hmarked.mild hmild
  · exact Or.inr hshut

theorem Passing.idle (h : Passing s s') (hidle : s.Idle) : s'.Idle := by
  rcases h with hmild | hshut
  · exact idle_of_sendings hmild.sendings hidle
  · exact hshut.idle

theorem completeWindow_passing (h : (s.completeWindow now).Gives s') : Passing s s' := by
  rcases completeWindow_gives h with rfl | ⟨-, rfl, hidle⟩
  · exact Or.inl (.refl s')
  · exact Or.inr (closeWindow_shut hidle)

/-- The radio goes off only if no turn needs it, and then no entry has a batch out. -/
theorem tendRadio_passing {statusTick : Bool} {due : Instant} {res : Bool × Scheduler}
    (hidle : keep = false → s.Idle)
    (h : (s.tendRadio keep atDefault statusTick due).Gives res) : Passing s res.2 := by
  obtain ⟨radio, hres | hup⟩ := tendRadio_gives h
  · rw [hres]
    exact Or.inl ⟨rfl, rfl⟩
  · obtain ⟨supply, time, resyncDue, ⟨rfl, -⟩ | ⟨-, hkeep, -, hoff⟩⟩ := whileUp_gives hup
    · exact Or.inl ⟨rfl, rfl⟩
    · obtain ⟨registry, radio', now, -, -, hs'⟩ := radioOff_gives hoff
      rw [hs']
      exact Or.inr (closeWindow_shut (hidle hkeep))

theorem report_mild {due : Instant} {up : Bool} (h : (s.report due up).Gives s') : Mild s s' := by
  obtain ⟨speed, rfl, -⟩ := report_gives h
  exact ⟨rfl, rfl⟩

/-! ## Ticks -/

/-- What a tick does to the marks. -/
structure Ticked (turns : List (Trace Node)) (s s' : Scheduler) : Prop where
  marked : s'.Marked
  once : ∀ i, failuresAt turns i ≤ 1
  spent : ∀ i, failuresAt turns i ≠ 0 → s'.windowOpen = true → s'.SpentAt i
  rests : ∀ i, s.SpentAt i → failuresAt turns i = 0 ∧ (s'.windowOpen = true → s'.SpentAt i)

theorem Passed.ticked {turns : List (Trace Node)} {res : TickReport × Scheduler}
    (h : Passed s now turns t res) (hmarked : s.Marked) : Ticked turns s res.2 := by
  cases h with
  | @intro s₁ s₂ s₃ s₄ s₅ s₆ s₇ _ atDefault₁ _ keep _ _ _ _ _ _ _ _ _ hcount hnetwork _ hturns
      hwindow hradio hlower hreport =>
    obtain ⟨ticks, resyncDue, rfl⟩ := countTick_gives hcount.gives
    obtain ⟨_, _, registry, -, -, -, rfl⟩ := serviceNetwork_gives hnetwork.gives
    have hbefore : Mild s { s with ticks, resyncDue, registry } := ⟨rfl, rfl⟩
    have hmarked₂ := hmarked.mild hbefore
    have hidle : keep = false → s₃.Idle := hturns.idle_all hmarked₂
    have hbehind : Passing s₃ s₇ := by
      have hwindow := completeWindow_passing hwindow.gives
      have hradio := tendRadio_passing (fun hkeep => hwindow.idle (hidle hkeep)) hradio.gives
      obtain ⟨radio, speed, rfl⟩ : ∃ radio speed, s₆ = { s₅ with radio, speed } :=
        lowerClock_gives hlower.gives
      have hlower : Mild s₅ { s₅ with radio, speed } := ⟨rfl, rfl⟩
      exact (hwindow.trans hradio).trans (Or.inl (hlower.trans (report_mild hreport.gives)))
    have hlater {i : Nat} (hspent : s₃.SpentAt i) (hopen : s₇.windowOpen = true) :
        s₇.SpentAt i := by
      rcases hbehind with hmild | hshut
      · exact spentAt_of_sendings hmild.sendings hspent
      · rw [hshut.closed] at hopen
        cases hopen
    have hplayed (i : Nat) : failuresAt turns i ≤ 1 ∧ (failuresAt turns i ≠ 0 → s₃.SpentAt i) ∧
        (s.SpentAt i → failuresAt turns i = 0 ∧ s₃.SpentAt i) := by
      by_cases hi : i < s.entries.length
      · exact hturns.spent hmarked₂ List.nodup_range (by rw [List.getElem?_range hi])
      · have hnone : failuresAt turns i = 0 := by
          have hlength := hturns.length_eq
          rw [List.length_range] at hlength
          rw [failuresAt, List.getElem?_eq_none (by rw [hlength]; exact Nat.le_of_not_lt hi)]
          rfl
        refine ⟨by omega, fun hfailed => absurd hnone hfailed, fun hspent => ⟨hnone, ?_⟩⟩
        intro e he
        rw [hturns.others hmarked₂ fun hmem => hi (List.mem_range.1 hmem)] at he
        exact hspent e he
    refine ⟨hbehind.marked (hturns.marked hmarked₂), fun i => (hplayed i).1, ?_, ?_⟩
    · exact fun i hfailed => hlater ((hplayed i).2.1 hfailed)
    · exact fun i hspent => ⟨((hplayed i).2.2 hspent).1, hlater ((hplayed i).2.2 hspent).2⟩

/-! ## Runs -/

/-- The batches of an entry that failed in the last tick of a run, and before it for as long as the
window that this tick found open had been open. -/
def windowFailures (i : Nat) : List TickLog → Nat
  | [] => 0
  | last :: earlier =>
      failuresAt last.turns i + if last.before.windowOpen then windowFailures i earlier else 0

variable {setup : NodeSetup} {logs : List TickLog}

theorem build_shut (h : setup.build.Gives (.ok s)) : s.Shut := by
  obtain ⟨-, hclosed, r, hconnect, -⟩ := build_gives h
  have hnew := connectEach_new hconnect
  exact ⟨hclosed, fun e he => (hnew e he).1, fun e he => (hnew e he).2⟩

theorem Course.marked (h : Course setup t logs s) : s.Marked := by
  induction h with
  | built hbuild => exact Or.inr (build_shut hbuild.gives)
  | joined hbuild => exact Or.inr ((build_shut hbuild.gives).mild ⟨rfl, rfl⟩)
  | start _ hstart ih =>
    obtain ⟨entries, lastSendComplete, hs', hsendings⟩ := start_gives hstart.gives
    rw [hs']
    exact ih.mild ⟨rfl, hsendings⟩
  | tick _ hpassed ih => exact (hpassed.ticked ih).marked

/-- In one window every entry has one batch at most that failed, and is spent behind it. -/
theorem Course.failures (h : Course setup t logs s) (i : Nat) :
    windowFailures i logs ≤ 1 ∧
      (s.windowOpen = true → windowFailures i logs ≠ 0 → s.SpentAt i) := by
  induction h with
  | built | joined => exact ⟨Nat.zero_le 1, fun _ hfailed => absurd rfl hfailed⟩
  | start _ hstart ih =>
    obtain ⟨entries, lastSendComplete, hs', hsendings⟩ := start_gives hstart.gives
    rw [hs']
    exact ⟨ih.1, fun hopen hfailed => spentAt_of_sendings hsendings (ih.2 hopen hfailed)⟩
  | @tick t t' logs s now turns res hcourse hpassed ih =>
    obtain ⟨-, honce, hspent, hrests⟩ := hpassed.ticked hcourse.marked
    -- In a window that was open before, an entry whose batch failed there fails none in the tick.
    by_cases hfresh : s.windowOpen = true ∧ windowFailures i logs ≠ 0
    · obtain ⟨hopen, hfailed⟩ := hfresh
      obtain ⟨hnone, hstays⟩ := hrests i (ih.2 hopen hfailed)
      have hsame : windowFailures i (⟨now, s, turns, t', res.1, res.2⟩ :: logs) =
          windowFailures i logs := by
        rw [windowFailures, if_pos hopen, hnone, Nat.zero_add]
      rw [hsame]
      exact ⟨ih.1, fun hopen' _ => hstays hopen'⟩
    · have hsame : windowFailures i (⟨now, s, turns, t', res.1, res.2⟩ :: logs) =
          failuresAt turns i := by
        rw [windowFailures]
        split
        next hopen => rw [Classical.not_not.1 fun hfailed => hfresh ⟨hopen, hfailed⟩, Nat.add_zero]
        next => rw [Nat.add_zero]
      rw [hsame]
      exact ⟨honce i, fun hopen' hfailed => hspent i hfailed hopen'⟩

end Scheduler

end MeterNode
