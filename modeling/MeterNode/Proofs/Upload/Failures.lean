import MeterNode.Proofs.Upload.Replies

/-!
# Batches that fail

A batch fails when it is given up or when its reply refuses it.  A step then ends the batch, says
that it failed, and counts it (`Uploader.service_judged`).  A connection that serves a visitor is no
collector's: there a step fails without doing anything (`Uploader.service_serving`).

A step that leaves no batch behind leaves no exchange behind either, unless it found one that is not
its own (`Uploader.service_settled`).
-/

namespace MeterNode

open MeterNode.Text

namespace Uploader

variable {u : Uploader} {b : Batch} {c conn : Connection} {channels : List MeterChannel}
  {now : Instant} {r : Serviced} {t t₁ : Trace Node}

/-! ## What is counted -/

/-- A step failed, which ended the batch and was counted once, or nothing failed and nothing was
counted as failed. -/
inductive Judged (t : Trace Node) (r : Serviced) : Prop where
  | failed (cause : UploadError) : r.progress = .failed cause → r.uploader.batch = none →
      t.failures = 1 → Judged t r
  | other : (∀ cause, r.progress ≠ .failed cause) → t.failures = 0 → Judged t r

theorem Judged.prepend (h : Judged t r) (h₁ : t₁.failures = 0) : Judged (t₁ ++ t) r := by
  cases h with
  | failed cause hp hb hcount =>
    exact .failed cause hp hb (by rw [Trace.failures_append, h₁, hcount])
  | other hp hcount => exact .other hp (by rw [Trace.failures_append, h₁, hcount])

theorem Judged.le_one (h : Judged t r) : t.failures ≤ 1 := by
  cases h with
  | failed _ _ _ hcount => exact Nat.le_of_eq hcount
  | other _ hcount => exact Nat.le_trans (Nat.le_of_eq hcount) (Nat.zero_le 1)

/-- A count that is no failure of an upload. -/
theorem failures_count {tally : Tally} {a : Unit} (h : (Act.count tally).Ends t a) :
    t.failures = if tally.isFailure then 1 else 0 := by
  cases Prog.ends_perform.1 h
  simp only [Trace.failures, Trace.tallies, List.filterMap_cons, List.filterMap_nil, Effect.tally?,
    List.filter_cons, List.filter_nil]
  split <;> rfl

theorem giveUp_judged {cause : UploadError} (h : (u.giveUp cause c channels).Ends t r) :
    Judged t r := by
  obtain ⟨t₁, _, t₂, h₁, h₂, rfl⟩ := Prog.ends_bind.1 h
  obtain ⟨rfl, rfl⟩ := Prog.ends_pure.1 h₂
  rw [List.append_nil]
  exact .failed cause rfl rfl (failures_count h₁)

theorem connectFor_judged (h : (u.connectFor b c channels now).Ends t r) : Judged t r := by
  simp only [connectFor] at h
  split at h
  next =>
    obtain ⟨t₁, _, t₂, h₁, h₂, rfl⟩ := Prog.ends_bind.1 h
    have hlog : t₁.Of [.note] := h₁.of (by simp)
    exact (giveUp_judged h₂).prepend (hlog.failures (by decide))
  next =>
    obtain ⟨t₁, d, t₂, h₁, h₂, rfl⟩ := Prog.ends_bind.1 h
    obtain ⟨rfl, rfl⟩ := Prog.ends_pure.1 h₂
    have hconnect := h₁.of (Connection.connect_kinds (List.Subset.refl _))
    rw [List.append_nil]
    exact .other (fun cause hp => by cases hp) (hconnect.failures (by decide))

theorem write_judged (h : (u.write b c channels now).Ends t r) : Judged t r := by
  obtain ⟨t₁, d, t₂, h₁, h₂, rfl⟩ := Prog.ends_bind.1 h
  have hpost := h₁.of (Connection.post_kinds (List.Subset.refl _))
  refine Judged.prepend ?_ (hpost.failures (by decide))
  split at h₂
  next => exact giveUp_judged h₂
  next =>
    obtain ⟨rfl, rfl⟩ := Prog.ends_pure.1 h₂
    exact .other (fun cause hp => by cases hp) rfl

theorem writeAgain_judged (h : (u.writeAgain b c channels now).Ends t r) : Judged t r := by
  simp only [writeAgain] at h
  split at h
  next =>
    obtain ⟨t₁, d, t₂, h₁, h₂, rfl⟩ := Prog.ends_bind.1 h
    have habandon := h₁.of (Connection.abandon_kinds (List.Subset.refl _))
    exact (giveUp_judged h₂).prepend (habandon.failures (by decide))
  next =>
    obtain ⟨t₁, ⟨resumed, d⟩, t₂, h₁, h₂, rfl⟩ := Prog.ends_bind.1 h
    have hresume := h₁.of (Connection.resume_kinds (List.Subset.refl _))
    exact (write_judged h₂).prepend (hresume.failures (by decide))

theorem proceed_judged (hs : c.state = .init ∨ c.state = .ready ∨ c.state = .retry)
    (h : (u.proceed b c channels now).Ends t r) : Judged t r := by
  rcases hs with hs | hs | hs
  all_goals simp only [proceed, hs] at h
  · exact connectFor_judged h
  · exact write_judged h
  · exact writeAgain_judged h

theorem frame_kinds {kinds : List Effect.Kind} {i : Nat} (h : [.note] ⊆ kinds) :
    Prog.Asks (Effect.Of kinds) (u.frame now i channels) := by
  have hnote : .note ∈ kinds := by simpa using h
  induction channels generalizing i with
  | nil => exact Act.asks_pure
  | cons c rest ih =>
    simp only [frame]
    split
    · simp [ih]
    · split <;> simp [ih, hnote]

theorem advance_judged (hs : c.state = .init ∨ c.state = .ready ∨ c.state = .retry)
    (h : (u.advance c channels now).Ends t r) : Judged t r := by
  simp only [advance] at h
  split at h
  next => exact proceed_judged hs h
  next =>
    obtain ⟨t₁, ⟨found, rest⟩, t₂, h₁, h₂, rfl⟩ := Prog.ends_bind.1 h
    have hframe := h₁.of (frame_kinds (List.Subset.refl _))
    refine Judged.prepend ?_ (hframe.failures (by decide))
    cases found with
    | some b => exact proceed_judged hs h₂
    | none =>
      obtain ⟨rfl, rfl⟩ := Prog.ends_pure.1 h₂
      exact .other (fun cause hp => by cases hp) rfl

theorem evaluate_judged {reply : Bytes} (h : (u.evaluate b reply c channels now).Ends t r) :
    Judged t r := by
  simp only [evaluate] at h
  split at h
  next =>
    obtain ⟨t₁, _, t₂, h₁, h₂, rfl⟩ := Prog.ends_bind.1 h
    obtain ⟨t₃, _, t₄, h₃, h₄, rfl⟩ := Prog.ends_bind.1 h₂
    obtain ⟨rfl, rfl⟩ := Prog.ends_pure.1 h₄
    have hlog : t₃.Of [.note] := h₃.of (by simp)
    refine .other (fun cause hp => by cases hp) ?_
    rw [Trace.failures_append, Trace.failures_append, failures_count h₁, hlog.failures (by decide)]
    rfl
  all_goals
    obtain ⟨t₁, _, t₂, h₁, h₂, rfl⟩ := Prog.ends_bind.1 h
    obtain ⟨t₃, _, t₄, h₃, h₄, rfl⟩ := Prog.ends_bind.1 h₂
    obtain ⟨rfl, rfl⟩ := Prog.ends_pure.1 h₄
    have hlog : t₁.Of [.note] := h₁.of (by simp)
    refine .failed _ rfl rfl ?_
    rw [Trace.failures_append, Trace.failures_append, failures_count h₃, hlog.failures (by decide)]
    rfl

theorem complete_judged (h : (u.complete conn channels now).Ends t r) : Judged t r := by
  obtain ⟨t₁, ⟨reply, d⟩, t₂, h₁, h₂, rfl⟩ := Prog.ends_bind.1 h
  have hreply := h₁.of (Connection.finishReply_kinds (List.Subset.refl _))
  refine Judged.prepend ?_ (hreply.failures (by decide))
  cases hb : u.batch with
  | none =>
    simp only [hb] at h₂
    obtain ⟨t₃, _, t₄, h₃, h₄, rfl⟩ := Prog.ends_bind.1 h₂
    obtain ⟨rfl, rfl⟩ := Prog.ends_pure.1 h₄
    have hlog : t₃.Of [.note] := h₃.of (by simp)
    rw [List.append_nil]
    exact .other (fun cause hp => by cases hp) (hlog.failures (by decide))
  | some b =>
    simp only [hb] at h₂
    exact evaluate_judged h₂

/-- A step fails if and only if it ends a batch that failed. -/
theorem service_judged (hs : conn.state ≠ .server)
    (h : (u.service conn channels now).Ends t r) : Judged t r := by
  cases hstate : conn.state with
  | server => exact absurd hstate hs
  | init =>
    simp only [service, hstate] at h
    exact advance_judged (Or.inl hstate) h
  | ready =>
    simp only [service, hstate] at h
    exact advance_judged (Or.inr (Or.inl hstate)) h
  | retry =>
    simp only [service, hstate] at h
    exact advance_judged (Or.inr (Or.inr hstate)) h
  | error =>
    simp only [service, hstate] at h
    obtain ⟨t₁, d, t₂, h₁, h₂, rfl⟩ := Prog.ends_bind.1 h
    have habandon := h₁.of (Connection.abandon_kinds (List.Subset.refl _))
    have hinit : d.state = .init := by rw [Connection.abandon_gives h₁.gives]
    exact (advance_judged (Or.inl hinit) h₂).prepend (habandon.failures (by decide))
  | dns | connecting | sending =>
    simp only [service, hstate] at h
    obtain ⟨rfl, rfl⟩ := Prog.ends_pure.1 h
    refine .other (fun cause hp => ?_) rfl
    cases hbusy : u.isBusy <;> simp [hbusy] at hp
  | replied =>
    simp only [service, hstate] at h
    exact complete_judged h

/-- On a connection that serves no visitor, a step fails if and only if it counts a batch that
failed. -/
theorem service_failed_iff (hs : conn.state ≠ .server)
    (h : (u.service conn channels now).Ends t r) : r.progress.isFailed = true ↔ t.failures = 1 := by
  cases service_judged hs h with
  | failed cause hp _ hcount => simp [hp, hcount]
  | other hp hcount =>
    rw [hcount]
    cases hprogress : r.progress with
    | failed cause => exact absurd hprogress (hp cause)
    | idle | inFlight | delivered samples => simp

theorem service_serving (hs : conn.state = .server)
    (h : (u.service conn channels now).Ends t r) :
    t = [] ∧ r = ⟨.failed (.notReady .server), u, conn, channels⟩ := by
  simp only [service, hs] at h
  exact Prog.ends_pure.1 h

/-- A step counts one failure at most, and then the batch has ended. -/
theorem service_failures (h : (u.service conn channels now).Ends t r) :
    t.failures ≤ 1 ∧
      (t.failures ≠ 0 → (∃ cause, r.progress = .failed cause) ∧ r.uploader.batch = none) := by
  by_cases hs : conn.state = .server
  · obtain ⟨rfl, -⟩ := service_serving hs h
    exact ⟨Nat.zero_le 1, fun hne => absurd rfl hne⟩
  · have hjudged := service_judged hs h
    refine ⟨hjudged.le_one, fun hne => ?_⟩
    cases hjudged with
    | failed cause hp hb _ => exact ⟨⟨cause, hp⟩, hb⟩
    | other _ hcount => exact absurd hcount hne

/-! ## What is left of the exchange -/

/-- No exchange is under way, or a batch is out. -/
def Settled (r : Serviced) : Prop := r.conn.Lost ∨ r.uploader.batch.isSome

theorem giveUp_settled {cause : UploadError} (hs : c.Lost)
    (h : (u.giveUp cause c channels).Gives r) : Settled r := by
  rw [giveUp_gives h]
  exact Or.inl hs

theorem connectFor_settled (hs : c.Lost) (h : (u.connectFor b c channels now).Gives r) :
    Settled r := by
  simp only [connectFor] at h
  split at h
  next =>
    obtain ⟨_, -, h⟩ := Act.gives_bind.1 h
    exact giveUp_settled hs h
  next =>
    obtain ⟨_, -, h⟩ := Act.gives_bind.1 h
    rw [Act.gives_pure.1 h]
    exact Or.inr rfl

theorem write_settled (hs : c.state = .ready) (h : (u.write b c channels now).Gives r) :
    Settled r := by
  obtain ⟨d, hd, h⟩ := Act.gives_bind.1 h
  rw [if_neg ((Connection.post_gives hd).2 hs)] at h
  rw [Act.gives_pure.1 h]
  exact Or.inr rfl

theorem proceed_settled (h : (u.proceed b c channels now).Gives r) : Settled r := by
  simp only [proceed] at h
  split at h
  next hs => exact connectFor_settled (Or.inl hs) h
  next hs => exact write_settled hs h
  next hs =>
    simp only [writeAgain] at h
    split at h
    next =>
      obtain ⟨d, hd, h⟩ := Act.gives_bind.1 h
      rw [Connection.abandon_gives hd] at h
      exact giveUp_settled (Or.inl rfl) h
    next =>
      obtain ⟨⟨resumed, d⟩, hd, h⟩ := Act.gives_bind.1 h
      have hready := Connection.resume_gives hd
      rw [if_pos hs] at hready
      exact write_settled (congrArg Connection.state hready) h
  next =>
    rw [Act.gives_pure.1 h]
    exact Or.inr rfl

theorem advance_settled (hbefore : c.Lost ∨ u.batch.isSome)
    (h : (u.advance c channels now).Gives r) : Settled r := by
  simp only [advance] at h
  split at h
  next => exact proceed_settled h
  next hb =>
    obtain ⟨⟨found, rest⟩, -, h⟩ := Act.gives_bind.1 h
    cases found with
    | some b => exact proceed_settled h
    | none =>
      rw [Act.gives_pure.1 h]
      exact hbefore

theorem complete_settled (hs : conn.state = .replied)
    (h : (u.complete conn channels now).Gives r) : Settled r := by
  obtain ⟨⟨reply, d⟩, hd, h⟩ := Act.gives_bind.1 h
  have hreply := Connection.finishReply_gives hd
  rw [if_pos hs] at hreply
  have hinit : d.Lost := Or.inl (congrArg Connection.state hreply.2)
  cases hb : u.batch with
  | none =>
    simp only [hb, Act.gives_bind, Act.gives_pure] at h
    obtain ⟨_, -, rfl⟩ := h
    exact Or.inl hinit
  | some b =>
    simp only [hb] at h
    rw [Settled, (evaluate_gives h).2.1]
    exact Or.inl hinit

theorem service_settled (hbefore : conn.Lost ∨ u.batch.isSome)
    (h : (u.service conn channels now).Gives r) : Settled r := by
  cases hs : conn.state with
  | init | ready | retry =>
    simp only [service, hs] at h
    exact advance_settled hbefore h
  | error =>
    simp only [service, hs] at h
    obtain ⟨d, hd, h⟩ := Act.gives_bind.1 h
    rw [Connection.abandon_gives hd] at h
    exact advance_settled (Or.inl (Or.inl rfl)) h
  | server | dns | connecting | sending =>
    simp only [service, hs] at h
    rw [Act.gives_pure.1 h]
    exact hbefore
  | replied =>
    simp only [service, hs] at h
    exact complete_settled hs h

/-! ## What is asked for -/

section Kinds

variable {kinds : List Effect.Kind}

theorem giveUp_kinds {cause : UploadError} (h : [.failure] ⊆ kinds) :
    Prog.Asks (Effect.Of kinds) (u.giveUp cause c channels) := by
  simpa [giveUp, Tally.isFailure] using h

theorem write_kinds (h : [.note, .failure, .send] ⊆ kinds) :
    Prog.Asks (Effect.Of kinds) (u.write b c channels now) := by
  obtain ⟨hnote, hfailure, hsend⟩ : .note ∈ kinds ∧ .failure ∈ kinds ∧ .send ∈ kinds := by
    simpa using h
  have hpost : Prog.Asks (Effect.Of kinds) (c.post b.resource b.payload now) :=
    Connection.post_kinds (by simp [hnote, hsend])
  simp only [write, Act.asks_bind, hpost, true_and]
  rintro d -
  split <;> simp [giveUp_kinds, hfailure]

theorem proceed_kinds (h : [.note, .failure, .socket, .dial, .send] ⊆ kinds) :
    Prog.Asks (Effect.Of kinds) (u.proceed b c channels now) := by
  obtain ⟨hnote, hfailure, hsocket, hdial, hsend⟩ : .note ∈ kinds ∧ .failure ∈ kinds ∧
    .socket ∈ kinds ∧ .dial ∈ kinds ∧ .send ∈ kinds := by simpa using h
  simp only [proceed]
  split
  next =>
    simp only [connectFor]
    split <;> simp [giveUp_kinds, Connection.connect_kinds, hnote, hfailure, hsocket, hdial]
  next => exact write_kinds (by simp [hnote, hfailure, hsend])
  next =>
    simp only [writeAgain]
    split <;>
      simp [giveUp_kinds, Connection.abandon_kinds, Connection.resume_kinds, write_kinds, hnote,
        hfailure, hsocket, hsend]
  next => exact Act.asks_pure

theorem advance_kinds (h : [.note, .failure, .socket, .dial, .send] ⊆ kinds) :
    Prog.Asks (Effect.Of kinds) (u.advance c channels now) := by
  have hnotes : [.note] ⊆ kinds := List.Subset.trans (by decide) h
  simp only [advance]
  split
  next => exact proceed_kinds h
  next =>
    simp only [Act.asks_bind, frame_kinds hnotes, true_and]
    rintro ⟨found, rest⟩ -
    cases found <;> simp [proceed_kinds h]

theorem service_kinds (h : [.note, .failure, .socket, .dial, .send] ⊆ kinds) :
    Prog.Asks (Effect.Of kinds) (u.service conn channels now) := by
  obtain ⟨hnote, hfailure, hsocket, -⟩ : .note ∈ kinds ∧ .failure ∈ kinds ∧ .socket ∈ kinds ∧
    .dial ∈ kinds ∧ .send ∈ kinds := by simpa using h
  have hclose : [.note, .socket] ⊆ kinds := by simp [hnote, hsocket]
  simp only [service]
  split
  case h_5 =>
    simp only [complete, evaluate, Act.asks_bind, Connection.finishReply_kinds hclose, true_and]
    rintro r -
    split
    · simp [hnote]
    · split <;> simp [Tally.isFailure, hnote, hfailure]
  all_goals simp [advance_kinds h, Connection.abandon_kinds hclose]

end Kinds

end Uploader

end MeterNode
