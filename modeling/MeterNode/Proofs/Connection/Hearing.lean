import MeterNode.Proofs.Connection.Registry

/-!
# Connections and their reports

`Connection.Heard` says what a connection may have become after some reports, and `Registry.Heard`
that each connection of a registry has been through its own reports and through nothing else.

Waiting for a lookup leaves the connections to their reports, except that a lookup still out at the
end is given up together with its socket (`Registry.awaitDns_ends`).  No report begins a lookup, so
a connection with its lookup still out has not changed at all (`Connection.Heard.pending`).  Hence
the exception can be told from the connection alone.
-/

namespace MeterNode

namespace Connection

variable {c d : Connection} {kind : EventKind} {now : Instant} {started : Bool}

/-- The connection after some reports, which are applied in order, each at some time. -/
inductive Heard : Connection → List TransportEvent → Connection → Prop where
  | nil (c : Connection) : Heard c [] c
  | cons {c d : Connection} {event : TransportEvent} {rest : List TransportEvent} (now : Instant)
      {res : EventOutcome × Connection} : (c.applyEvent event.source event.kind now).Gives res →
      Heard res.2 rest d → Heard c (event :: rest) d

theorem Heard.append {e : Connection} {events rest : List TransportEvent}
    (h : Heard c events d) (hrest : Heard d rest e) : Heard c (events ++ rest) e := by
  induction h with
  | nil => exact hrest
  | cons now hr _ ih => exact .cons now hr (ih hrest)

/-! ## Lookups -/

/-- A report that leaves a lookup out does nothing, whenever it comes. -/
theorem after_pending (h : (c.after kind now started).state = .dns) (now' : Instant)
    (started' : Bool) : c.after kind now' started' = c := by
  cases kind with
  | dnsFound address =>
    simp only [after, afterLookup] at h ⊢
    split at h
    next =>
      split at h
      · cases started <;> cases h
      · cases h
    next hs => exact if_neg hs
  | connected result =>
    cases result with
    | ok u =>
      simp only [after] at h ⊢
      split at h
      next => cases h
      next hs => exact if_neg hs
    | error e => cases h
  | received chunk =>
    simp only [after] at h ⊢
    split at h
    next hempty => exact if_pos hempty
    next hempty =>
      rw [if_neg hempty]
      split at h
      case h_5 => rfl
      all_goals cases h
  | sent length =>
    simp only [after] at h ⊢
    split at h
    case h_3 => rfl
    all_goals cases h
  | poll =>
    simp only [after] at h ⊢
    split at h
    next => cases h
    next =>
      -- Neither a connect nor a send is under way, so there is nothing to time out.
      have hnever : c.overdue now' = none := by simp [overdue, startedAt, h]
      rw [hnever]
      exact if_neg (by simp)
  | peerClosed | error => cases h
  | accepted result => cases result <;> cases h

theorem applyEvent_pending {source : Option Handle} {res res' : EventOutcome × Connection}
    (h : (c.applyEvent source kind now).Gives res) (hs : res.2.state = .dns) {now' : Instant}
    (h' : (c.applyEvent source kind now').Gives res') : res'.2 = c := by
  rcases applyEvent_gives h' with ⟨hhears, ⟨started', hafter'⟩, -⟩ | ⟨-, hsame, -⟩
  · rcases applyEvent_gives h with ⟨-, ⟨started, hafter⟩, -⟩ | ⟨hdeaf, -⟩
    · rw [hafter] at hs
      rw [hafter', after_pending hs]
    · exact absurd hhears hdeaf
  · exact hsame

/-- A connection with its lookup still out has not changed, and could not have become another. -/
theorem Heard.pending {events : List TransportEvent} (h : Heard c events d) (hs : d.state = .dns) :
    d = c ∧ ∀ {d'}, Heard c events d' → d' = c := by
  induction h with
  | nil =>
    refine ⟨rfl, fun h' => ?_⟩
    cases h'
    rfl
  | cons now hr _ ih =>
    obtain ⟨rfl, hunique⟩ := ih hs
    have hsame := applyEvent_pending hr hs hr
    refine ⟨hsame, fun h' => ?_⟩
    cases h' with
    | cons now' hr' hrest =>
      rw [applyEvent_pending hr hs hr', ← hsame] at hrest
      rw [hunique hrest, hsame]

end Connection

namespace Registry

variable {r r₁ r₂ : Registry} {id : ConnId} {c : Connection} {t : Trace Node}

/-- Every connection has been through the reports for it, and through nothing else. -/
def Heard (r : Registry) (events : List TransportEvent) (r₁ : Registry) : Prop :=
  ∀ id c, r.get? id = some c → ∃ d, r₁.get? id = some d ∧
    c.Heard (events.filter (·.conn = id)) d

theorem Heard.refl (r : Registry) : r.Heard [] r := by
  intro id c hc
  exact ⟨c, hc, .nil c⟩

theorem Heard.append {events rest : List TransportEvent} (h : r.Heard events r₁)
    (hrest : r₁.Heard rest r₂) : r.Heard (events ++ rest) r₂ := by
  intro id c hc
  obtain ⟨d, hd, hheard⟩ := h id c hc
  obtain ⟨e, he, hheard'⟩ := hrest id d hd
  rw [List.filter_append]
  exact ⟨e, he, hheard.append hheard'⟩

/-! ## Reports -/

section Kinds

variable {kinds : List Effect.Kind} {now : Instant}

/-- A report that finds no lookup out makes nobody dial. -/
theorem dispatch_kinds {event : TransportEvent} (h : [.note, .socket] ⊆ kinds)
    (hdial : ∀ c, r.get? event.conn = some c → c.state = .dns → .dial ∈ kinds) :
    Prog.Asks (Effect.Of kinds) (r.dispatch event now) := by
  obtain ⟨hnote, -⟩ : .note ∈ kinds ∧ .socket ∈ kinds := by simpa using h
  simp only [dispatch]
  split
  next => simp [hnote]
  next c hget =>
    simp only [Act.asks_bind, Connection.applyEvent_kinds h (hdial c hget), true_and]
    rintro ⟨outcome, c⟩ -
    cases outcome with
    | handled | ignored => exact Act.asks_pure
    | request chunk =>
      simp only [enqueue]
      split <;> simp [hnote]

theorem dispatchAll_kinds {events : List TransportEvent} (h : [.note, .socket, .dial] ⊆ kinds) :
    Prog.Asks (Effect.Of kinds) (r.dispatchAll events now) := by
  obtain ⟨hnote, hsocket, hdial⟩ : .note ∈ kinds ∧ .socket ∈ kinds ∧ .dial ∈ kinds := by
    simpa using h
  induction events generalizing r with
  | nil => exact Act.asks_pure
  | cons event rest ih =>
    have hone : Prog.Asks (Effect.Of kinds) (r.dispatch event now) :=
      dispatch_kinds (by simp [hnote, hsocket]) fun _ _ _ => hdial
    simp [dispatchAll, hone, ih]

end Kinds

@[simp] theorem dispatchAll_quiet {events : List TransportEvent} {now : Instant} :
    Prog.Asks Effect.Quiet (r.dispatchAll events now) :=
  (dispatchAll_kinds (List.Subset.refl _)).quiet (by decide) (by decide)

theorem dispatch_heard {event : TransportEvent} {now : Instant} (hplaced : r.Placed)
    (h : (r.dispatch event now).Gives r₁) : r.Heard [event] r₁ ∧ r₁.Placed := by
  rcases dispatch_gives h with ⟨hnone, rfl⟩ | ⟨c, res, hget, hres, queued, rfl, -⟩
  · refine ⟨fun id c hc => ⟨c, hc, ?_⟩, hplaced⟩
    have hother : event.conn ≠ id := by
      rintro rfl
      rw [hnone] at hc
      cases hc
    rw [List.filter_cons_of_neg (by simpa using hother)]
    exact .nil c
  · have hid : res.2.id = event.conn := by
      rw [Connection.applyEvent_id hres]
      exact hplaced event.conn c hget
    refine ⟨fun id d hd => ?_, hplaced.set res.2⟩
    have hset := get?_set (r := r) res.2 id
    rw [hid] at hset
    by_cases hother : id = event.conn
    · subst hother
      rw [if_pos rfl, hget] at hset
      rw [hget, Option.some.injEq] at hd
      subst hd
      refine ⟨res.2, hset, ?_⟩
      rw [List.filter_cons_of_pos (by simp)]
      exact .cons now hres (.nil res.2)
    · rw [if_neg hother, hd] at hset
      refine ⟨d, hset, ?_⟩
      rw [List.filter_cons_of_neg (by simpa using Ne.symm hother)]
      exact .nil d

theorem dispatchAll_heard {events : List TransportEvent} {now : Instant} (hplaced : r.Placed)
    (h : (r.dispatchAll events now).Gives r₁) : r.Heard events r₁ ∧ r₁.Placed := by
  induction events generalizing r with
  | nil =>
    simp only [dispatchAll, Act.gives_pure] at h
    subst h
    exact ⟨.refl r₁, hplaced⟩
  | cons event rest ih =>
    simp only [dispatchAll, Act.gives_bind] at h
    obtain ⟨r₂, h₂, h₁⟩ := h
    obtain ⟨hheard₂, hplaced₂⟩ := dispatch_heard hplaced h₂
    obtain ⟨hheard₁, hplaced₁⟩ := ih hplaced₂ h₁
    exact ⟨hheard₂.append hheard₁, hplaced₁⟩

/-- A pump applies all reports that it takes. -/
theorem pump_ends {now : Instant} {res : Nat × Registry} (hplaced : r.Placed)
    (h : (r.pump now).Ends t res) : r.Heard t.reports res.2 ∧ res.2.Placed ∧ ¬ t.Deaf := by
  obtain ⟨t₁, events, t₂, h₁, h₂, rfl⟩ := Prog.ends_bind.1 h
  obtain ⟨events', t₃, rfl, h₃⟩ := Prog.ends_ask.1 h₁
  obtain ⟨rfl, rfl⟩ := Prog.ends_pure.1 h₃
  obtain ⟨t₄, r₁, t₅, h₄, h₅, rfl⟩ := Prog.ends_bind.1 h₂
  obtain ⟨rfl, rfl⟩ := Prog.ends_pure.1 h₅
  obtain ⟨hheard, hplaced₁⟩ := dispatchAll_heard hplaced h₄.gives
  refine ⟨?_, hplaced₁, fun hdeaf => hdeaf _ (List.mem_cons_self ..)⟩
  have hreports : Trace.reports
      ([⟨Effect.takeEvents, events⟩] ++ (t₄ ++ [])) = events := by
    rw [List.append_nil, Trace.reports_append, h₄.reports_eq_nil dispatchAll_quiet.deaf,
      List.append_nil]
    exact List.append_nil events
  rw [hreports]
  exact hheard

/-! ## Waiting for a lookup -/

/-- The end of a wait: the connection has its lookup no longer out, or starts over without its
socket. -/
inductive Ended (id : ConnId) (r : Registry) : Registry → Prop where
  | answered : r.state? id ≠ some .dns → Ended id r r
  | givenUp {c : Connection} : r.get? id = some c → c.state = .dns →
      Ended id r (r.set { c.released with state := .init })

theorem Ended.placed (h : r.Ended id r₁) (hplaced : r.Placed) : r₁.Placed := by
  cases h with
  | answered => exact hplaced
  | givenUp => exact hplaced.set _

theorem giveUpDns_gives {waitedMs : Nat} {res : ConnState × Registry}
    (h : (r.giveUpDns id waitedMs).Gives res) : r.Ended id res.2 := by
  simp only [giveUpDns] at h
  split at h
  next hget =>
    simp only [Act.gives_pure] at h
    subst h
    exact .answered (by simp [state?, hget])
  next c hget =>
    split at h
    next hs =>
      simp only [Act.gives_pure] at h
      subst h
      exact .answered (by simpa [state?, hget] using hs)
    next hs =>
      simp only [Act.gives_bind, Act.gives_pure] at h
      obtain ⟨_, -, d, hd, rfl⟩ := h
      rw [Connection.abandon_gives hd]
      exact .givenUp hget (Classical.not_not.1 hs)

section Kinds

variable {kinds : List Effect.Kind}

theorem giveUpDns_kinds {waitedMs : Nat} (h : [.note, .socket] ⊆ kinds) :
    Prog.Asks (Effect.Of kinds) (r.giveUpDns id waitedMs) := by
  obtain ⟨hnote, -⟩ : .note ∈ kinds ∧ .socket ∈ kinds := by simpa using h
  simp only [giveUpDns]
  split
  next => exact Act.asks_pure
  next => split <;> simp [Connection.abandon_kinds h, hnote]

theorem pump_kinds {now : Instant} (h : [.note, .socket, .dial, .reports] ⊆ kinds) :
    Prog.Asks (Effect.Of kinds) (r.pump now) := by
  obtain ⟨hnote, hsocket, hdial, hreports⟩ : .note ∈ kinds ∧ .socket ∈ kinds ∧ .dial ∈ kinds ∧
    .reports ∈ kinds := by simpa using h
  simp [pump, dispatchAll_kinds, hnote, hsocket, hdial, hreports]

theorem awaitDns_kinds {now : Instant} (h : [.note, .time, .socket, .dial, .reports] ⊆ kinds) :
    Prog.Asks (Effect.Of kinds) (r.awaitDns id now) := by
  obtain ⟨hnote, htime, hsocket, hdial, hreports⟩ : .note ∈ kinds ∧ .time ∈ kinds ∧
    .socket ∈ kinds ∧ .dial ∈ kinds ∧ .reports ∈ kinds := by simpa using h
  have hslices (slices waitedMs : Nat) :
      Prog.Asks (Effect.Of kinds) (awaitSlices id now slices waitedMs r) := by
    induction slices generalizing r waitedMs with
    | zero => simp [awaitSlices, giveUpDns_kinds, hnote, hsocket]
    | succ slices ih =>
      simp only [awaitSlices]
      split <;> simp [pump_kinds, ih, hnote, htime, hsocket, hdial, hreports]
  exact hslices r.dnsSlices 0

end Kinds

@[simp] theorem giveUpDns_quiet {waitedMs : Nat} :
    Prog.Asks Effect.Quiet (r.giveUpDns id waitedMs) :=
  (giveUpDns_kinds (List.Subset.refl _)).quiet (by decide) (by decide)

/-- The connections are left to their reports until the wait ends. -/
theorem awaitSlices_ends {start : Instant} {slices waitedMs : Nat} {res : ConnState × Registry}
    (hplaced : r.Placed) (h : (awaitSlices id start slices waitedMs r).Ends t res) :
    ∃ r₁, r.Heard t.reports r₁ ∧ r₁.Placed ∧ r₁.Ended id res.2 := by
  induction slices generalizing r waitedMs t with
  | zero =>
    refine ⟨r, ?_, hplaced, giveUpDns_gives h.gives⟩
    rw [h.reports_eq_nil giveUpDns_quiet.deaf]
    exact .refl r
  | succ slices ih =>
    simp only [awaitSlices] at h
    split at h
    next hs =>
      obtain ⟨rfl, rfl⟩ := Prog.ends_pure.1 h
      exact ⟨r, .refl r, hplaced, .answered (by simp [hs])⟩
    next =>
      obtain ⟨t₁, _, t₂, h₁, h₂, rfl⟩ := Prog.ends_bind.1 h
      obtain ⟨t₃, ⟨n, r₂⟩, t₄, h₃, h₄, rfl⟩ := Prog.ends_bind.1 h₂
      obtain ⟨hheard₂, hplaced₂, -⟩ := pump_ends hplaced h₃
      obtain ⟨r₁, hheard₁, hplaced₁, hended⟩ := ih hplaced₂ h₄
      refine ⟨r₁, ?_, hplaced₁, hended⟩
      rw [Trace.reports_append, Trace.reports_append, h₁.reports_eq_nil (by simp),
        List.nil_append]
      exact hheard₂.append hheard₁
    next state hs hstate =>
      obtain ⟨rfl, rfl⟩ := Prog.ends_pure.1 h
      refine ⟨r, .refl r, hplaced, .answered fun hdns => ?_⟩
      rw [hstate, Option.some.injEq] at hdns
      exact hs hdns

/-- A wait for a lookup that is out takes reports. -/
theorem awaitDns_listens {now : Instant} {res : ConnState × Registry} (hplaced : r.Placed)
    (hs : r.state? id = some .dns) (h : (r.awaitDns id now).Ends t res) : ¬ t.Deaf := by
  obtain ⟨slices, hslices⟩ : ∃ n, r.dnsSlices = n + 1 :=
    Nat.exists_eq_succ_of_ne_zero (Nat.ne_of_gt (Nat.le_max_right ..))
  simp only [awaitDns, hslices, awaitSlices, hs] at h
  obtain ⟨t₁, _, t₂, -, h₂, rfl⟩ := Prog.ends_bind.1 h
  obtain ⟨t₃, ⟨n, r₂⟩, t₄, h₃, -, rfl⟩ := Prog.ends_bind.1 h₂
  obtain ⟨-, -, hlistens⟩ := pump_ends hplaced h₃
  intro hdeaf
  exact hlistens (Trace.deaf_append.1 (Trace.deaf_append.1 hdeaf).2).1

theorem awaitDns_ends {now : Instant} {res : ConnState × Registry} (hplaced : r.Placed)
    (h : (r.awaitDns id now).Ends t res) :
    ∃ r₁, r.Heard t.reports r₁ ∧ r₁.Placed ∧ r₁.Ended id res.2 :=
  awaitSlices_ends hplaced h

@[simp] theorem pump_mute {now : Instant} : Prog.Asks Effect.Mute (r.pump now) := by
  simp [pump, dispatchAll_quiet.mute]

@[simp] theorem awaitSlices_mute {start : Instant} {slices waitedMs : Nat} :
    Prog.Asks Effect.Mute (awaitSlices id start slices waitedMs r) := by
  induction slices generalizing r waitedMs with
  | zero => exact giveUpDns_quiet.mute
  | succ slices ih =>
    simp only [awaitSlices]
    split <;> simp [ih]

@[simp] theorem awaitDns_mute {now : Instant} : Prog.Asks Effect.Mute (r.awaitDns id now) :=
  awaitSlices_mute

end Registry

end MeterNode
