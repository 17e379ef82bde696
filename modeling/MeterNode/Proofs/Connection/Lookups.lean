import MeterNode.Proofs.Connection.Client
import MeterNode.Proofs.Connection.Hearing

/-!
# Lookups that are out

While a connection is in `Dns`, its lookup is out.  Only a connect begins one, and notes the time.
So whatever operations a connection goes through at one time, if its lookup is out at the end then
the connection has not changed, or the lookup was begun at that time (`Connection.act_pending`).

Reports, timeouts and the end of an exchange are all that happens to a connection outside the steps
of its uploads.  `Registry.From` says of a registry that each of its connections came from the one
at its place in a way that such a `Connection.Passive` relation describes.

One of these relations is that no lookup is begun: `Registry.NoneBegun` says that every lookup that
is out was out before.  A wait for a lookup ends with the lookup no longer out.
-/

namespace MeterNode

namespace Connection

variable {c d : Connection} {now : Instant} {t : Trace Node} {op : Operation}

/-- If the lookup of a connection is out behind an operation, the operation has begun it or left the
connection alone. -/
theorem act_pending (h : (op.act c now).Gives d) (hs : d.state = .dns) :
    d = c ∨ d.connectStarted = some now := by
  cases op with
  | connect =>
    rcases connect_gives h with rfl | ⟨-, -, houtcome⟩
    · exact Or.inl rfl
    · rcases houtcome with hinit | herror | ⟨-, -, hstarted⟩
      · rw [hinit] at hs
        cases hs
      · rw [herror] at hs
        cases hs
      · exact Or.inr hstarted
  | abandon reason =>
    rw [abandon_gives h] at hs
    cases hs
  | post resource payload =>
    cases post_gives_posted h with
    | skipped => exact Or.inl rfl
    | lost | written | deferred => cases hs
  | resume =>
    obtain ⟨r, hr, h⟩ := Act.gives_bind.1 h
    cases Act.gives_pure.1 h
    rw [resume_gives hr] at hs ⊢
    split at hs
    next => cases hs
    next hstate => exact Or.inl (if_neg hstate)
  | finishReply =>
    obtain ⟨r, hr, h⟩ := Act.gives_bind.1 h
    cases Act.gives_pure.1 h
    have hreply := finishReply_gives hr
    split at hreply
    next =>
      rw [hreply.2] at hs
      cases hs
    next =>
      left
      rw [hreply]
  | checkTimeout =>
    obtain ⟨r, hr, h⟩ := Act.gives_bind.1 h
    cases Act.gives_pure.1 h
    rw [checkTimeout_gives hr] at hs ⊢
    exact Or.inl (after_pending hs now true)
  | event source kind =>
    obtain ⟨r, hr, h⟩ := Act.gives_bind.1 h
    cases Act.gives_pure.1 h
    exact Or.inl (applyEvent_pending hr hs hr)

theorem Operated.pending (h : Operated now c t d) (hs : d.state = .dns) :
    d = c ∨ d.connectStarted = some now := by
  refine h.induct (P := fun c d => d.state = .dns → d = c ∨ d.connectStarted = some now)
    (fun c _ => Or.inl rfl) ?_ (fun op c d hop => act_pending hop) hs
  intro c d e hcd hde he
  rcases hde he with rfl | hstarted
  · exact hcd he
  · exact Or.inr hstarted

/-- A relation in which every connection is to itself, and to what becomes of it by reports,
timeouts and the end of its exchange. -/
structure Passive (P : Connection → Connection → Prop) : Prop where
  refl : ∀ c, P c c
  trans : ∀ {c d e : Connection}, P c d → P d e → P c e
  after : ∀ c kind now started, P c (c.after kind now started)
  abandoned : ∀ c : Connection, P c { c.released with state := .init }

/-- If the lookup of a connection is out, the connection has not changed. -/
def SameLookup (c d : Connection) : Prop := d.state = .dns → d = c

theorem sameLookup_passive : Passive SameLookup where
  refl _ _ := rfl
  trans hcd hde he := by
    cases hde he
    exact hcd he
  after _ _ now started hs := after_pending hs now started
  abandoned _ hs := by cases hs

end Connection

namespace Registry

variable {r r₁ r₂ : Registry} {id : ConnId} {c d : Connection} {now : Instant} {t : Trace Node}

/-- The lookup of the connection at a place is out. -/
def Pending (r : Registry) (id : ConnId) (c : Connection) : Prop :=
  r.get? id = some c ∧ c.state = .dns

/-- Every lookup that is out was out before, and its connection has not changed. -/
def NoneBegun (r r₁ : Registry) : Prop := ∀ id c, r₁.Pending id c → r.Pending id c

theorem NoneBegun.refl (r : Registry) : NoneBegun r r := fun _ _ h => h

theorem NoneBegun.trans (h : NoneBegun r r₁) (h' : NoneBegun r₁ r₂) : NoneBegun r r₂ :=
  fun id c hc => h id c (h' id c hc)

/-- A connection whose lookup is out after it was put into its place. -/
theorem Pending.of_set (h : (r.set d).Pending id c) :
    r.Pending id c ∨ id = d.id ∧ c = d := by
  obtain ⟨hget, hs⟩ := h
  rw [get?_set] at hget
  split at hget
  next hid =>
    obtain ⟨x, -, rfl⟩ := Option.map_eq_some_iff.1 hget
    exact Or.inr ⟨hid, rfl⟩
  next => exact Or.inl ⟨hget, hs⟩

/-- Every connection came from the one at its place, and the two are in a relation. -/
def From (P : Connection → Connection → Prop) (r r₁ : Registry) : Prop :=
  ∀ id d, r₁.get? id = some d → ∃ c, r.get? id = some c ∧ P c d

theorem From.noneBegun (h : From Connection.SameLookup r r₁) : NoneBegun r r₁ := by
  rintro id d ⟨hget, hs⟩
  obtain ⟨c, hget', hsame⟩ := h id d hget
  cases hsame hs
  exact ⟨hget', hs⟩

section From

variable {P : Connection → Connection → Prop}

theorem From.refl (hP : Connection.Passive P) (r : Registry) : From P r r :=
  fun _ d hget => ⟨d, hget, hP.refl d⟩

theorem From.trans (hP : Connection.Passive P) (h : From P r r₁) (h' : From P r₁ r₂) :
    From P r r₂ := by
  intro id e hget
  obtain ⟨d, hget', hde⟩ := h' id e hget
  obtain ⟨c, hget'', hcd⟩ := h id d hget'
  exact ⟨c, hget'', hP.trans hcd hde⟩

theorem from_set (hP : Connection.Passive P) (hget : r.get? d.id = some c) (hcd : P c d) :
    From P r (r.set d) := by
  intro id x hx
  rw [get?_set] at hx
  split at hx
  next hid =>
    obtain ⟨y, -, rfl⟩ := Option.map_eq_some_iff.1 hx
    exact ⟨c, by rw [hid, hget], hcd⟩
  next => exact ⟨x, hx, hP.refl x⟩

/-! ## Reports -/

theorem dispatch_from {event : TransportEvent} (hP : Connection.Passive P) (hplaced : r.Placed)
    (h : (r.dispatch event now).Gives r₁) : From P r r₁ := by
  rcases dispatch_gives h with ⟨-, rfl⟩ | ⟨c, res, hget, hres, queued, rfl, -⟩
  · exact .refl hP r₁
  · have hid : res.2.id = event.conn := by
      rw [Connection.applyEvent_id hres]
      exact hplaced event.conn c hget
    have hcd : P c res.2 := by
      rcases Connection.applyEvent_gives hres with ⟨-, ⟨started, hafter⟩, -⟩ | ⟨-, hsame, -⟩
      · rw [hafter]
        exact hP.after c event.kind now started
      · rw [hsame]
        exact hP.refl c
    rw [← hid] at hget
    exact from_set hP hget hcd

theorem dispatchAll_from {events : List TransportEvent} (hP : Connection.Passive P)
    (hplaced : r.Placed) (h : (r.dispatchAll events now).Gives r₁) : From P r r₁ := by
  induction events generalizing r with
  | nil =>
    simp only [dispatchAll, Act.gives_pure] at h
    rw [h]
    exact .refl hP r
  | cons event rest ih =>
    simp only [dispatchAll, Act.gives_bind] at h
    obtain ⟨r₂, h₁, h₂⟩ := h
    exact (dispatch_from hP hplaced h₁).trans hP (ih (dispatch_heard hplaced h₁).2 h₂)

theorem pump_from {res : Nat × Registry} (hP : Connection.Passive P) (hplaced : r.Placed)
    (h : (r.pump now).Gives res) : From P r res.2 ∧ res.2.Placed := by
  simp only [pump, Act.gives_bind, Act.gives_pure] at h
  obtain ⟨events, -, r₁, h₁, rfl⟩ := h
  exact ⟨dispatchAll_from hP hplaced h₁, (dispatchAll_heard hplaced h₁).2⟩

/-! ## Waiting -/

theorem Ended.from_ended (h : r.Ended id r₁) (hP : Connection.Passive P) (hplaced : r.Placed) :
    From P r r₁ := by
  cases h with
  | answered => exact .refl hP r
  | @givenUp c hget _ =>
    have hid : c.released.id = id := (Connection.released_id c).trans (hplaced id c hget)
    have hget' : r.get? c.released.id = some c := by rw [hid, hget]
    exact from_set hP hget' (hP.abandoned c)

/-- A wait for a lookup ends with the lookup no longer out. -/
theorem Ended.state? (h : r.Ended id r₁) (hplaced : r.Placed) : r₁.state? id ≠ some .dns := by
  cases h with
  | answered hs => exact hs
  | @givenUp c hget _ =>
    have hid : c.released.id = id := (Connection.released_id c).trans (hplaced id c hget)
    rw [Registry.state?, get?_set, if_pos hid.symm, hget]
    simp

theorem awaitSlices_from {start : Instant} {slices waitedMs : Nat} {res : ConnState × Registry}
    (hP : Connection.Passive P) (hplaced : r.Placed)
    (h : (awaitSlices id start slices waitedMs r).Gives res) : From P r res.2 := by
  induction slices generalizing r waitedMs with
  | zero => exact (giveUpDns_gives h).from_ended hP hplaced
  | succ slices ih =>
    simp only [awaitSlices] at h
    split at h
    next =>
      rw [Act.gives_pure.1 h]
      exact .refl hP r
    next =>
      simp only [Act.gives_bind] at h
      obtain ⟨_, -, ⟨n, r₁⟩, h₁, h₂⟩ := h
      obtain ⟨hfrom, hplaced₁⟩ := pump_from hP hplaced h₁
      exact hfrom.trans hP (ih hplaced₁ h₂)
    next =>
      rw [Act.gives_pure.1 h]
      exact .refl hP r

/-! ## Housekeeping -/

/-- Every connection becomes what the change of it gives. -/
theorem eachConnection_getElem? {f : Connection → Act Connection} {cs ds : List Connection}
    {i : Nat} (h : (eachConnection f cs).Gives ds) (hd : ds[i]? = some d) :
    ∃ c, cs[i]? = some c ∧ (f c).Gives d := by
  induction cs generalizing ds i with
  | nil =>
    simp only [eachConnection, Act.gives_pure] at h
    rw [h] at hd
    cases hd
  | cons c rest ih =>
    simp only [eachConnection, Act.gives_bind, Act.gives_pure] at h
    obtain ⟨d', hd', ds, hds, rfl⟩ := h
    cases i with
    | zero =>
      cases hd
      exact ⟨c, rfl, hd'⟩
    | succ i => exact ih hds hd

theorem pollAll_from (hP : Connection.Passive P) (h : (r.pollAll now).Gives r₁) : From P r r₁ := by
  simp only [pollAll, Act.gives_bind, Act.gives_pure] at h
  obtain ⟨ds, hds, rfl⟩ := h
  intro id d hget
  obtain ⟨c, hc, hd⟩ := eachConnection_getElem? hds hget
  simp only [Act.gives_bind, Act.gives_pure] at hd
  obtain ⟨res, hres, rfl⟩ := hd
  rw [Connection.checkTimeout_gives hres]
  exact ⟨c, hc, hP.after c .poll now true⟩

theorem releaseAll_from (hP : Connection.Passive P) (h : r.releaseAll.Gives r₁) : From P r r₁ := by
  simp only [releaseAll, Act.gives_bind, Act.gives_pure] at h
  obtain ⟨ds, hds, rfl⟩ := h
  intro id d hget
  obtain ⟨c, hc, hd⟩ := eachConnection_getElem? hds hget
  refine ⟨c, hc, ?_⟩
  split at hd
  next =>
    rw [Connection.abandon_gives hd]
    exact hP.abandoned c
  next =>
    rw [Act.gives_pure.1 hd]
    exact hP.refl c

end From

end Registry

end MeterNode
