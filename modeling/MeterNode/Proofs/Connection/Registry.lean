import MeterNode.Connection.Registry
import MeterNode.Proofs.Connection.Operations

/-!
# What operations leave of the registry

Connections stay at their places (`Placed`): a report changes the connection it concerns and may
add a request to the queue (`dispatch_gives`).

Requests are answered one after the other (`answerRequests_ends`).  For a connection that serves
nobody nothing is written (`answerOne_unserved`); otherwise the reply goes to the socket that the
connection holds at that time (`answerOne_served`).
-/

namespace MeterNode

open MeterNode.Text

namespace Connection

variable {c : Connection} {kind : EventKind} {now : Instant} {started : Bool}

theorem afterLookup_state {address : Option Address} :
    (c.afterLookup address now started).state ≠ .server := by
  simp only [afterLookup]
  split
  · cases started <;> simp
  · simp

/-- A connection serves a visitor only because it has just accepted him, or because it served him
before and nothing has changed. -/
theorem after_serving (h : (c.after kind now started).state = .server) :
    (∃ handle, kind = .accepted (.ok handle)) ∨
      c.state = .server ∧ c.after kind now started = c := by
  cases kind with
  | dnsFound address =>
    right
    simp only [after] at h ⊢
    split at h
    next => exact absurd h afterLookup_state
    next hs => exact ⟨h, if_neg hs⟩
  | connected result =>
    right
    cases result with
    | ok u =>
      simp only [after] at h ⊢
      split at h
      next => cases h
      next hs => exact ⟨h, if_neg hs⟩
    | error e => cases h
  | received chunk =>
    right
    simp only [after] at h ⊢
    split at h
    next hempty => exact ⟨h, if_pos hempty⟩
    next hempty =>
      rw [if_neg hempty]
      split at h
      case h_5 => exact ⟨h, rfl⟩
      all_goals cases h
  | peerClosed => cases h
  | sent length =>
    right
    simp only [after] at h ⊢
    split at h
    case h_3 => exact ⟨h, rfl⟩
    all_goals cases h
  | poll =>
    right
    simp only [after] at h ⊢
    split at h
    next => cases h
    next hlate => exact ⟨h, if_neg hlate⟩
  | error e => cases h
  | accepted result =>
    cases result with
    | ok handle => exact Or.inl ⟨handle, rfl⟩
    | error e => cases h

end Connection

namespace Registry

variable {r r' : Registry} {c d : Connection} {id : ConnId}

/-- Every connection is at the place that is its identity. -/
def Placed (r : Registry) : Prop := ∀ id c, r.get? id = some c → c.id = id

theorem toNat_index_inj {a b : ConnId} : a.index.toNat = b.index.toNat ↔ a = b := by
  constructor
  · intro h
    cases a
    cases b
    simpa using UInt8.toNat_inj.1 h
  · rintro rfl
    rfl

theorem get?_set (c : Connection) (id : ConnId) :
    (r.set c).get? id = if id = c.id then (r.get? id).map fun _ => c else r.get? id := by
  simp only [get?, set]
  rw [List.getElem?_set']
  by_cases h : id = c.id
  · rw [if_pos h, if_pos (toNat_index_inj.2 h.symm)]
    rfl
  · rw [if_neg h, if_neg fun hindex => h (toNat_index_inj.1 hindex).symm]

theorem Placed.set (h : r.Placed) (c : Connection) : (r.set c).Placed := by
  intro id d hd
  rw [get?_set] at hd
  split at hd
  next hid =>
    cases hget : r.get? id with
    | none => simp [hget] at hd
    | some _ =>
      rw [hget, Option.map_some, Option.some.injEq] at hd
      rw [← hd, hid]
  next => exact h id d hd

/-- Every connection has the number of its place. -/
def Indexed (r : Registry) : Prop :=
  ∀ (i : Nat) (c : Connection), r.connections[i]? = some c → c.id.index.toNat = i

theorem Indexed.placed (h : r.Indexed) : r.Placed := fun id c hget =>
  toNat_index_inj.1 (h id.index.toNat c hget)

theorem Indexed.get? {i : Nat} (h : r.Indexed) (hc : r.connections[i]? = some c) :
    r.get? c.id = some c := by
  rw [Registry.get?, h i c hc]
  exact hc

theorem Indexed.set {i : Nat} (h : r.Indexed) (hc : r.connections[i]? = some c) (hid : d.id = c.id)
    (hr : r'.connections = r.connections.set i d) : r'.Indexed := by
  intro j x hx
  rw [hr, List.getElem?_set'] at hx
  split at hx
  next hij =>
    subst hij
    rw [hc] at hx
    obtain rfl : d = x := Option.some.inj hx
    rw [hid]
    exact h i c hc
  next => exact h j x hx

/-! ## Reports -/

/-- A report changes the connection it concerns, and may add a request to the queue. -/
theorem dispatch_gives {event : TransportEvent} {now : Instant}
    (h : (r.dispatch event now).Gives r') :
    (r.get? event.conn = none ∧ r' = r) ∨
      ∃ c res, r.get? event.conn = some c ∧
        (c.applyEvent event.source event.kind now).Gives res ∧
        ∃ queued, r' = { r.set res.2 with requests := r.requests ++ queued } ∧
          (queued = [] ∨ ∃ chunk, res.1.request? = some chunk ∧
            queued = [(res.2.id, lossyText chunk)]) := by
  simp only [dispatch] at h
  split at h
  next hget =>
    simp only [Act.gives_bind, Act.gives_log, Act.gives_pure, true_and, exists_const] at h
    exact Or.inl ⟨hget, h⟩
  next c hget =>
    simp only [Act.gives_bind] at h
    obtain ⟨⟨outcome, d⟩, hd, h⟩ := h
    refine Or.inr ⟨c, _, hget, hd, ?_⟩
    cases outcome with
    | handled | ignored =>
      simp only [Act.gives_pure] at h
      exact ⟨[], by rw [h, List.append_nil]; rfl, Or.inl rfl⟩
    | request chunk =>
      simp only [enqueue] at h
      split at h
      next =>
        simp only [Act.gives_bind, Act.gives_log, Act.gives_pure, true_and, exists_const] at h
        exact ⟨[], by rw [h, List.append_nil]; rfl, Or.inl rfl⟩
      next =>
        simp only [Act.gives_pure] at h
        exact ⟨_, h, Or.inr ⟨chunk, rfl, rfl⟩⟩

/-! ## Answers -/

/-- The handler of requests hands nothing to the transport. -/
def Silent (handler : String → Act (Option String)) : Prop :=
  ∀ request, Prog.Asks Effect.Quiet (handler request)

section Answers

variable {handler : String → Act (Option String)} {request : String} {t : Trace Node} {u : Unit}

/-- Nothing is written for a connection that serves nobody. -/
theorem answerOne_unserved (h : (r.answerOne handler id request).Ends t u)
    (hs : r.state? id ≠ some .server) : t.writes = [] := by
  simp only [answerOne] at h
  split at h
  next => exact h.writes_eq_nil (by simp)
  next c hget =>
    rw [state?, hget] at hs
    rw [if_pos fun hc => hs (congrArg some hc)] at h
    exact h.writes_eq_nil (by simp)

/-- A reply goes to the socket that the connection holds. -/
theorem respond_writes {reply : String} {handle : Handle} {res : Except NetError Unit}
    (h : (c.respond reply).Ends t res) (hh : c.handle = some handle) :
    t.writes = [(handle, bytesOf reply)] := by
  simp only [Connection.respond, hh] at h
  obtain ⟨t₁, answer, t₂, h₁, h₂, rfl⟩ := Prog.ends_bind.1 h
  obtain ⟨answer', t₃, rfl, h₃⟩ := Prog.ends_ask.1 h₁
  obtain ⟨rfl, rfl⟩ := Prog.ends_pure.1 h₃
  have hquiet : Trace.writes t₂ = [] := by
    refine h₂.writes_eq_nil ?_
    cases answer <;> simp
  rw [Trace.writes_append, hquiet]
  rfl

/-- For a connection that serves a visitor, the reply goes to the socket that it holds. -/
theorem answerOne_served {handle : Handle} (hsilent : Silent handler)
    (h : (r.answerOne handler id request).Ends t u) (hget : r.get? id = some c)
    (hs : c.state = .server) (hh : c.handle = some handle) :
    ∃ t₁ reply, (handler request).Ends t₁ reply ∧
      t.writes = (reply.map fun reply => (handle, bytesOf reply)).toList := by
  simp only [answerOne, hget, hs, ne_eq, not_true_eq_false, if_false] at h
  obtain ⟨t₁, _, t₂, h₁, h₂, rfl⟩ := Prog.ends_bind.1 h
  obtain ⟨t₃, reply, t₄, h₃, h₄, rfl⟩ := Prog.ends_bind.1 h₂
  refine ⟨t₃, reply, h₃, ?_⟩
  rw [Trace.writes_append, Trace.writes_append, h₁.writes_eq_nil (by simp),
    h₃.writes_eq_nil (hsilent request), List.nil_append, List.nil_append]
  cases reply with
  | none => exact h₄.writes_eq_nil (by simp)
  | some reply =>
    have hrespond : (c.respond reply >>= fun _ => (pure () : Act Unit)).Ends t₄ u := h₄
    obtain ⟨t₅, res, t₆, h₅, h₆, rfl⟩ := Prog.ends_bind.1 hrespond
    obtain ⟨rfl, rfl⟩ := Prog.ends_pure.1 h₆
    rw [List.append_nil]
    exact respond_writes h₅ hh

/-- The traces of the answers to some requests. -/
inductive Answered (r : Registry) (handler : String → Act (Option String)) :
    List (ConnId × String) → List (Trace Node) → Prop where
  | nil : Answered r handler [] []
  | cons {id : ConnId} {request : String} {rest : List (ConnId × String)} {t : Trace Node}
      {ts : List (Trace Node)} {u : Unit} : (r.answerOne handler id request).Ends t u →
      Answered r handler rest ts → Answered r handler ((id, request) :: rest) (t :: ts)

theorem Answered.length_eq {requests : List (ConnId × String)} {ts : List (Trace Node)}
    (h : Answered r handler requests ts) : ts.length = requests.length := by
  induction h with
  | nil => rfl
  | cons _ _ ih => rw [List.length_cons, List.length_cons, ih]

theorem Answered.get {requests : List (ConnId × String)} {ts : List (Trace Node)} {i : Nat}
    (h : Answered r handler requests ts) (hrequest : requests[i]? = some (id, request))
    (ht : ts[i]? = some t) : ∃ u, (r.answerOne handler id request).Ends t u := by
  induction h generalizing i with
  | nil => cases hrequest
  | cons hone _ ih =>
    cases i with
    | zero =>
      cases hrequest
      cases ht
      exact ⟨_, hone⟩
    | succ i => exact ih hrequest ht

/-- Requests are answered one after the other. -/
theorem answerEach_ends {requests : List (ConnId × String)}
    (h : (r.answerEach handler requests).Ends t u) :
    ∃ ts, Answered r handler requests ts ∧ t = ts.flatten := by
  induction requests generalizing t with
  | nil =>
    obtain ⟨rfl, -⟩ := Prog.ends_pure.1 h
    exact ⟨[], .nil, rfl⟩
  | cons pair rest ih =>
    obtain ⟨t₁, _, t₂, h₁, h₂, rfl⟩ := Prog.ends_bind.1 h
    obtain ⟨ts, hts, rfl⟩ := ih h₂
    exact ⟨t₁ :: ts, .cons h₁ hts, rfl⟩

theorem answerRequests_ends (h : (r.answerRequests handler).Ends t r') :
    r' = { r with requests := [] } ∧ ∃ ts, Answered r handler r.requests ts ∧ t = ts.flatten := by
  obtain ⟨t₁, _, t₂, h₁, h₂, rfl⟩ := Prog.ends_bind.1 h
  obtain ⟨rfl, rfl⟩ := Prog.ends_pure.1 h₂
  obtain ⟨ts, hts, rfl⟩ := answerEach_ends h₁
  exact ⟨rfl, ts, hts, List.append_nil _⟩

end Answers

/-! ## Housekeeping -/

theorem Placed.of_ids (h : r.Placed)
    (hids : r'.connections.map Connection.id = r.connections.map Connection.id) : r'.Placed := by
  intro id c hc
  have hplace : (r.connections.map Connection.id)[id.index.toNat]? = some c.id := by
    rw [← hids, List.getElem?_map, show r'.connections[id.index.toNat]? = some c from hc]
    rfl
  rw [List.getElem?_map, Option.map_eq_some_iff] at hplace
  obtain ⟨d, hd, hid⟩ := hplace
  rw [← hid]
  exact h id d hd

theorem eachConnection_gives {f : Connection → Act Connection} {cs ds : List Connection}
    (hf : ∀ c d, (f c).Gives d → d.id = c.id) (h : (eachConnection f cs).Gives ds) :
    ds.map Connection.id = cs.map Connection.id := by
  induction cs generalizing ds with
  | nil =>
    simp only [eachConnection, Act.gives_pure] at h
    rw [h]
  | cons c rest ih =>
    simp only [eachConnection, Act.gives_bind, Act.gives_pure] at h
    obtain ⟨d, hd, ds, hds, rfl⟩ := h
    rw [List.map_cons, List.map_cons, hf c d hd, ih hds]

theorem pollAll_placed {now : Instant} (hplaced : r.Placed) (h : (r.pollAll now).Gives r') :
    r'.Placed := by
  simp only [pollAll, Act.gives_bind, Act.gives_pure] at h
  obtain ⟨cs, hcs, rfl⟩ := h
  refine hplaced.of_ids (eachConnection_gives (fun c d hd => ?_) hcs)
  simp only [Act.gives_bind, Act.gives_pure] at hd
  obtain ⟨res, hres, rfl⟩ := hd
  rw [Connection.checkTimeout_gives hres]
  exact Connection.after_id

theorem releaseAll_placed (hplaced : r.Placed) (h : r.releaseAll.Gives r') : r'.Placed := by
  simp only [releaseAll, Act.gives_bind, Act.gives_pure] at h
  obtain ⟨cs, hcs, rfl⟩ := h
  refine hplaced.of_ids (eachConnection_gives (fun c d hd => ?_) hcs)
  split at hd
  next =>
    rw [Connection.abandon_gives hd]
    exact Connection.released_id c
  next =>
    simp only [Act.gives_pure] at hd
    rw [hd]

theorem new_placed (policy : NetPolicy) : (Registry.new policy).Placed := by
  intro id c hc
  cases hc

end Registry

end MeterNode
