import MeterNode.Proofs.Connection.Demands

/-!
# Deeds of the registry

Whatever the registry does is done to one connection at a time.  A *deed* is one of these things:
a connection is added, it goes through an operation, or a report is dispatched to it.  Every
operation of the registry is a sequence of deeds (`Registry.Operation.deeds`), whose calls follow
each other.

* Reports are dispatched in order (`pump_deeds`).
* Housekeeping takes the connections in turn (`eachConnection_deeds`).
* A wait for a lookup is made of rounds of reports, and may end with the connection abandoned
  (`awaitSlices_deeds`).
-/

namespace MeterNode

/-- The operation is a report of the transport. -/
def Connection.Operation.isReport : Connection.Operation → Bool
  | .event .. => true
  | _ => false

namespace Registry

open Connection

variable {r r₁ r₂ r' : Registry} {c d : Connection} {id : ConnId} {now : Instant} {t : Trace Node}
  {calls rest : List NetCall.Done}

/-! ## Deeds -/

/-- Something is done to one connection, by the owner of the registry or because of a report. -/
inductive Deed : Registry → Option TransportEvent → List NetCall.Done → Registry → Prop where
  | getOrCreate {r : Registry} {url : String} {t : Trace Node}
      {res : Except RegistryError ConnId × Registry} : (r.getOrCreate url).Ends t res →
      Deed r none t.calls res.2
  | startServer {r : Registry} {port : Nat} {t : Trace Node}
      {res : Except RegistryError ConnId × Registry} : (r.startServer port).Ends t res →
      Deed r none t.calls res.2
  | act {r : Registry} {id : ConnId} {c d : Connection} {op : Connection.Operation} {now : Instant}
      {t : Trace Node} : r.get? id = some c → op.isReport = false →
      (op.act c now).Ends t d → Deed r none t.calls (r.set d)
  | report {r r' : Registry} {event : TransportEvent} {now : Instant} {t : Trace Node} :
      (r.dispatch event now).Ends t r' → Deed r (some event) t.calls r'
  /-- The requests that wait are dropped. -/
  | forget (r : Registry) : Deed r none [] { r with requests := [] }

/-- Deeds follow each other. -/
inductive Deeds : Registry → List NetCall.Done → Registry → Prop where
  | nil (r : Registry) : Deeds r [] r
  | cons {r r₁ r₂ : Registry} {event : Option TransportEvent} {calls rest : List NetCall.Done} :
      Deed r event calls r₁ → Deeds r₁ rest r₂ → Deeds r (calls ++ rest) r₂

theorem Deeds.append (h : Deeds r calls r₁) (h' : Deeds r₁ rest r₂) :
    Deeds r (calls ++ rest) r₂ := by
  induction h with
  | nil => exact h'
  | cons hdeed _ ih =>
    rw [List.append_assoc]
    exact .cons hdeed (ih h')

theorem Deed.once {event : Option TransportEvent} (h : Deed r event calls r₁) :
    Deeds r calls r₁ := by
  have honce := Deeds.cons h (.nil r₁)
  rwa [List.append_nil] at honce

/-! ## Reports -/

theorem dispatchAll_deeds {events : List TransportEvent}
    (h : (r.dispatchAll events now).Ends t r') : Deeds r t.calls r' := by
  induction events generalizing r t with
  | nil =>
    obtain ⟨rfl, rfl⟩ := Prog.ends_pure.1 h
    exact .nil r'
  | cons event rest ih =>
    obtain ⟨t₁, r₁, t₂, h₁, h₂, rfl⟩ := Prog.ends_bind.1 h
    rw [Trace.calls_append]
    exact .cons (.report h₁) (ih h₂)

theorem pump_deeds {res : Nat × Registry} (h : (r.pump now).Ends t res) :
    Deeds r t.calls res.2 := by
  obtain ⟨t₁, events, t₂, h₁, h₂, rfl⟩ := Prog.ends_bind.1 h
  obtain ⟨r₁, hr₁, rfl⟩ := Prog.ends_bind_pure.1 h₂
  rw [Trace.calls_append, h₁.calls_eq_nil (by simp)]
  exact dispatchAll_deeds hr₁

/-- A report changes the connection it concerns. -/
theorem dispatch_ends {event : TransportEvent} (h : (r.dispatch event now).Ends t r') :
    r'.server = r.server ∧
      (r.get? event.conn = none ∧ r' = r ∧ t.calls = [] ∨
        ∃ c t₁ res, r.get? event.conn = some c ∧
          (c.applyEvent event.source event.kind now).Ends t₁ res ∧ t.calls = t₁.calls ∧
          r'.connections = (r.set res.2).connections) := by
  simp only [dispatch] at h
  split at h
  next hget =>
    obtain ⟨_, h₁, rfl⟩ := Prog.ends_bind_pure.1 h
    exact ⟨rfl, Or.inl ⟨hget, rfl, h₁.calls_eq_nil (by simp)⟩⟩
  next c hget =>
    obtain ⟨t₁, ⟨outcome, d⟩, t₂, h₁, h₂, rfl⟩ := Prog.ends_bind.1 h
    have hbehind : t₂.calls = [] ∧ r'.server = r.server ∧
        r'.connections = (r.set d).connections := by
      cases outcome with
      | handled | ignored =>
        obtain ⟨rfl, rfl⟩ := Prog.ends_pure.1 h₂
        exact ⟨rfl, rfl, rfl⟩
      | request chunk =>
        simp only [enqueue] at h₂
        split at h₂
        next =>
          obtain ⟨t₃, _, t₄, h₃, h₄, rfl⟩ := Prog.ends_bind.1 h₂
          obtain ⟨rfl, rfl⟩ := Prog.ends_pure.1 h₄
          rw [List.append_nil]
          exact ⟨h₃.calls_eq_nil (by simp), rfl, rfl⟩
        next =>
          obtain ⟨rfl, rfl⟩ := Prog.ends_pure.1 h₂
          exact ⟨rfl, rfl, rfl⟩
    obtain ⟨hcalls, hserver, hconnections⟩ := hbehind
    refine ⟨hserver, Or.inr ⟨c, t₁, _, hget, h₁, ?_, hconnections⟩⟩
    rw [Trace.calls_append, hcalls, List.append_nil]

/-! ## Housekeeping -/

/-- The connections are taken in turn; `done` are those that have been. -/
theorem eachConnection_deeds {f : Connection → Act Connection} {done cs ds : List Connection}
    (hindexed : r.Indexed) (hr : r.connections = done ++ cs)
    (hf : ∀ c t d, (f c).Ends t d → d = c ∧ t.calls = [] ∨
      ∃ (op : Connection.Operation) (now : Instant), op.isReport = false ∧ (op.act c now).Ends t d)
    (h : (eachConnection f cs).Ends t ds) :
    Deeds r t.calls { r with connections := done ++ ds } := by
  induction cs generalizing r done t ds with
  | nil =>
    obtain ⟨rfl, rfl⟩ := Prog.ends_pure.1 h
    rw [← hr]
    exact .nil r
  | cons c rest ih =>
    obtain ⟨t₁, d, t₂, h₁, h₂, rfl⟩ := Prog.ends_bind.1 h
    obtain ⟨ds', hrest, rfl⟩ := Prog.ends_bind_pure.1 h₂
    have hc : r.connections[done.length]? = some c := by
      rw [hr, List.getElem?_append_right (Nat.le_refl _), Nat.sub_self]
      rfl
    have hset : r.connections.set done.length d = (done ++ [d]) ++ rest := by
      rw [hr, List.set_append_right _ _ (Nat.le_refl _), Nat.sub_self]
      simp
    rw [Trace.calls_append]
    rcases hf c t₁ d h₁ with ⟨rfl, hcalls⟩ | ⟨op, now, hop, hact⟩
    · rw [hcalls, List.append_cons]
      exact ih hindexed (by rw [hr]; simp) hrest
    · have hid : d.id = c.id := act_id hact.gives
      have hplace : d.id.index.toNat = done.length := by
        rw [hid]
        exact hindexed _ c hc
      have hconnections : (r.set d).connections = (done ++ [d]) ++ rest := by
        rw [Registry.set, hplace]
        exact hset
      refine .cons (.act (hindexed.get? hc) hop hact) ?_
      rw [List.append_cons]
      refine ih (hindexed.set hc hid ?_) hconnections hrest
      rw [hconnections, hset]

theorem pollAll_deeds (hindexed : r.Indexed) (h : (r.pollAll now).Ends t r') :
    Deeds r t.calls r' := by
  obtain ⟨ds, heach, rfl⟩ := Prog.ends_bind_pure.1 h
  have hpolled : Deeds r t.calls { r with connections := [] ++ ds } := by
    refine eachConnection_deeds hindexed rfl (fun c t d hd => Or.inr ?_) heach
    exact ⟨.checkTimeout, now, rfl, hd⟩
  exact hpolled

theorem releaseAll_deeds (hindexed : r.Indexed) (h : r.releaseAll.Ends t r') :
    Deeds r t.calls r' := by
  obtain ⟨ds, heach, rfl⟩ := Prog.ends_bind_pure.1 h
  have hreleased : Deeds r t.calls { r with connections := [] ++ ds } := by
    refine eachConnection_deeds hindexed rfl (fun c t d hd => ?_) heach
    split at hd
    next => exact Or.inr ⟨.abandon "radio_off", 0, rfl, hd⟩
    next =>
      obtain ⟨rfl, rfl⟩ := Prog.ends_pure.1 hd
      exact Or.inl ⟨rfl, rfl⟩
  have hforgotten := hreleased.append (Deed.forget _).once
  rwa [List.append_nil] at hforgotten

/-! ## Waiting for a lookup -/

theorem giveUpDns_deeds {waitedMs : Nat} {res : ConnState × Registry}
    (h : (r.giveUpDns id waitedMs).Ends t res) : Deeds r t.calls res.2 := by
  simp only [giveUpDns] at h
  split at h
  next =>
    obtain ⟨rfl, rfl⟩ := Prog.ends_pure.1 h
    exact .nil r
  next c hget =>
    split at h
    next =>
      obtain ⟨rfl, rfl⟩ := Prog.ends_pure.1 h
      exact .nil r
    next =>
      obtain ⟨t₁, _, t₂, h₁, h₂, rfl⟩ := Prog.ends_bind.1 h
      obtain ⟨d, hd, rfl⟩ := Prog.ends_bind_pure.1 h₂
      rw [Trace.calls_append, h₁.calls_eq_nil (by simp)]
      have hact : ((Operation.abandon "dns_timeout").act c 0).Ends _ d := hd
      exact (Deed.act hget rfl hact).once

theorem awaitSlices_deeds {start : Instant} {slices waitedMs : Nat} {res : ConnState × Registry}
    (h : (awaitSlices id start slices waitedMs r).Ends t res) : Deeds r t.calls res.2 := by
  induction slices generalizing r waitedMs t with
  | zero => exact giveUpDns_deeds h
  | succ slices ih =>
    simp only [awaitSlices] at h
    split at h
    next =>
      obtain ⟨rfl, rfl⟩ := Prog.ends_pure.1 h
      exact .nil r
    next =>
      obtain ⟨t₁, _, t₂, h₁, h₂, rfl⟩ := Prog.ends_bind.1 h
      obtain ⟨t₃, ⟨n, r₁⟩, t₄, h₃, h₄, rfl⟩ := Prog.ends_bind.1 h₂
      rw [Trace.calls_append, h₁.calls_eq_nil (by simp), Trace.calls_append]
      exact (pump_deeds h₃).append (ih h₄)
    next =>
      obtain ⟨rfl, rfl⟩ := Prog.ends_pure.1 h
      exact .nil r

/-! ## Operations -/

/-- What the owner of a registry can do with it. -/
inductive Operation where
  | getOrCreate (url : String)
  | startServer (port : Nat)
  | dispatch (event : TransportEvent)
  | pump
  | pollAll
  | releaseAll
  | awaitDns (id : ConnId)
  /-- A connection goes through an operation that is not a report. -/
  | client (id : ConnId) (op : Connection.Operation) (own : op.isReport = false)
  | reconnect (id : ConnId)

/-- A connection is changed, if it is there. -/
def change (r : Registry) (id : ConnId) (f : Connection → Act Connection) : Act Registry :=
  match r.get? id with
  | none => return r
  | some c => do return r.set (← f c)

/-- The program for an operation. -/
def Operation.act (op : Operation) (r : Registry) (now : Instant) : Act Registry :=
  match op with
  | .getOrCreate url => do return (← r.getOrCreate url).2
  | .startServer port => do return (← r.startServer port).2
  | .dispatch event => r.dispatch event now
  | .pump => do return (← r.pump now).2
  | .pollAll => r.pollAll now
  | .releaseAll => r.releaseAll
  | .awaitDns id => do return (← r.awaitDns id now).2
  | .client id op _ => r.change id fun c => op.act c now
  | .reconnect id => r.change id fun c => c.reconnect now

theorem change_ends {f : Connection → Act Connection} (h : (r.change id f).Ends t r') :
    r' = r ∧ t.calls = [] ∨ ∃ c d, r.get? id = some c ∧ (f c).Ends t d ∧ r' = r.set d := by
  simp only [change] at h
  split at h
  next =>
    obtain ⟨rfl, rfl⟩ := Prog.ends_pure.1 h
    exact Or.inl ⟨rfl, rfl⟩
  next c hget =>
    obtain ⟨d, hd, rfl⟩ := Prog.ends_bind_pure.1 h
    exact Or.inr ⟨c, d, hget, hd, rfl⟩

/-- Giving the socket back and connecting anew are two deeds. -/
theorem reconnect_deeds (hget : r.get? id = some c) (hid : c.id = id)
    (h : (c.reconnect now).Ends t d) : Deeds r t.calls (r.set d) := by
  obtain ⟨t₁, _, t₂, h₁, h₂, rfl⟩ := Prog.ends_bind.1 h
  obtain ⟨t₃, c', t₄, h₃, h₄, rfl⟩ := Prog.ends_bind.1 h₂
  have hid' : c'.id = id := by rw [abandon_gives h₃.gives, ← hid]; exact released_id c
  have habandon : ((Operation.abandon "reconnect").act c now).Ends t₃ c' := h₃
  have hconnect : (Operation.connect.act c' now).Ends t₄ d := h₄
  have hget' : (r.set c').get? id = some c' := by
    rw [get?_set, if_pos hid'.symm, hget]
    rfl
  have hset : (r.set c').set d = r.set d := by
    simp only [Registry.set, act_id hconnect.gives, List.set_set]
  rw [Trace.calls_append, h₁.calls_eq_nil (by simp), Trace.calls_append, ← hset]
  exact (Deed.act hget rfl habandon).once.append (Deed.act hget' rfl hconnect).once

theorem Operation.deeds {op : Operation} (hindexed : r.Indexed) (h : (op.act r now).Ends t r') :
    Deeds r t.calls r' := by
  cases op with
  | getOrCreate url =>
    obtain ⟨res, hres, rfl⟩ := Prog.ends_bind_pure.1 h
    exact (Deed.getOrCreate hres).once
  | startServer port =>
    obtain ⟨res, hres, rfl⟩ := Prog.ends_bind_pure.1 h
    exact (Deed.startServer hres).once
  | dispatch event => exact (Deed.report h).once
  | pump =>
    obtain ⟨res, hres, rfl⟩ := Prog.ends_bind_pure.1 h
    exact pump_deeds hres
  | pollAll => exact pollAll_deeds hindexed h
  | releaseAll => exact releaseAll_deeds hindexed h
  | awaitDns id =>
    obtain ⟨res, hres, rfl⟩ := Prog.ends_bind_pure.1 h
    exact awaitSlices_deeds hres
  | client id op own =>
    rcases change_ends h with ⟨rfl, hcalls⟩ | ⟨c, d, hget, hd, rfl⟩
    · rw [hcalls]
      exact .nil r'
    · exact (Deed.act hget own hd).once
  | reconnect id =>
    rcases change_ends h with ⟨rfl, hcalls⟩ | ⟨c, d, hget, hd, rfl⟩
    · rw [hcalls]
      exact .nil r'
    · exact reconnect_deeds hget (hindexed.placed id c hget) hd

end Registry

end MeterNode
