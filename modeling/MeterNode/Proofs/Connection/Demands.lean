import MeterNode.Proofs.Connection.Calls
import MeterNode.Proofs.Connection.Registry

/-!
# Demands for connections

The owner of a registry asks it for the connection to a collector, or for the server.  `Met` says
what can come of such a demand and which calls are made for it: the connection is there already, or
one is added behind the others (`Added`), or the demand is refused and nothing changes.
-/

namespace MeterNode

namespace Registry

open Connection

variable {r r' : Registry} {c d : Connection} {id : ConnId} {t : Trace Node}

/-! ## New connections -/

theorem nextId?_eq_some (h : r.nextId? = some id) :
    r.connections.length < connectionMax ∧ id = ⟨r.connections.length.toUInt8⟩ := by
  simp only [nextId?] at h
  split at h
  next hlt =>
    cases h
    exact ⟨hlt, rfl⟩
  next => cases h

theorem nextId?_eq_none : r.nextId? = none ↔ connectionMax ≤ r.connections.length := by
  simp [nextId?]

/-- A connection was added behind the others. -/
structure Added (r : Registry) (c : Connection) (r' : Registry) : Prop where
  room : r.connections.length < connectionMax
  id : c.id = ⟨r.connections.length.toUInt8⟩
  connections : r'.connections = r.connections ++ [c]

theorem Added.place (h : r.Added c r') : c.id.index.toNat = r.connections.length := by
  have hroom : r.connections.length < 256 := h.room
  rw [h.id]
  simp only [Nat.toUInt8, UInt8.toNat_ofNat']
  omega

theorem Added.get?_self (h : r.Added c r') : r'.get? c.id = some c := by
  rw [Registry.get?, h.place, h.connections, List.getElem?_append_right (Nat.le_refl _),
    Nat.sub_self]
  rfl

theorem Added.get?_kept (h : r.Added c r') (hget : r.get? id = some d) : r'.get? id = some d := by
  have hlt := (List.getElem?_eq_some_iff.1 hget).1
  rw [Registry.get?, h.connections, List.getElem?_append_left hlt]
  exact hget

/-- A new connection is at its own place, and the others stay where they are. -/
theorem Added.get?_cases (h : r.Added c r') (hget : r'.get? id = some d) :
    r.get? id = some d ∨ d = c ∧ c.id = id := by
  unfold Registry.get? at hget ⊢
  rw [h.connections, List.getElem?_append] at hget
  split at hget
  next => exact Or.inl hget
  next hge =>
    have hlast : id.index.toNat - r.connections.length < 1 := (List.getElem?_eq_some_iff.1 hget).1
    have hplace : id.index.toNat = r.connections.length := by omega
    rw [hplace, Nat.sub_self] at hget
    cases hget
    exact Or.inr ⟨rfl, toNat_index_inj.1 (h.place.trans hplace.symm)⟩

theorem Added.indexed (h : r.Added c r') (hindexed : r.Indexed) : r'.Indexed := by
  intro i d hd
  rw [h.connections, List.getElem?_append] at hd
  split at hd
  next => exact hindexed i d hd
  next hge =>
    have hlast : i - r.connections.length < 1 := (List.getElem?_eq_some_iff.1 hd).1
    have hplace : i = r.connections.length := by omega
    rw [hplace, Nat.sub_self] at hd
    cases hd
    rw [hplace]
    exact h.place

/-- A connection was added behind the others, or nothing has changed. -/
def Extended (r r' : Registry) : Prop :=
  r' = r ∨ ∃ c, r.connections.length < connectionMax ∧ c.id = ⟨r.connections.length.toUInt8⟩ ∧
    c.state = .init ∧ r'.connections = r.connections ++ [c] ∧ r'.requests = r.requests

theorem Added.extended (h : r.Added c r') (hstate : c.state = .init)
    (hrequests : r'.requests = r.requests) : r.Extended r' :=
  Or.inr ⟨c, h.room, h.id, hstate, h.connections, hrequests⟩

theorem Extended.get? (h : r.Extended r') (hget : r'.get? id = some d) :
    r.get? id = some d ∨ d.id = id ∧ d.state = .init := by
  rcases h with rfl | ⟨c, hroom, hid, hstate, hconnections, -⟩
  · exact Or.inl hget
  · have hadded : r.Added c r' := ⟨hroom, hid, hconnections⟩
    rcases hadded.get?_cases hget with hold | ⟨rfl, hplace⟩
    · exact Or.inl hold
    · exact Or.inr ⟨hplace, hstate⟩

theorem Extended.placed (h : r.Extended r') (hplaced : r.Placed) : r'.Placed := by
  intro id d hd
  rcases h.get? hd with hold | ⟨hid, -⟩
  · exact hplaced id d hold
  · exact hid

/-! ## Demands -/

/-- What a registry is asked for. -/
inductive Demand where
  /-- The connection to a collector. -/
  | collector (url : String)
  /-- The server. -/
  | server (port : Nat)
deriving DecidableEq

/-- The program for a demand. -/
def Demand.act (r : Registry) : Demand → Act (Except RegistryError ConnId × Registry)
  | .collector url => r.getOrCreate url
  | .server port => r.startServer port

/-- What can come of a demand, with the calls that are made for it. -/
inductive Met (r : Registry) :
    Demand → List NetCall.Done → Except RegistryError ConnId → Registry → Prop where
  | illegible {url : String} {cause : EndpointError} : Endpoint.ofText url = .error cause →
      Met r (.collector url) [] (.error (.endpoint cause)) r
  | known {url : String} {e : Endpoint} {c : Connection} : Endpoint.ofText url = .ok e →
      r.find? e.key = some c → Met r (.collector url) [] (.ok c.id) r
  /-- There is no place for another connection. -/
  | full {d : Demand} : connectionMax ≤ r.connections.length → Met r d [] (.error .full) r
  /-- The transport has no socket. -/
  | socketless {url : String} {secure : Bool} {cause : NetError} :
      Met r (.collector url) [⟨.openSocket secure, .error cause⟩] (.error (.handleAlloc cause)) r
  | created {url : String} {e : Endpoint} {c : Connection} {r' : Registry} {secure : Bool}
      {handle : Handle} : Endpoint.ofText url = .ok e → r.find? e.key = none → r.Added c r' →
      c.role = .client e → c.label = "lwi" ++ toString r.clientCount → c.state = .init →
      c.handle = some handle → r'.server = r.server → r'.requests = r.requests →
      Met r (.collector url) [⟨.openSocket secure, .ok handle⟩, ⟨.register handle c.id, ()⟩]
        (.ok c.id) r'
  /-- There is a server already. -/
  | taken {port : Nat} : r.server.isSome → Met r (.server port) [] (.error .serverExists) r
  /-- The transport cannot listen on the port. -/
  | unbound {port : Nat} {id : ConnId} {cause : NetError} :
      Met r (.server port) [⟨.listen port id, .error cause⟩] (.error (.serverBind cause)) r
  | hosted {port : Nat} {c : Connection} {r' : Registry} {listener : Handle} : r.server = none →
      r.Added c r' → c.role = .server port → c.state = .init → c.handle = none →
      r'.server = some (c.id, port) → r'.requests = r.requests →
      Met r (.server port) [⟨.listen port c.id, .ok listener⟩] (.ok c.id) r'

theorem getOrCreate_met {url : String} {res : Except RegistryError ConnId × Registry}
    (h : (r.getOrCreate url).Ends t res) : r.Met (.collector url) t.calls res.1 res.2 := by
  simp only [getOrCreate] at h
  split at h
  next cause hurl =>
    obtain ⟨_, h₁, rfl⟩ := Prog.ends_bind_pure.1 h
    rw [h₁.calls_eq_nil (by simp)]
    exact .illegible hurl
  next e hurl =>
    split at h
    next c hfind =>
      obtain ⟨_, h₁, rfl⟩ := Prog.ends_bind_pure.1 h
      rw [h₁.calls_eq_nil (by simp)]
      exact .known hurl hfind
    next hfind =>
      split at h
      next hnext =>
        obtain ⟨rfl, rfl⟩ := Prog.ends_pure.1 h
        exact .full (nextId?_eq_none.1 hnext)
      next id hnext =>
        obtain ⟨hroom, rfl⟩ := nextId?_eq_some hnext
        obtain ⟨t₁, ⟨result, c⟩, t₂, h₁, h₂, rfl⟩ := Prog.ends_bind.1 h
        rw [Trace.calls_append]
        rcases openHandle_ends rfl h₁ with ⟨cause, hopened, hcalls⟩ | ⟨handle, hopened, hcalls⟩
        all_goals obtain ⟨rfl, hc⟩ := Prod.mk.inj hopened
        · obtain ⟨_, h₃, rfl⟩ := Prog.ends_bind_pure.1 h₂
          rw [hcalls, h₃.calls_eq_nil (by simp), List.append_nil]
          exact .socketless
        · obtain ⟨_, h₃, rfl⟩ := Prog.ends_bind_pure.1 h₂
          rw [hcalls, h₃.calls_eq_nil (by simp), List.append_nil]
          have hadded : r.Added c { r with connections := r.connections ++ [c] } :=
            ⟨hroom, by rw [hc], rfl⟩
          rw [← hadded.id]
          exact .created (c := c) hurl hfind hadded (by rw [hc]) (by rw [hc]) (by rw [hc])
            (by rw [hc]) rfl rfl

theorem startServer_met {port : Nat} {res : Except RegistryError ConnId × Registry}
    (h : (r.startServer port).Ends t res) : r.Met (.server port) t.calls res.1 res.2 := by
  simp only [startServer] at h
  split at h
  next hserver =>
    obtain ⟨rfl, rfl⟩ := Prog.ends_pure.1 h
    exact .taken hserver
  next hserver =>
    split at h
    next hnext =>
      obtain ⟨rfl, rfl⟩ := Prog.ends_pure.1 h
      exact .full (nextId?_eq_none.1 hnext)
    next id hnext =>
      obtain ⟨hroom, rfl⟩ := nextId?_eq_some hnext
      obtain ⟨t₁, answer, t₂, h₁, h₂, rfl⟩ := Prog.ends_bind.1 h
      rw [Trace.calls_append, Prog.ends_perform.1 h₁]
      cases answer with
      | error cause =>
        obtain ⟨_, h₃, rfl⟩ := Prog.ends_bind_pure.1 h₂
        rw [h₃.calls_eq_nil (by simp), List.append_nil]
        exact .unbound
      | ok listener =>
        obtain ⟨_, h₃, rfl⟩ := Prog.ends_bind_pure.1 h₂
        rw [h₃.calls_eq_nil (by simp), List.append_nil]
        have hfree : r.server = none := by simpa using hserver
        exact .hosted (c := { id := _, label := serverLabel, role := .server port
                              timeout := r.timeout }) hfree ⟨hroom, rfl, rfl⟩ rfl rfl rfl rfl rfl

theorem act_met {res : Except RegistryError ConnId × Registry} {d : Demand}
    (h : (d.act r).Ends t res) : r.Met d t.calls res.1 res.2 := by
  cases d with
  | collector url => exact getOrCreate_met h
  | server port => exact startServer_met h

theorem Met.extended {d : Demand} {calls : List NetCall.Done}
    {result : Except RegistryError ConnId} (h : r.Met d calls result r') : r.Extended r' := by
  cases h with
  | illegible | known | full | socketless | taken | unbound => exact Or.inl rfl
  | created _ _ hadded _ _ hstate _ _ hrequests => exact hadded.extended hstate hrequests
  | hosted _ hadded _ hstate _ _ hrequests => exact hadded.extended hstate hrequests

theorem getOrCreate_gives {url : String} {res : Except RegistryError ConnId × Registry}
    (h : (r.getOrCreate url).Gives res) : r.Extended res.2 := by
  obtain ⟨t, ht⟩ := h
  exact (getOrCreate_met ht).extended

theorem startServer_gives {port : Nat} {res : Except RegistryError ConnId × Registry}
    (h : (r.startServer port).Gives res) : r.Extended res.2 := by
  obtain ⟨t, ht⟩ := h
  exact (startServer_met ht).extended

/-- A new collector holds the socket that was opened for it. -/
theorem getOrCreate_ends {url : String} {res : Except RegistryError ConnId × Registry}
    (h : (r.getOrCreate url).Ends t res) :
    res.2 = r ∧ Moves ⟨r.connections.length.toUInt8⟩ none t.calls none ∨
      ∃ c, r.Added c res.2 ∧ res.2.server = r.server ∧ Moves c.id none t.calls c.handle := by
  obtain ⟨result, r'⟩ := res
  have hmet := getOrCreate_met h
  generalize t.calls = calls at hmet
  cases hmet with
  | illegible | known | full => exact Or.inl ⟨rfl, .nil none⟩
  | socketless => exact Or.inl ⟨rfl, .refused (.nil none)⟩
  | created _ _ hadded _ _ _ hheld hserver =>
    refine Or.inr ⟨_, hadded, hserver, ?_⟩
    rw [hheld]
    exact .opened (.nil _)

/-- The server holds no socket of its own; the transport listens for it. -/
theorem startServer_ends {port : Nat} {res : Except RegistryError ConnId × Registry}
    (h : (r.startServer port).Ends t res) :
    res.2 = r ∧ (t.calls = [] ∨ ∃ id cause, t.calls = [⟨.listen port id, .error cause⟩]) ∨
      ∃ c listener, r.Added c res.2 ∧ c.handle = none ∧ r.server = none ∧
        res.2.server = some (c.id, port) ∧ t.calls = [⟨.listen port c.id, .ok listener⟩] := by
  obtain ⟨result, r'⟩ := res
  have hmet := startServer_met h
  generalize t.calls = calls at hmet
  cases hmet with
  | full | taken => exact Or.inl ⟨rfl, Or.inl rfl⟩
  | unbound => exact Or.inl ⟨rfl, Or.inr ⟨_, _, rfl⟩⟩
  | hosted hfree hadded _ _ hnone hserver =>
    exact Or.inr ⟨_, _, hadded, hnone, hfree, hserver, rfl⟩

end Registry

end MeterNode
