import MeterNode.Bench.World
import MeterNode.Proofs.Connection.Demands
import MeterNode.Proofs.Connection.Sockets
import MeterNode.Proofs.Text.Cutting
import MeterNode.Proofs.Text.Encoding

/-!
# The identity of connections

The owner of a registry asks for collectors and for the server, in any order, and the transport may
refuse a socket or a port at any time.  A collector is known by its key.  The key is a text, but two
addresses have the same one only if they agree in scheme, host and port (`Endpoint.key_eq_iff`): the
port has no colon in it, so the host ends at the last one.

`Sound` is what a registry keeps over a sequence of demands, whatever comes of each of them
(`Sound.demand`, `meetAll_sound`).  The places of connections are their identities, no two of them
have the same key, collectors are labelled in the order in which they came, and there is at most one
server.
-/

namespace MeterNode

open MeterNode.Text

/-! ## Keys -/

namespace Endpoint

variable {a b : Endpoint}

/-- Two addresses name the same collector. -/
def SameCollector (a b : Endpoint) : Prop :=
  a.scheme = b.scheme ∧ a.host = b.host ∧ a.port = b.port

/-- The host ends at the last colon, since there is none in the port. -/
theorem cutLast_hostHeader :
    cutLast ':' a.hostHeader.toList = some (a.host.toList, (toString a.port).toList) := by
  have hcolon : ':' ∉ (toString a.port).toList := fun h => by
    have hdigit := isDigit_of_mem_toString h
    exact absurd hdigit (by decide)
  rw [hostHeader, String.toList_append, String.toList_append, List.append_assoc]
  exact cutLast_append hcolon

theorem hostHeader_eq_iff : a.hostHeader = b.hostHeader ↔ a.host = b.host ∧ a.port = b.port := by
  constructor
  · intro h
    have hcut := cutLast_hostHeader (a := a)
    rw [h, cutLast_hostHeader, Option.some.injEq, Prod.mk.injEq] at hcut
    refine ⟨(String.toList_inj.1 hcut.1).symm, ?_⟩
    rw [← ofDigitChars_toString (n := a.port), ← hcut.2, ofDigitChars_toString]
  · rintro ⟨hhost, hport⟩
    rw [hostHeader, hostHeader, hhost, hport]

/-- Where the name of one scheme has ended, the other goes on. -/
theorem fifth_of_scheme {scheme : Scheme} {rest : List Char} :
    ((scheme.name ++ "://").toList ++ rest)[4]? =
      some (match scheme with | .http => ':' | .https => 's') := by
  cases scheme <;> rfl

/-- Two addresses have the same key just when they name the same collector. -/
theorem key_eq_iff : a.key = b.key ↔ a.SameCollector b := by
  rw [SameCollector, ← hostHeader_eq_iff]
  constructor
  · intro h
    have hkeys : (a.scheme.name ++ "://").toList ++ a.hostHeader.toList =
        (b.scheme.name ++ "://").toList ++ b.hostHeader.toList := by
      rw [← String.toList_append, ← String.toList_append]
      exact congrArg String.toList h
    have hscheme : a.scheme = b.scheme := by
      have hfifth := congrArg (fun key : List Char => key[4]?) hkeys
      simp only [fifth_of_scheme] at hfifth
      cases ha : a.scheme <;> cases hb : b.scheme <;> simp [ha, hb] at hfifth ⊢
    rw [hscheme] at hkeys
    exact ⟨hscheme, String.toList_inj.1 (List.append_cancel_left hkeys)⟩
  · rintro ⟨hscheme, hheader⟩
    rw [key, key, hscheme, hheader]

end Endpoint

/-! ## Demands in turn -/

namespace Registry

open Connection

variable {r r' : Registry} {c : Connection} {id : ConnId} {d : Demand} {calls : List NetCall.Done}
  {result : Except RegistryError ConnId}

/-- Demands with their results. -/
abbrev Deals : Type := List (Demand × Except RegistryError ConnId)

variable {deals past : Deals}

/-- Meet some demands in turn. -/
def meetAll (r : Registry) : List Demand → Act (Deals × Registry)
  | [] => return ([], r)
  | d :: rest => do
      let (result, r) ← d.act r
      let (deals, r) ← r.meetAll rest
      return ((d, result) :: deals, r)

/-- The connections to collectors, in the order in which they were made. -/
def collectors (r : Registry) : List Connection := r.connections.filter (·.endpoint.isSome)

/-- The connections that serve visitors. -/
def servers (r : Registry) : List Connection := r.connections.filter (·.endpoint.isNone)

/-- The connection is one that was asked for. -/
def Demand.IsFor (c : Connection) : Demand → Prop
  | .collector url => ∃ a b, Endpoint.ofText url = .ok a ∧ c.endpoint = some b ∧ a.SameCollector b
  | .server port => c.role = .server port

/-- What a refusal says is so. -/
def Demand.Grounds (r : Registry) (calls : List NetCall.Done) : Demand → RegistryError → Prop
  | .collector url, .endpoint cause => Endpoint.ofText url = .error cause
  | .collector _, .handleAlloc cause => ∃ secure, calls = [⟨.openSocket secure, .error cause⟩]
  | .server port, .serverBind cause => ∃ id, calls = [⟨.listen port id, .error cause⟩]
  | .server _, .serverExists => r.server.isSome
  | _, .full => r.connections.length = connectionMax
  | _, _ => False

/-- A demand that is refused is refused for a reason, and leaves the registry and the sockets as
they are. -/
theorem Met.refused {cause : RegistryError} (h : r.Met d calls (.error cause) r')
    (hbounded : r.connections.length ≤ connectionMax) :
    r' = r ∧ d.Grounds r calls cause ∧ ∀ x y, Sockets.Serves x calls y ↔ y = x := by
  cases h with
  | illegible hurl => exact ⟨rfl, hurl, fun _ _ => Sockets.serves_nil⟩
  | taken hserver => exact ⟨rfl, hserver, fun _ _ => Sockets.serves_nil⟩
  | full hfull =>
    have hlength : r.connections.length = connectionMax := Nat.le_antisymm hbounded hfull
    refine ⟨rfl, ?_, fun _ _ => Sockets.serves_nil⟩
    cases d <;> exact hlength
  | socketless | unbound =>
    refine ⟨rfl, ⟨_, rfl⟩, fun x y => ?_⟩
    -- an answer that is an error makes no socket live
    rw [Sockets.serves_cons]
    simp only [Sockets.Allows, Sockets.after, true_and]
    exact Sockets.serves_nil

theorem Met.appended (h : r.Met d calls result r') : r.connections <+: r'.connections := by
  cases h with
  | created _ _ hadded | hosted _ hadded =>
    rw [hadded.connections]
    exact List.prefix_append _ _
  | illegible | known | full | socketless | taken | unbound => exact List.prefix_rfl

/-! ## What is kept -/

/-- What holds of a registry that has met some demands. -/
structure Sound (r : Registry) (deals : Deals) : Prop where
  indexed : r.Indexed
  bounded : r.connections.length ≤ connectionMax
  /-- No two connections have the same key. -/
  distinct : ∀ c ∈ r.connections, ∀ d ∈ r.connections, ∀ a b, c.endpoint = some a →
    d.endpoint = some b → a.key = b.key → c = d
  labels : r.collectors.map Connection.label =
    (List.range r.collectors.length).map fun k => "lwi" ++ toString k
  server : r.servers.map Connection.id = (r.server.map Prod.fst).toList
  met : ∀ d id, (d, .ok id) ∈ deals → ∃ c, r.get? id = some c ∧ d.IsFor c

theorem sound_new {policy : NetPolicy} : (Registry.new policy).Sound [] where
  indexed _ _ h := by cases h
  bounded := Nat.zero_le _
  distinct _ h := by cases h
  labels := rfl
  server := rfl
  met _ _ h := by cases h

/-- A result that is borne out is recorded. -/
theorem Sound.record (h : r.Sound past)
    (hresult : ∀ id, result = .ok id → ∃ c, r.get? id = some c ∧ d.IsFor c) :
    r.Sound (past ++ [(d, result)]) where
  indexed := h.indexed
  bounded := h.bounded
  distinct := h.distinct
  labels := h.labels
  server := h.server
  met d' id hmem := by
    rcases List.mem_append.1 hmem with hpast | hlast
    · exact h.met d' id hpast
    · cases List.mem_singleton.1 hlast
      exact hresult id rfl

theorem mem_of_find?_eq_some {key : String} (h : r.find? key = some c) :
    c ∈ r.connections ∧ ∃ e, c.endpoint = some e ∧ e.key = key := by
  refine ⟨List.mem_of_find?_eq_some h, ?_⟩
  have hkey := List.find?_some h
  cases he : c.endpoint with
  | none => simp [he] at hkey
  | some e => exact ⟨e, rfl, by simpa [he] using hkey⟩

theorem key_ne_of_find?_eq_none {key : String} {e : Endpoint} (h : r.find? key = none)
    (hc : c ∈ r.connections) (he : c.endpoint = some e) : e.key ≠ key := by
  have hkey := List.find?_eq_none.1 h c hc
  simpa [he] using hkey

theorem Sound.get?_of_mem (h : r.Sound deals) (hc : c ∈ r.connections) : r.get? c.id = some c := by
  obtain ⟨i, hi⟩ := List.getElem?_of_mem hc
  exact h.indexed.get? hi

theorem Added.bounded (h : r.Added c r') : r'.connections.length ≤ connectionMax := by
  rw [h.connections, List.length_append]
  exact h.room

/-- A connection whose key is new, if it has one, keeps the keys distinct. -/
theorem Sound.distinct_added (h : r.Sound deals) (hadded : r.Added c r')
    (hnew : ∀ e, c.endpoint = some e → r.find? e.key = none) :
    ∀ x ∈ r'.connections, ∀ y ∈ r'.connections, ∀ a b, x.endpoint = some a →
      y.endpoint = some b → a.key = b.key → x = y := by
  intro x hx y hy a b ha hb hkey
  rw [hadded.connections] at hx hy
  simp only [List.mem_append, List.mem_singleton] at hx hy
  rcases hx with hx | rfl <;> rcases hy with hy | rfl
  · exact h.distinct x hx y hy a b ha hb hkey
  · exact absurd hkey (key_ne_of_find?_eq_none (hnew b hb) hx ha)
  · exact absurd hkey.symm (key_ne_of_find?_eq_none (hnew a ha) hy hb)
  · rfl

theorem Sound.met_added (h : r.Sound deals) (hadded : r.Added c r') :
    ∀ d id, (d, .ok id) ∈ deals → ∃ c, r'.get? id = some c ∧ d.IsFor c := by
  intro d id hdeal
  obtain ⟨c, hget, hfor⟩ := h.met d id hdeal
  exact ⟨c, hadded.get?_kept hget, hfor⟩

/-- A collector with a new key is added under the next label. -/
theorem Sound.created {e : Endpoint} (h : r.Sound deals) (hadded : r.Added c r')
    (hrole : c.role = .client e) (hnew : r.find? e.key = none)
    (hlabel : c.label = "lwi" ++ toString r.clientCount) (hserver : r'.server = r.server) :
    r'.Sound deals where
  indexed := hadded.indexed h.indexed
  bounded := hadded.bounded
  distinct := h.distinct_added hadded fun e' he' => by
    rw [endpoint, hrole] at he'
    cases he'
    exact hnew
  labels := by
    have hcollectors : r'.collectors = r.collectors ++ [c] := by
      simp [collectors, hadded.connections, endpoint, hrole]
    rw [clientCount, List.countP_eq_length_filter] at hlabel
    rw [hcollectors, List.map_append, h.labels, List.length_append, List.length_singleton,
      List.range_succ, List.map_append, List.map_singleton, List.map_singleton, hlabel]
    rfl
  server := by
    have hservers : r'.servers = r.servers := by
      simp [servers, hadded.connections, endpoint, hrole]
    rw [hservers, hserver, h.server]
  met := h.met_added hadded

/-- The server is added. -/
theorem Sound.hosted {port : Nat} (h : r.Sound deals) (hadded : r.Added c r')
    (hrole : c.role = .server port) (hfree : r.server = none)
    (hserver : r'.server = some (c.id, port)) : r'.Sound deals where
  indexed := hadded.indexed h.indexed
  bounded := hadded.bounded
  distinct := h.distinct_added hadded fun e' he' => by
    rw [endpoint, hrole] at he'
    cases he'
  labels := by
    have hcollectors : r'.collectors = r.collectors := by
      simp [collectors, hadded.connections, endpoint, hrole]
    rw [hcollectors, h.labels]
  server := by
    have hservers : r'.servers = r.servers ++ [c] := by
      simp [servers, hadded.connections, endpoint, hrole]
    have hnone : r.servers.map Connection.id = [] := by
      rw [h.server, hfree]
      rfl
    rw [hservers, List.map_append, hnone, hserver]
    rfl
  met := h.met_added hadded

/-- Whatever comes of a demand, the registry stays sound. -/
theorem Sound.demand (h : r.Sound past) (hmet : r.Met d calls result r') :
    r'.Sound (past ++ [(d, result)]) := by
  cases hmet with
  | illegible | full | socketless | taken | unbound => exact h.record nofun
  | known hurl hfind =>
    obtain ⟨hc, b, hb, hkey⟩ := mem_of_find?_eq_some hfind
    refine h.record fun id hid => ?_
    cases hid
    exact ⟨_, h.get?_of_mem hc, _, b, hurl, hb, Endpoint.key_eq_iff.1 hkey.symm⟩
  | created hurl hfind hadded hrole hlabel _ _ hserver =>
    refine (h.created hadded hrole hfind hlabel hserver).record fun id hid => ?_
    cases hid
    exact ⟨_, hadded.get?_self, _, _, hurl, by rw [endpoint, hrole], Endpoint.key_eq_iff.1 rfl⟩
  | hosted hfree hadded hrole _ _ hserver =>
    refine (h.hosted hadded hrole hfree hserver).record fun id hid => ?_
    cases hid
    exact ⟨_, hadded.get?_self, hrole⟩

theorem meetAll_sound {demands : List Demand} {t : Trace Node} (h : r.Sound past)
    (hends : (r.meetAll demands).Ends t (deals, r')) :
    r'.Sound (past ++ deals) ∧ deals.map Prod.fst = demands := by
  induction demands generalizing r t past deals with
  | nil =>
    obtain ⟨rfl, hres⟩ := Prog.ends_pure.1 hends
    cases hres
    exact ⟨by rwa [List.append_nil], rfl⟩
  | cons d rest ih =>
    obtain ⟨t₁, ⟨result, r₁⟩, t₂, h₁, h₂, rfl⟩ := Prog.ends_bind.1 hends
    obtain ⟨⟨deals', r₂⟩, h₃, hres⟩ := Prog.ends_bind_pure.1 h₂
    cases hres
    obtain ⟨hsound, hdemands⟩ := ih (h.demand (act_met h₁)) h₃
    rw [List.append_assoc] at hsound
    exact ⟨hsound, by rw [List.map_cons, hdemands]⟩

/-- Two collectors that were asked for have one connection just when they are the same. -/
theorem Sound.same_iff {url url' : String} {id id' : ConnId} {a b : Endpoint} (h : r.Sound deals)
    (hdeal : (.collector url, .ok id) ∈ deals) (hdeal' : (.collector url', .ok id') ∈ deals)
    (ha : Endpoint.ofText url = .ok a) (hb : Endpoint.ofText url' = .ok b) :
    id = id' ↔ a.SameCollector b := by
  obtain ⟨c, hc, a', ea, hurl, hea, hsame⟩ := h.met _ _ hdeal
  obtain ⟨c', hc', b', eb, hurl', heb, hsame'⟩ := h.met _ _ hdeal'
  cases ha.symm.trans hurl
  cases hb.symm.trans hurl'
  rw [← Endpoint.key_eq_iff] at hsame hsame' ⊢
  rw [hsame, hsame']
  constructor
  · rintro rfl
    cases hc.symm.trans hc'
    cases hea.symm.trans heb
    rfl
  · intro hkey
    have hone : c = c' := h.distinct c (List.mem_of_getElem? hc) c' (List.mem_of_getElem? hc')
      ea eb hea heb hkey
    rw [← h.indexed.placed id c hc, ← h.indexed.placed id' c' hc', hone]

theorem Sound.label_eq (h : r.Sound deals) {k : Nat} (hc : r.collectors[k]? = some c) :
    c.label = "lwi" ++ toString k := by
  have hk : k < r.collectors.length := (List.getElem?_eq_some_iff.1 hc).1
  have hlabel : (r.collectors.map Connection.label)[k]? = some c.label := by
    rw [List.getElem?_map, hc]
    rfl
  rw [h.labels, List.getElem?_map, List.getElem?_range hk] at hlabel
  exact (Option.some.inj hlabel).symm

theorem Sound.servers_le_one (h : r.Sound deals) : r.servers.length ≤ 1 := by
  have hlength := congrArg List.length h.server
  rw [List.length_map] at hlength
  rw [hlength]
  cases r.server <;> simp

/-- However the transport answers, the connections that a registry makes keep the places they were
given, collectors share a connection just when they have the same scheme, host and port, and a
demand that is refused leaves nothing behind. -/
theorem meetAll_identifies {policy : NetPolicy} {demands : List Demand} {t : Trace Node}
    (h : ((Registry.new policy).meetAll demands).Ends t (deals, r)) :
    deals.map Prod.fst = demands ∧
    (∀ (i : Nat) c, r.connections[i]? = some c → c.id.index.toNat = i) ∧
    (∀ d id, (d, .ok id) ∈ deals → ∃ c, r.get? id = some c ∧ c.id = id ∧ d.IsFor c) ∧
    (∀ url url' id id' a b, (.collector url, .ok id) ∈ deals → (.collector url', .ok id') ∈ deals →
      Endpoint.ofText url = .ok a → Endpoint.ofText url' = .ok b →
      (id = id' ↔ a.scheme = b.scheme ∧ a.host = b.host ∧ a.port = b.port)) ∧
    (∀ (k : Nat) c, r.collectors[k]? = some c → c.label = "lwi" ++ toString k) ∧
    r.servers.length ≤ 1 ∧
    ∀ (d : Demand) t res, (d.act r).Ends t res →
      r.connections <+: res.2.connections ∧
      ∀ cause, res.1 = .error cause →
        res.2 = r ∧ d.Grounds r t.calls cause ∧ ∀ x y, Sockets.Serves x t.calls y ↔ y = x := by
  obtain ⟨hsound, hdemands⟩ := meetAll_sound sound_new h
  rw [List.nil_append] at hsound
  refine ⟨hdemands, hsound.indexed, ?_, ?_, ?_, hsound.servers_le_one, ?_⟩
  · intro d id hdeal
    obtain ⟨c, hget, hfor⟩ := hsound.met d id hdeal
    exact ⟨c, hget, hsound.indexed.placed id c hget, hfor⟩
  · intro url url' id id' a b hdeal hdeal' ha hb
    exact hsound.same_iff hdeal hdeal' ha hb
  · intro k c hc
    exact hsound.label_eq hc
  · intro d t res hres
    refine ⟨(act_met hres).appended, fun cause hcause => ?_⟩
    have hmet := act_met hres
    rw [hcause] at hmet
    exact hmet.refused hsound.bounded

/-- Two addresses of one collector, the server, another collector, a second server, and no address
at all. -/
def sixDemands : List Demand :=
  [.collector "http://coll.example:80/a", .collector "HTTP://coll.example:80/b/", .server 8080,
    .collector "https://coll.example:80/a", .server 9090, .collector "coll.example:80"]

/-- They are met on a bench that grants every call. -/
def sixMet : Deals × Registry := (Bench.World.run {} ((Registry.new {}).meetAll sixDemands)).1

theorem two_addresses_one_collector :
    sixMet.1.map Prod.snd = [.ok ⟨0⟩, .ok ⟨0⟩, .ok ⟨1⟩, .ok ⟨2⟩, .error .serverExists,
      .error (.endpoint .missingScheme)] ∧
    (∀ a b, Endpoint.ofText "http://coll.example:80/a" = .ok a →
      Endpoint.ofText "HTTP://coll.example:80/b/" = .ok b →
      a.scheme = b.scheme ∧ a.host = b.host ∧ a.port = b.port) ∧
    (∀ c, sixMet.2.collectors[1]? = some c → c.label = "lwi1") ∧ sixMet.2.servers.length ≤ 1 := by
  have hends : ((Registry.new {}).meetAll sixDemands).Ends _ (sixMet.1, sixMet.2) :=
    Prog.run_ends (fun op (w : Bench.World) => w.answer op)
      ((Registry.new {}).meetAll sixDemands) {}
  obtain ⟨-, -, -, hsame, hlabels, hone, -⟩ := meetAll_identifies hends
  have hfirst : (.collector "http://coll.example:80/a", .ok ⟨0⟩) ∈ sixMet.1 := .head _
  have hsecond : (.collector "HTTP://coll.example:80/b/", .ok ⟨0⟩) ∈ sixMet.1 := .tail _ (.head _)
  refine ⟨rfl, fun a b ha hb => ?_, hlabels 1, hone⟩
  exact (hsame _ _ _ _ a b hfirst hsecond ha hb).1 rfl

end Registry

end MeterNode
