import MeterNode.Bench.World
import MeterNode.Proofs.Connection.Demands

/-!
# Visitors and their requests

The server connection serves one visitor at a time, and a new one replaces the one before.
Requests wait in a queue under the place of the connection, and are answered later.  Here every
connection is followed together with the number of visitors that it has accepted, and every request
in the queue with the visitor who asked and the socket that he had.

`Reception.Sound` is what all runs have in common: as long as the visitor who asked is the last one
accepted and is still served, his socket is the one that the connection holds.  So a reply can go
astray in one way only, which is that the visitor who asked was replaced in the meantime.
-/

namespace MeterNode

open MeterNode.Text

/-! ## Who asked -/

/-- A request in the queue: the connection it came on, how many visitors that had accepted, and the
socket that it held. -/
structure Ask where
  conn : ConnId
  visit : Nat
  handle : Option Handle
deriving DecidableEq

/-- A registry, its visitors, and who asked what waits in its queue. -/
structure Reception where
  registry : Registry
  /-- The visitors that each connection has accepted. -/
  visits : ConnId → Nat := fun _ => 0
  /-- The requests in the queue. -/
  asks : List Ask := []

namespace Reception

variable {x x' : Reception}

/-- A report brings a new visitor: a connection that listens to its source accepts him. -/
def welcomes (x : Reception) (event : TransportEvent) : Bool :=
  match event.kind, x.registry.get? event.conn with
  | .accepted (.ok _), some c => event.source.all fun handle => c.handle = some handle
  | _, _ => false

/-- What is recorded of a report. -/
def dispatched (x : Reception) (event : TransportEvent) (r : Registry) : Reception :=
  { registry := r
    visits := fun id =>
      if id = event.conn ∧ x.welcomes event then x.visits id + 1 else x.visits id
    asks :=
      if x.registry.requests.length < r.requests.length then
        x.asks ++ [⟨event.conn, x.visits event.conn,
          (x.registry.get? event.conn).bind Connection.handle⟩]
      else x.asks }

/-- A connection is made, a report is applied, or the queue is answered. -/
inductive Step : Reception → Reception → Prop where
  | collector {x : Reception} (url : String) {res : Except RegistryError ConnId × Registry} :
      (x.registry.getOrCreate url).Gives res → Step x { x with registry := res.2 }
  | server {x : Reception} (port : Nat) {res : Except RegistryError ConnId × Registry} :
      (x.registry.startServer port).Gives res → Step x { x with registry := res.2 }
  | report {x : Reception} (event : TransportEvent) (now : Instant) {r : Registry} :
      (x.registry.dispatch event now).Gives r → Step x (x.dispatched event r)
  | answer {x : Reception} (handler : String → Act (Option String)) {r : Registry} :
      (x.registry.answerRequests handler).Gives r → Step x { x with registry := r, asks := [] }

/-- The receptions of all runs. -/
inductive Reached : Reception → Prop where
  | start (policy : NetPolicy) : Reached { registry := Registry.new policy }
  | step {x x' : Reception} : Reached x → Step x x' → Reached x'

/-- The visitor who asked is still served. -/
def Present (x : Reception) (ask : Ask) : Prop :=
  x.visits ask.conn = ask.visit ∧ x.registry.state? ask.conn = some .server

/-- Another visitor is served in place of the one who asked. -/
def Replaced (x : Reception) (ask : Ask) : Prop :=
  x.visits ask.conn ≠ ask.visit ∧ x.registry.state? ask.conn = some .server

/-- What all runs have in common. -/
structure Sound (x : Reception) : Prop where
  placed : x.registry.Placed
  held : ∀ id c, x.registry.get? id = some c → c.state = .server → c.handle.isSome
  queue : x.asks.map Ask.conn = x.registry.requests.map Prod.fst
  past : ∀ ask ∈ x.asks, ask.visit ≤ x.visits ask.conn
  same : ∀ ask ∈ x.asks, x.visits ask.conn = ask.visit → ∀ c,
    x.registry.get? ask.conn = some c → c.state = .server → c.handle = ask.handle

theorem start_sound (policy : NetPolicy) :
    Sound { registry := Registry.new policy } := by
  refine ⟨Registry.new_placed policy, ?_, rfl, ?_, ?_⟩
  · intro id c hc
    cases hc
  · intro ask hask
    cases hask
  · intro ask hask
    cases hask

/-- New connections serve nobody. -/
theorem Sound.extended {r : Registry} (h : x.Sound) (hr : x.registry.Extended r) :
    Sound { x with registry := r } := by
  have hrequests : r.requests = x.registry.requests := by
    rcases hr with rfl | ⟨_, -, -, -, -, hrequests⟩
    · rfl
    · exact hrequests
  refine ⟨hr.placed h.placed, ?_, ?_, h.past, ?_⟩
  · intro id c hc hs
    rcases hr.get? hc with hold | ⟨-, hinit⟩
    · exact h.held id c hold hs
    · rw [hinit] at hs
      cases hs
  · rw [h.queue, ← hrequests]
  · intro ask hask hvisit c hc hs
    rcases hr.get? hc with hold | ⟨-, hinit⟩
    · exact h.same ask hask hvisit c hold hs
    · rw [hinit] at hs
      cases hs

theorem welcomes_iff {event : TransportEvent} {c : Connection}
    (hget : x.registry.get? event.conn = some c) :
    x.welcomes event = true ↔
      (∃ handle, event.kind = .accepted (.ok handle)) ∧ c.Hears event.source := by
  simp only [welcomes]
  rw [hget]
  split
  next heq hsome =>
    cases hsome
    rw [heq, Connection.hears_iff]
    simp
  next hne =>
    refine iff_of_false Bool.false_ne_true fun ⟨⟨handle, hkind⟩, _⟩ => hne _ _ hkind rfl

/-- A connection that serves a visitor behind a report has just welcomed him, or nothing has
changed. -/
theorem applied_serving {event : TransportEvent} {now : Instant} {c : Connection}
    {res : EventOutcome × Connection} (hget : x.registry.get? event.conn = some c)
    (hres : (c.applyEvent event.source event.kind now).Gives res) (hs : res.2.state = .server) :
    (x.welcomes event = true ∧ res.2.handle.isSome ∧ res.1.request? = none) ∨
      (x.welcomes event = false ∧ res.2 = c) := by
  rcases Connection.applyEvent_gives hres with
    ⟨hhears, ⟨started, hafter⟩, hrequest⟩ | ⟨hdeaf, hsame, -⟩
  · by_cases hkind : ∃ handle, event.kind = .accepted (.ok handle)
    · left
      refine ⟨(welcomes_iff hget).2 ⟨hkind, hhears⟩, ?_⟩
      obtain ⟨handle, hkind⟩ := hkind
      rw [hafter, hrequest, hkind]
      exact ⟨rfl, rfl⟩
    · right
      have hunwelcome : ¬ x.welcomes event = true := fun h => hkind ((welcomes_iff hget).1 h).1
      rw [hafter] at hs
      rcases Connection.after_serving hs with haccepted | ⟨-, hkept⟩
      · exact absurd haccepted hkind
      · exact ⟨Bool.not_eq_true _ ▸ hunwelcome, hafter.trans hkept⟩
  · right
    have hunwelcome : ¬ x.welcomes event = true := fun h => hdeaf ((welcomes_iff hget).1 h).2
    exact ⟨Bool.not_eq_true _ ▸ hunwelcome, hsame⟩

theorem dispatched_unknown {event : TransportEvent} (hget : x.registry.get? event.conn = none) :
    x.dispatched event x.registry = x := by
  have hunwelcome : x.welcomes event = false := by
    simp only [welcomes]
    rw [hget]
    split
    next h => cases h
    next => rfl
  simp [dispatched, hunwelcome]

theorem le_visits (event : TransportEvent) (r : Registry) (id : ConnId) :
    x.visits id ≤ (x.dispatched event r).visits id := by
  simp only [Reception.dispatched]
  split
  · exact Nat.le_succ _
  · exact Nat.le_refl _

theorem visits_welcomed {event : TransportEvent} {r : Registry} {id : ConnId}
    (hwelcome : x.welcomes event = true) (hid : id = event.conn) :
    (x.dispatched event r).visits id = x.visits id + 1 :=
  if_pos ⟨hid, hwelcome⟩

theorem mem_asks {event : TransportEvent} {r : Registry} {ask : Ask}
    (h : ask ∈ (x.dispatched event r).asks) :
    ask ∈ x.asks ∨ ask = ⟨event.conn, x.visits event.conn,
        (x.registry.get? event.conn).bind Connection.handle⟩ ∧
      x.registry.requests.length < r.requests.length := by
  simp only [Reception.dispatched] at h
  split at h
  next hmore =>
    rcases List.mem_append.1 h with hold | hnew
    · exact Or.inl hold
    · exact Or.inr ⟨List.mem_singleton.1 hnew, hmore⟩
  next => exact Or.inl h

theorem Sound.dispatched {event : TransportEvent} {now : Instant} {r : Registry} (h : x.Sound)
    (hr : (x.registry.dispatch event now).Gives r) : (x.dispatched event r).Sound := by
  rcases Registry.dispatch_gives hr with ⟨hnone, rfl⟩ | ⟨c, res, hget, hres, queued, rfl, hqueued⟩
  · rw [dispatched_unknown hnone]
    exact h
  have hid : res.2.id = event.conn := (Connection.applyEvent_id hres).trans (h.placed _ _ hget)
  have hserving := applied_serving hget hres
  -- The connection of the report is the only one that has changed.
  have hget' (id : ConnId) (d : Connection) (hd : (x.registry.set res.2).get? id = some d) :
      id = event.conn ∧ d = res.2 ∨ id ≠ event.conn ∧ x.registry.get? id = some d := by
    rw [Registry.get?_set, hid] at hd
    split at hd
    next heq =>
      rw [heq, hget] at hd
      cases hd
      exact Or.inl ⟨heq, rfl⟩
    next hne => exact Or.inr ⟨hne, hd⟩
  refine ⟨h.placed.set res.2, ?_, ?_, ?_, ?_⟩
  · intro id d hd hs
    rcases hget' id d hd with ⟨-, rfl⟩ | ⟨-, hold⟩
    · rcases hserving hs with ⟨-, hsome, -⟩ | ⟨-, hsame⟩
      · exact hsome
      · rw [hsame] at hs ⊢
        exact h.held _ c hget hs
    · exact h.held id d hold hs
  · rcases hqueued with rfl | ⟨chunk, -, rfl⟩
    · simp [Reception.dispatched, h.queue]
    · simp [Reception.dispatched, h.queue, hid]
  · intro ask hask
    refine Nat.le_trans ?_ (le_visits event _ ask.conn)
    rcases mem_asks hask with hold | ⟨rfl, -⟩
    · exact h.past ask hold
    · exact Nat.le_refl _
  · intro ask hask hvisit d hd hs
    rcases mem_asks hask with hold | ⟨rfl, hmore⟩
    · have hpast := h.past ask hold
      have hkept := le_visits (x := x) event { x.registry.set res.2 with
        requests := x.registry.requests ++ queued } ask.conn
      have hsame : x.visits ask.conn = ask.visit := by omega
      rcases hget' ask.conn d hd with ⟨hconn, rfl⟩ | ⟨-, hother⟩
      · rcases hserving hs with ⟨hwelcome, -⟩ | ⟨-, hunchanged⟩
        · rw [visits_welcomed hwelcome hconn] at hvisit
          omega
        · rw [hunchanged] at hs ⊢
          rw [← hconn] at hget
          exact h.same ask hold hsame c hget hs
      · exact h.same ask hold hsame d hother hs
    · rcases hget' event.conn d hd with ⟨-, rfl⟩ | ⟨hne, -⟩
      · have hchunk : ∃ chunk, res.1.request? = some chunk := by
          rcases hqueued with rfl | ⟨chunk, hchunk, -⟩
          · simp at hmore
          · exact ⟨chunk, hchunk⟩
        obtain ⟨chunk, hchunk⟩ := hchunk
        rcases hserving hs with ⟨-, -, hnone⟩ | ⟨-, hunchanged⟩
        · rw [hnone] at hchunk
          cases hchunk
        · simp [hunchanged, hget]
      · exact absurd rfl hne

theorem Step.sound (hstep : Step x x') (h : x.Sound) : x'.Sound := by
  cases hstep with
  | collector url hr => exact h.extended (Registry.getOrCreate_gives hr)
  | server port hr => exact h.extended (Registry.startServer_gives hr)
  | report event now hr => exact h.dispatched hr
  | answer handler hr =>
    obtain ⟨t, hr⟩ := hr
    obtain ⟨rfl, -⟩ := Registry.answerRequests_ends hr
    refine ⟨h.placed, h.held, rfl, ?_, ?_⟩
    · intro ask hask
      cases hask
    · intro ask hask
      cases hask

theorem Reached.sound (h : Reached x) : x.Sound := by
  induction h with
  | start policy => exact start_sound policy
  | step _ hstep ih => exact hstep.sound ih

/-! ## Replies -/

/-- What is written in answer to a request goes to the socket of the visitor who asked, and nothing
is written once he is gone. -/
def Proper (x : Reception) (ask : Ask) (t : Trace Node) : Prop :=
  (∀ w ∈ t.writes, some w.1 = ask.handle) ∧ (¬ x.Present ask → t.writes = [])

/-- The answers to all requests in the queue are proper. -/
def AnswersProperly (x : Reception) (handler : String → Act (Option String)) : Prop :=
  ∀ ts, Registry.Answered x.registry handler x.registry.requests ts →
    ∀ (i : Nat) ask t, x.asks[i]? = some ask → ts[i]? = some t → x.Proper ask t

section Replies

variable {handler : String → Act (Option String)} {ask : Ask} {t : Trace Node} {u : Unit}
  {request : String}

theorem Sound.request_of_ask {i : Nat} (h : x.Sound) (hask : x.asks[i]? = some ask) :
    ∃ request, x.registry.requests[i]? = some (ask.conn, request) := by
  have hqueue := congrArg (·[i]?) h.queue
  simp only [List.getElem?_map, hask, Option.map_some] at hqueue
  cases hrequest : x.registry.requests[i]? with
  | none => simp [hrequest] at hqueue
  | some pair =>
    obtain ⟨id, request⟩ := pair
    simp only [hrequest, Option.map_some, Option.some.injEq] at hqueue
    exact ⟨request, by rw [hqueue]⟩

/-- A connection that serves a visitor holds a socket. -/
theorem Sound.serving {id : ConnId} (h : x.Sound) (hs : x.registry.state? id = some .server) :
    ∃ c handle, x.registry.get? id = some c ∧ c.state = .server ∧ c.handle = some handle := by
  simp only [Registry.state?] at hs
  cases hget : x.registry.get? id with
  | none => simp [hget] at hs
  | some c =>
    rw [hget, Option.map_some, Option.some.injEq] at hs
    obtain ⟨handle, hh⟩ := Option.isSome_iff_exists.1 (h.held id c hget hs)
    exact ⟨c, handle, rfl, hs, hh⟩

theorem Sound.proper (h : x.Sound) (hask : ask ∈ x.asks) (hkept : ¬ x.Replaced ask)
    (hsilent : Registry.Silent handler)
    (ht : (x.registry.answerOne handler ask.conn request).Ends t u) : x.Proper ask t := by
  by_cases hs : x.registry.state? ask.conn = some .server
  · have hvisit : x.visits ask.conn = ask.visit :=
      Classical.byContradiction fun hne => hkept ⟨hne, hs⟩
    obtain ⟨c, handle, hget, hserving, hh⟩ := h.serving hs
    obtain ⟨t₁, reply, -, hw⟩ := Registry.answerOne_served hsilent ht hget hserving hh
    refine ⟨fun w hmem => ?_, fun habsent => absurd ⟨hvisit, hs⟩ habsent⟩
    rw [← h.same ask hask hvisit c hget hserving, hh]
    rw [hw] at hmem
    cases reply with
    | none => cases hmem
    | some reply => rw [List.mem_singleton.1 hmem]
  · have hw := Registry.answerOne_unserved ht hs
    rw [Proper, hw]
    exact ⟨by simp, fun _ => rfl⟩

/-- A reply to a visitor who was replaced is written all the same. -/
theorem Sound.not_proper {reply : String} (h : x.Sound) (hreplaced : x.Replaced ask)
    (ht : (x.registry.answerOne (fun _ => pure (some reply)) ask.conn request).Ends t u) :
    ¬ x.Proper ask t := by
  obtain ⟨hne, hs⟩ := hreplaced
  obtain ⟨c, handle, hget, hserving, hh⟩ := h.serving hs
  have hsilent : Registry.Silent fun _ => pure (some reply) := fun _ => Act.asks_pure
  obtain ⟨t₁, given, hgiven, hw⟩ := Registry.answerOne_served hsilent ht hget hserving hh
  obtain ⟨-, rfl⟩ := Prog.ends_pure.1 hgiven
  intro hproper
  have hnone := hproper.2 fun hpresent => hne hpresent.1
  rw [hw] at hnone
  cases hnone

end Replies

/-- The queue is answered request by request.  Whatever the handler, every reply goes to the visitor
who asked and nobody else is written to, if and only if none of those who wait for an answer has
been replaced by another visitor. -/
theorem Reached.answers_properly_iff (h : Reached x) :
    (∀ handler t r, (x.registry.answerRequests handler).Ends t r →
      ∃ ts, Registry.Answered x.registry handler x.registry.requests ts ∧ t = ts.flatten ∧
        ts.length = x.asks.length) ∧
    ((∀ handler, Registry.Silent handler → x.AnswersProperly handler) ↔
      ∀ ask ∈ x.asks, ¬ x.Replaced ask) := by
  have hsound := h.sound
  have hlength : x.registry.requests.length = x.asks.length := by
    rw [← List.length_map Prod.fst, ← hsound.queue, List.length_map]
  refine ⟨fun handler t r hends => ?_, fun hproper ask hask hreplaced => ?_, ?_⟩
  · obtain ⟨-, ts, hts, rfl⟩ := Registry.answerRequests_ends hends
    exact ⟨ts, hts, rfl, hts.length_eq.trans hlength⟩
  · have hrun := Prog.run_ends (fun op w => Bench.World.answer w op)
      (x.registry.answerRequests fun _ => pure (some "")) {}
    obtain ⟨-, ts, hts, -⟩ := Registry.answerRequests_ends hrun
    obtain ⟨i, hi⟩ := List.mem_iff_getElem?.1 hask
    obtain ⟨request, hrequest⟩ := hsound.request_of_ask hi
    have hlt : i < ts.length := by
      rw [hts.length_eq]
      exact (List.getElem?_eq_some_iff.1 hrequest).1
    have hget := List.getElem?_eq_getElem hlt
    obtain ⟨u, hone⟩ := hts.get hrequest hget
    exact hsound.not_proper hreplaced hone
      (hproper _ (fun _ => Act.asks_pure) ts hts i ask _ hi hget)
  · intro hkept handler hsilent ts hts i ask t hask ht
    obtain ⟨request, hrequest⟩ := hsound.request_of_ask hask
    obtain ⟨u, hone⟩ := hts.get hrequest ht
    have hmem := List.mem_iff_getElem?.2 ⟨i, hask⟩
    exact hsound.proper hmem (hkept ask hmem) hsilent hone

/-! ## Runs on the bench -/

/-- Report something to the first connection. -/
def hear (xw : Reception × Bench.World) (kind : EventKind) : Reception × Bench.World :=
  let event : TransportEvent := ⟨⟨0⟩, none, kind⟩
  let (r, w) := xw.2.run (xw.1.registry.dispatch event 0)
  (xw.1.dispatched event r, w)

/-- The reception after some reports to a server, with the answers of a bench. -/
def serve (events : List EventKind) : Reception :=
  let start : Reception := { registry := Registry.new {} }
  let (res, w) := Bench.World.run {} (start.registry.startServer 80)
  (events.foldl hear ({ start with registry := res.2 }, w)).1

theorem hear_reached {events : List EventKind} {xw : Reception × Bench.World}
    (h : Reached xw.1) : Reached (events.foldl hear xw).1 := by
  induction events generalizing xw with
  | nil => exact h
  | cons kind rest ih => exact ih (h.step (.report _ 0 (Prog.run_ends _ _ xw.2).gives))

theorem serve_reached (events : List EventKind) : Reached (serve events) := by
  have hstart := Prog.run_ends (fun op w => Bench.World.answer w op)
    ((Registry.new {}).startServer 80) {}
  exact hear_reached ((Reached.start {}).step (.server 80 hstart.gives))

/-- A visitor on the socket 40 asks for something. -/
def asking : List EventKind := [.accepted (.ok ⟨40⟩), .received (bytesOf "ping")]

/-- A visitor who is still there is answered properly. -/
theorem answers_properly_asking :
    (serve asking).asks = [⟨⟨0⟩, 1, some ⟨40⟩⟩] ∧
      (serve asking).AnswersProperly fun _ => pure (some "pong") := by
  refine ⟨by decide +kernel, ?_⟩
  refine ((serve_reached asking).answers_properly_iff).2.2 ?_ _ fun _ => Act.asks_pure
  simp only [Replaced]
  decide +kernel

/-- Another visitor comes before the answer, and gets it. -/
theorem reply_to_another_visitor :
    Reached (serve (asking ++ [.peerClosed, .accepted (.ok ⟨41⟩)])) ∧
      (serve (asking ++ [.peerClosed, .accepted (.ok ⟨41⟩)])).asks = [⟨⟨0⟩, 1, some ⟨40⟩⟩] ∧
      ∃ t r, ((serve (asking ++ [.peerClosed, .accepted (.ok ⟨41⟩)])).registry.answerRequests
          fun _ => pure (some "pong")).Ends t r ∧
        t.writes = [(⟨41⟩, bytesOf "pong")] := by
  refine ⟨serve_reached _, by decide +kernel, _, _,
    Prog.run_ends (fun op w => Bench.World.answer w op) _ {}, ?_⟩
  decide +kernel

end Reception

end MeterNode
