import MeterNode.Bench.World
import MeterNode.Proofs.Connection.Dispatch

/-!
# Reports behind a post

Once a request is written, a transport reports that bytes are being sent, that there was an idle
moment, and pieces of the reply, in whatever order it likes; it may also repeat what it said before
about the lookup and the connect, and sockets that were replaced may still have something to say.
None of that can go wrong: `Connection.Allows` lists these reports, and the reply that is buffered in
the end is the last piece that came (`hearAll_after_post`).

* One report puts its piece in the place of the one before, if it has a piece, and does nothing
  otherwise (`applyEvent_replied`).
* So a list of them leaves the last piece (`hearAll_replied`), and the order of everything else does
  not matter.
-/

namespace MeterNode

open MeterNode.Text

/-- A report, the socket it came from, and when it is looked after. -/
structure Arrival where
  source : Option Handle
  kind : EventKind
  time : Instant

namespace Connection

variable {c d e : Connection} {now posted : Instant} {t : Trace Node} {arrivals : List Arrival}

/-- Apply reports in order. -/
def hearAll (c : Connection) (arrivals : List Arrival) : Act Connection :=
  match arrivals with
  | [] => return c
  | a :: rest => do
      let (_, c) ← c.applyEvent a.source a.kind a.time
      c.hearAll rest

/-- The report may come behind a request that was written at a time. -/
def Allows (c : Connection) (posted : Instant) (a : Arrival) : Prop :=
  ¬ c.Hears a.source ∨
    match a.kind with
    | .sent _ | .connected (.ok ()) | .dnsFound _ | .received _ => True
    | .poll => a.time.since posted ≤ c.timeout
    | .connected (.error _) | .peerClosed | .error _ | .accepted _ => False

/-- The piece of a reply that a report brings. -/
def chunk? (c : Connection) (a : Arrival) : Option Bytes :=
  match a.kind with
  | .received chunk => if c.Hears a.source ∧ chunk ≠ [] then some chunk else none
  | _ => none

/-- The connection with a piece of the reply, if there is one. -/
def replied (c : Connection) : Option Bytes → Connection
  | none => c
  | some chunk => { c with state := .replied, response := some chunk }

@[simp] theorem replied_handle (c : Connection) (last : Option Bytes) :
    (c.replied last).handle = c.handle := by
  cases last <;> rfl

@[simp] theorem hears_replied {last : Option Bytes} {source : Option Handle} :
    (c.replied last).Hears source ↔ c.Hears source := by
  simp [Hears]

theorem replied_state (hs : c.state = .sending) (last : Option Bytes) :
    (c.replied last).state = .sending ∨ (c.replied last).state = .replied := by
  cases last with
  | none => exact Or.inl hs
  | some chunk => exact Or.inr rfl

@[simp] theorem replied_replied (c : Connection) (last : Option Bytes) (chunk : Bytes) :
    (c.replied last).replied (some chunk) = c.replied (some chunk) := by
  cases last <;> rfl

/-- Looking after the timeout comes to nothing, in time for a send or behind its reply. -/
theorem replied_overdue (hs : c.state = .sending) (hstarted : c.sendStarted = some posted)
    (htime : now.since posted ≤ c.timeout) (last : Option Bytes) :
    (c.replied last).overdue now = none := by
  cases last with
  | none =>
    have hstart : c.startedAt = some posted := by rw [startedAt, hs, hstarted]
    rw [replied, overdue, hstart]
    simpa [Option.filter] using htime
  | some chunk => rfl

/-- While a reply is awaited or buffered, a report that is allowed and brings nothing is ignored. -/
theorem replied_ignores {a : Arrival} (hs : c.state = .sending)
    (hstarted : c.sendStarted = some posted) (ha : c.Allows posted a) (hhears : c.Hears a.source)
    (hnone : c.chunk? a = none) (last : Option Bytes) :
    (c.replied last).Ignores a.kind a.time := by
  have hbusy := replied_state hs last
  have hkind := ha.resolve_left (not_not_intro hhears)
  obtain ⟨source, kind, time⟩ := a
  cases kind with
  | dnsFound address => rcases hbusy with h | h <;> simp [Ignores, h]
  | connected result =>
    cases result with
    | ok u => rcases hbusy with h | h <;> simp [Ignores, h]
    | error e => cases hkind
  | received chunk =>
    left
    simpa [chunk?, hhears] using hnone
  | sent length => rcases hbusy with h | h <;> simp [Ignores, h]
  | poll => exact replied_overdue hs hstarted hkind last
  | peerClosed | error | accepted => cases hkind

/-- A piece of the reply takes the place of the one before. -/
theorem receive_replied {chunk : Bytes} {last : Option Bytes} {res : EventOutcome × Connection}
    (hs : c.state = .sending) (hchunk : chunk ≠ [])
    (h : ((c.replied last).receive chunk).Ends t res) :
    t.calls = [] ∧ res.2 = c.replied (some chunk) := by
  refine ⟨h.calls_eq_nil receive_offline, ?_⟩
  rw [(receive_gives 0 h.gives).1, after, if_neg (by simpa using hchunk)]
  rcases replied_state hs last with hstate | hstate <;>
    (simp only [hstate]; exact replied_replied c last chunk)

/-- One report behind a post. -/
theorem applyEvent_replied {a : Arrival} {last : Option Bytes} {res : EventOutcome × Connection}
    (hs : c.state = .sending) (hstarted : c.sendStarted = some posted) (ha : c.Allows posted a)
    (h : ((c.replied last).applyEvent a.source a.kind a.time).Ends t res) :
    t.calls = [] ∧ res.2 = c.replied ((c.chunk? a).or last) := by
  cases hchunk : c.chunk? a with
  | none =>
    have hpasses : (c.replied last).Passes t res := by
      by_cases hhears : c.Hears a.source
      · rw [applyEvent_of_hears (hears_replied.2 hhears)] at h
        exact handleEvent_ignores (replied_ignores hs hstarted ha hhears hchunk last) h
      · exact applyEvent_deaf (fun hr => hhears (hears_replied.1 hr)) h
    obtain ⟨rfl, hcalls, -⟩ := hpasses
    exact ⟨hcalls, rfl⟩
  | some chunk =>
    obtain ⟨hkind, hhears, hsome⟩ : a.kind = .received chunk ∧ c.Hears a.source ∧ chunk ≠ [] := by
      simp only [chunk?] at hchunk
      split at hchunk
      next piece hkind =>
        split at hchunk
        next hpiece =>
          cases hchunk
          exact ⟨hkind, hpiece⟩
        next => cases hchunk
      next => cases hchunk
    rw [applyEvent_of_hears (hears_replied.2 hhears), hkind] at h
    exact receive_replied hs hsome h

/-- The last piece of the reply that some reports bring. -/
def lastChunk? (c : Connection) (arrivals : List Arrival) : Option Bytes :=
  (arrivals.filterMap c.chunk?).getLast?

theorem lastChunk?_cons (c : Connection) (a : Arrival) (rest : List Arrival) :
    c.lastChunk? (a :: rest) = (c.lastChunk? rest).or (c.chunk? a) := by
  simp only [lastChunk?]
  cases h : c.chunk? a with
  | none => rw [List.filterMap_cons_none h, Option.or_none]
  | some chunk =>
    rw [List.filterMap_cons_some h, List.getLast?_cons]
    cases (rest.filterMap c.chunk?).getLast? <;> rfl

/-- Reports behind a post, of which some have come already. -/
theorem hearAll_replied {last : Option Bytes} (hs : c.state = .sending)
    (hstarted : c.sendStarted = some posted) (hallowed : ∀ a ∈ arrivals, c.Allows posted a)
    (h : ((c.replied last).hearAll arrivals).Ends t d) :
    t.calls = [] ∧ d = c.replied ((c.lastChunk? arrivals).or last) := by
  induction arrivals generalizing last t with
  | nil =>
    obtain ⟨rfl, rfl⟩ := Prog.ends_pure.1 h
    exact ⟨rfl, rfl⟩
  | cons a rest ih =>
    obtain ⟨t₁, ⟨outcome, x⟩, t₂, h₁, h₂, rfl⟩ := Prog.ends_bind.1 h
    obtain ⟨hcalls₁, hx⟩ := applyEvent_replied hs hstarted (hallowed a List.mem_cons_self) h₁
    obtain rfl : x = c.replied ((c.chunk? a).or last) := hx
    obtain ⟨hcalls₂, hd⟩ := ih (fun b hb => hallowed b (List.mem_cons_of_mem a hb)) h₂
    rw [Trace.calls_append, hcalls₁, hcalls₂, lastChunk?_cons, Option.or_assoc]
    exact ⟨rfl, hd⟩

/-- A post that was successful leaves a request written and no reply. -/
theorem post_written {resource payload : String} (hready : c.state = .ready)
    (hpost : (c.post resource payload posted).Gives d) (hsent : d.state = .sending) :
    d.sendStarted = some posted ∧ d.response = none := by
  cases post_gives_posted hpost with
  | skipped =>
    rw [hready] at hsent
    cases hsent
  | lost | deferred => cases hsent
  | written => exact ⟨rfl, rfl⟩

/-- Behind a post that was successful, the reports that are allowed leave the last piece of the
reply, in whatever order they come; the socket stays and the transport is not called. -/
theorem hearAll_after_post {resource payload : String} {t₀ : Trace Node} (hready : c.state = .ready)
    (hpost : (c.post resource payload posted).Ends t₀ d) (hsent : d.state = .sending)
    (hallowed : ∀ a ∈ arrivals, d.Allows posted a) (h : (d.hearAll arrivals).Ends t e) :
    (match d.lastChunk? arrivals with
      | some chunk => e.state = .replied ∧ e.response = some chunk
      | none => e.state = .sending ∧ e.response = none) ∧
    e.handle = d.handle ∧ t.calls = [] ∧
    ∀ (others : List Arrival) (t' : Trace Node) (e' : Connection),
      (∀ a ∈ others, d.Allows posted a) → d.lastChunk? others = d.lastChunk? arrivals →
      (d.hearAll others).Ends t' e' → e'.state = e.state ∧ e'.response = e.response := by
  obtain ⟨hstarted, hnone⟩ := post_written hready hpost.gives hsent
  have hall {arrivals : List Arrival} {t : Trace Node} {e : Connection}
      (hallowed : ∀ a ∈ arrivals, d.Allows posted a) (h : (d.hearAll arrivals).Ends t e) :
      t.calls = [] ∧ e = d.replied (d.lastChunk? arrivals) := by
    have hfirst : ((d.replied none).hearAll arrivals).Ends t e := h
    have hall := hearAll_replied hsent hstarted hallowed hfirst
    rwa [Option.or_none] at hall
  obtain ⟨hcalls, rfl⟩ := hall hallowed h
  refine ⟨?_, replied_handle d _, hcalls, fun others t' e' hothers hlast h' => ?_⟩
  · cases d.lastChunk? arrivals with
    | none => exact ⟨hsent, hnone⟩
    | some chunk => exact ⟨rfl, rfl⟩
  · obtain ⟨-, rfl⟩ := hall hothers h'
    rw [hlast]
    exact ⟨rfl, rfl⟩

/-! ### On the bench -/

/-- A collector that is connected over the socket 2. -/
def linked : Connection where
  id := ⟨0⟩
  label := "lwi0"
  role := .client ⟨.http, "coll.example", 8080, ""⟩
  timeout := Instant.ofSeconds 30
  state := .ready
  handle := some ⟨2⟩

/-- The collector has been posted to. -/
def awaiting : Connection × Bench.World := Bench.World.run {} (linked.post "/data" "x" 4000)

/-- The reply comes in two pieces, before its request is reported as sent. -/
def overtaking : List Arrival :=
  [⟨some ⟨2⟩, .received (bytesOf "HTTP/1.1 "), 5000⟩, ⟨some ⟨1⟩, .peerClosed, 5000⟩,
    ⟨none, .poll, 6000⟩, ⟨some ⟨2⟩, .received (bytesOf "200 OK"), 7000⟩,
    ⟨some ⟨2⟩, .sent 64, 8000⟩, ⟨some ⟨2⟩, .received [], 9000⟩]

theorem overtaking_replied :
    let e := (awaiting.2.run (awaiting.1.hearAll overtaking)).1
    linked.state = .ready ∧ awaiting.1.state = .sending ∧ e.state = .replied ∧
      e.response = some (bytesOf "200 OK") ∧ e.handle = awaiting.1.handle := by
  have hhandle : awaiting.1.handle = some ⟨2⟩ := by decide +kernel
  have hsent : awaiting.1.state = .sending := by decide +kernel
  have htimeout : awaiting.1.timeout = Instant.ofSeconds 30 := by decide +kernel
  have hallowed : ∀ a ∈ overtaking, awaiting.1.Allows 4000 a := by
    simp [overtaking, Allows, Hears, hhandle, htimeout, Instant.since, Instant.ofSeconds]
  have hrun := Prog.run_ends (fun op (w : Bench.World) => w.answer op)
    (linked.post "/data" "x" 4000) {}
  obtain ⟨t₀, hpost⟩ : (linked.post "/data" "x" 4000).Gives awaiting.1 := hrun.gives
  have hheard := Prog.run_ends (fun op (w : Bench.World) => w.answer op)
    (awaiting.1.hearAll overtaking) awaiting.2
  have hlast : awaiting.1.lastChunk? overtaking = some (bytesOf "200 OK") := by decide +kernel
  obtain ⟨hreply, hkept, -, -⟩ := hearAll_after_post rfl hpost hsent hallowed hheard
  rw [hlast] at hreply
  exact ⟨rfl, hsent, hreply.1, hreply.2, hkept⟩

end Connection

end MeterNode
