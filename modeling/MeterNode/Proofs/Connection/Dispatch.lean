import MeterNode.Bench.World
import MeterNode.Proofs.Connection.Deeds

/-!
# What a report leaves alone

A report is for one connection, and the others never notice it (`dispatch_others`).  Reports that
come too late, or from a socket that has been replaced, must not do anything at all: no state, no
time and no reply is lost or gained by them, the transport is not called and nothing is counted.

*Ignored reports.*  `Connection.Ignores` says, report by report, which ones a connection ignores.
Whether it does is settled by the connection, the report and the time, and not by any answer
(`handleEvent_ignored`, `handleEvent_ignores`), so a report that can be ignored is ignored.

*Requests.*  The queue grows by one request at a time, at its end, and only up to `requestDepth`
(`enqueue_ends`).

`Registry.dispatch_frame` puts these together.  `Registry.Founded` is what holds of every registry
that was made with a policy, whatever was done with it since (`Deeds.founded`): its connections are
at their places, its policy is the sanitized one, and no more requests wait than there is room for.
-/

namespace MeterNode

open MeterNode.Text

/-! ## Ignored reports -/

namespace Connection

variable {c d : Connection} {kind : EventKind} {now : Instant} {t : Trace Node}
  {res : EventOutcome × Connection}

/-- The report comes too late for the connection, or it says nothing. -/
def Ignores (c : Connection) (kind : EventKind) (now : Instant) : Prop :=
  match kind with
  | .dnsFound _ => c.state ≠ .dns
  | .connected (.ok ()) => c.state ≠ .connecting
  | .received chunk => chunk.isEmpty ∨ c.state ∈ [.init, .dns, .connecting, .error]
  | .sent _ => c.state ≠ .ready ∧ c.state ≠ .retry
  | .poll => c.overdue now = none
  | .connected (.error _) | .peerClosed | .error _ | .accepted _ => False

/-- Nothing comes of a report: the connection is as it was, the transport is not called and nothing
is counted. -/
def Passes (c : Connection) (t : Trace Node) (res : EventOutcome × Connection) : Prop :=
  res = (.ignored, c) ∧ t.calls = [] ∧ t.tallies = []

theorem passes_of_pure (h : (pure (.ignored, c) : Act (EventOutcome × Connection)).Ends t res) :
    c.Passes t res := by
  obtain ⟨rfl, rfl⟩ := Prog.ends_pure.1 h
  exact ⟨rfl, rfl, rfl⟩

theorem passes_of_log {level : Level} {text : String}
    (h : (do c.log level text; return (.ignored, c) : Act (EventOutcome × Connection)).Ends t res) :
    c.Passes t res := by
  obtain ⟨_, h₁, rfl⟩ := Prog.ends_bind_pure.1 h
  exact ⟨rfl, log_ends h₁⟩

theorem receive_ignores {chunk : Bytes} (hi : c.Ignores (.received chunk) now)
    (h : (c.receive chunk).Ends t res) : c.Passes t res := by
  simp only [receive] at h
  split at h
  next => exact passes_of_pure h
  next hchunk =>
    have hs : c.state ∈ [.init, .dns, .connecting, .error] := hi.resolve_left hchunk
    split at h
    case h_6 => exact passes_of_pure h
    all_goals
      next heq => simp [heq] at hs

theorem noteSent_ignores {length : Nat} (hi : c.Ignores (.sent length) now)
    (h : (c.noteSent length).Ends t res) : c.Passes t res := by
  obtain ⟨hready, hretry⟩ : c.state ≠ .ready ∧ c.state ≠ .retry := hi
  simp only [noteSent] at h
  exact passes_of_log h

/-- Nothing comes of a report that is ignored. -/
theorem handleEvent_ignores (hi : c.Ignores kind now) (h : (c.handleEvent kind now).Ends t res) :
    c.Passes t res := by
  cases kind with
  | dnsFound address =>
    have hs : c.state ≠ .dns := hi
    simp only [handleEvent] at h
    rw [if_pos hs] at h
    exact passes_of_pure h
  | connected result =>
    cases result with
    | ok u =>
      have hs : c.state ≠ .connecting := hi
      simp only [handleEvent] at h
      rw [if_pos hs] at h
      exact passes_of_pure h
    | error e => cases hi
  | received chunk => exact receive_ignores hi h
  | sent length => exact noteSent_ignores hi h
  | poll =>
    have hnever : c.overdue now = none := hi
    simp only [handleEvent, checkTimeout, hnever] at h
    exact passes_of_pure h
  | peerClosed | error => cases hi
  | accepted => cases hi

theorem receive_ignored {chunk : Bytes} (h : (c.receive chunk).Gives (.ignored, d)) :
    c.Ignores (.received chunk) now := by
  simp only [receive] at h
  split at h
  next hchunk => exact Or.inl hchunk
  next =>
    split at h
    case h_1 => simp at h
    case h_6 =>
      right
      cases hs : c.state <;> simp_all
    all_goals simp at h

theorem noteSent_ignored {length : Nat} (h : (c.noteSent length).Gives (.ignored, d)) :
    c.Ignores (.sent length) now := by
  simp only [noteSent] at h
  obtain ⟨_, -, h⟩ := Act.gives_bind.1 h
  split at h
  case h_3 hready hretry => exact ⟨hready, hretry⟩
  all_goals simp at h

/-- The reports that are ignored are those that `Ignores` names. -/
theorem handleEvent_ignored (h : (c.handleEvent kind now).Gives (.ignored, d)) :
    c.Ignores kind now := by
  cases kind with
  | dnsFound address =>
    simp only [handleEvent] at h
    split at h
    next hs => exact hs
    next => simp at h
  | connected result =>
    cases result with
    | ok u =>
      simp only [handleEvent] at h
      split at h
      next hs => exact hs
      next => simp at h
    | error e => simp [handleEvent] at h
  | received chunk => exact receive_ignored h
  | sent length => exact noteSent_ignored h
  | poll =>
    simp only [handleEvent, checkTimeout] at h
    split at h
    next hnever => exact hnever
    next => simp at h
  | peerClosed | error => simp [handleEvent] at h
  | accepted result => cases result <;> simp [handleEvent] at h

theorem applyEvent_deaf {source : Option Handle} (hdeaf : ¬ c.Hears source)
    (h : (c.applyEvent source kind now).Ends t res) : c.Passes t res := by
  obtain ⟨text, hp⟩ := applyEvent_of_deaf hdeaf kind now
  rw [hp] at h
  exact passes_of_log h

/-- A report that can be ignored is ignored. -/
theorem applyEvent_ignored {source : Option Handle}
    (hi : (c.applyEvent source kind now).Gives (.ignored, d))
    (h : (c.applyEvent source kind now).Ends t res) : c.Passes t res := by
  by_cases hhears : c.Hears source
  · rw [applyEvent_of_hears hhears] at hi h
    exact handleEvent_ignores (handleEvent_ignored hi) h
  · exact applyEvent_deaf hhears h

theorem requestIn_eq_some {chunk : Bytes} (h : c.requestIn kind = some chunk) :
    kind = .received chunk ∧ c.state = .server ∧ chunk ≠ [] := by
  simp only [requestIn] at h
  split at h
  next =>
    split at h
    next hs =>
      cases h
      exact ⟨rfl, hs.1, fun hnil => hs.2 (List.isEmpty_iff.2 hnil)⟩
    next => cases h
  next => cases h

end Connection

/-! ## Dispatching -/

namespace Registry

open Connection

variable {r r' : Registry} {c : Connection} {event : TransportEvent} {now : Instant}
  {t : Trace Node}

/-- Nothing is changed, called or counted. -/
structure Untouched (r : Registry) (t : Trace Node) (r' : Registry) : Prop where
  same : r' = r
  calls : t.calls = []
  tallies : t.tallies = []

/-- A request is put behind those that wait, unless there is no room. -/
theorem enqueue_ends {chunk : Bytes} (h : (r.enqueue c chunk).Ends t r') :
    t.calls = [] ∧ t.tallies = [] ∧
      (r' = r ∨ r.requests.length < requestDepth ∧
        r' = { r with requests := r.requests ++ [(c.id, lossyText chunk)] }) := by
  simp only [enqueue] at h
  split at h
  next =>
    obtain ⟨_, h₁, rfl⟩ := Prog.ends_bind_pure.1 h
    rw [Prog.ends_perform.1 h₁]
    exact ⟨rfl, rfl, Or.inl rfl⟩
  next hroom =>
    obtain ⟨rfl, rfl⟩ := Prog.ends_pure.1 h
    exact ⟨rfl, rfl, Or.inr ⟨Nat.lt_of_not_le hroom, rfl⟩⟩

/-- A report is only noted in the log if its connection is unknown.  Otherwise it is applied to the
connection, and what it asks for may be queued. -/
theorem dispatch_ends_parts (h : (r.dispatch event now).Ends t r') :
    r.get? event.conn = none ∧ r.Untouched t r' ∨
      ∃ c t₁ res t₂, r.get? event.conn = some c ∧
        (c.applyEvent event.source event.kind now).Ends t₁ res ∧
        t = t₁ ++ t₂ ∧ t₂.calls = [] ∧ t₂.tallies = [] ∧
        (r' = r.set res.2 ∨ ∃ chunk, res.1.request? = some chunk ∧
          r.requests.length < requestDepth ∧
          r' = { r.set res.2 with
            requests := r.requests ++ [(res.2.id, lossyText chunk)] }) := by
  simp only [dispatch] at h
  split at h
  next hget =>
    obtain ⟨_, h₁, rfl⟩ := Prog.ends_bind_pure.1 h
    rw [Prog.ends_perform.1 h₁]
    exact Or.inl ⟨hget, rfl, rfl, rfl⟩
  next c hget =>
    obtain ⟨t₁, ⟨outcome, d⟩, t₂, h₁, h₂, rfl⟩ := Prog.ends_bind.1 h
    refine Or.inr ⟨c, t₁, _, t₂, hget, h₁, rfl, ?_⟩
    cases outcome with
    | handled | ignored =>
      obtain ⟨rfl, rfl⟩ := Prog.ends_pure.1 h₂
      exact ⟨rfl, rfl, Or.inl rfl⟩
    | request chunk =>
      obtain ⟨hcalls, htallies, hqueued⟩ := enqueue_ends h₂
      exact ⟨hcalls, htallies, hqueued.imp_right fun hnew => ⟨chunk, rfl, hnew⟩⟩

/-- A connection that is put where it is. -/
theorem set_self (h : r.get? c.id = some c) : r.set c = r := by
  have hkept (i : Nat) (hi : r.connections[i]? = some c) :
      r.connections.set i c = r.connections := by
    obtain ⟨hlt, rfl⟩ := List.getElem?_eq_some_iff.1 hi
    exact List.set_getElem_self hlt
  rw [Registry.set, hkept _ h]

theorem set_others {i : Nat} (hi : i ≠ c.id.index.toNat) :
    (r.set c).connections[i]? = r.connections[i]? :=
  List.getElem?_set_ne (Ne.symm hi)

/-- A report changes at most the connection it is for. -/
theorem dispatch_others {i : Nat} (hplaced : r.Placed) (h : (r.dispatch event now).Ends t r')
    (hi : i ≠ event.conn.index.toNat) : r'.connections[i]? = r.connections[i]? := by
  rcases dispatch_ends_parts h with ⟨-, huntouched⟩ | ⟨c, t₁, res, t₂, hget, happly, -, -, -, hr⟩
  · rw [huntouched.same]
  · have hid : res.2.id = event.conn := (applyEvent_id happly.gives).trans (hplaced _ c hget)
    rw [← hid] at hi
    rcases hr with rfl | ⟨chunk, -, -, rfl⟩
    · exact set_others hi
    · exact set_others hi

/-- A report of which nothing comes to its connection leaves the registry as it was. -/
theorem dispatch_passed (hplaced : r.Placed) (h : (r.dispatch event now).Ends t r')
    (hget : r.get? event.conn = some c)
    (hpasses : ∀ t res, (c.applyEvent event.source event.kind now).Ends t res → c.Passes t res) :
    r.Untouched t r' := by
  rcases dispatch_ends_parts h with
    ⟨hnone, -⟩ | ⟨c', t₁, res, t₂, hget', happly, rfl, hcalls, htallies, hr⟩
  · rw [hnone] at hget
    cases hget
  · obtain rfl : c' = c := Option.some.inj (hget'.symm.trans hget)
    obtain ⟨rfl, hcalls₁, htallies₁⟩ := hpasses t₁ res happly
    have hself : r.get? c'.id = some c' := by rwa [hplaced _ c' hget]
    refine ⟨?_, by simp [hcalls₁, hcalls], by simp [htallies₁, htallies]⟩
    rcases hr with rfl | ⟨chunk, hchunk, -⟩
    · exact set_self hself
    · cases hchunk

/-- The request that a report may add to the queue. -/
theorem dispatch_requests (hplaced : r.Placed) (h : (r.dispatch event now).Ends t r') :
    ∃ queued, r'.requests = r.requests ++ queued ∧
      (queued = [] ∨ r'.requests.length ≤ requestDepth ∧
        ∃ c chunk, r.get? event.conn = some c ∧ c.Hears event.source ∧ c.state = .server ∧
          event.kind = .received chunk ∧ chunk ≠ [] ∧
          queued = [(event.conn, lossyText chunk)]) := by
  rcases dispatch_ends_parts h with
    ⟨-, huntouched⟩ | ⟨c, t₁, res, t₂, hget, happly, -, -, -, rfl | ⟨chunk, hchunk, hroom, rfl⟩⟩
  · exact ⟨[], by rw [huntouched.same, List.append_nil], Or.inl rfl⟩
  · exact ⟨[], (List.append_nil _).symm, Or.inl rfl⟩
  · have hid : res.2.id = event.conn := (applyEvent_id happly.gives).trans (hplaced _ c hget)
    rcases applyEvent_gives happly.gives with ⟨hhears, -, hrequest⟩ | ⟨-, -, hnone⟩
    · obtain ⟨hkind, hs, hsome⟩ := requestIn_eq_some (hrequest.symm.trans hchunk)
      refine ⟨_, rfl, Or.inr ⟨?_, c, chunk, hget, hhears, hs, hkind, hsome, by rw [hid]⟩⟩
      rw [List.length_append]
      exact hroom
    · rw [hnone] at hchunk
      cases hchunk

/-! ## All registries -/

/-- What all registries have in common that were made with one policy. -/
structure Founded (policy : NetPolicy) (r : Registry) : Prop where
  placed : r.Placed
  policy : r.policy = policy.sanitized
  short : r.requests.length ≤ requestDepth

section Founded

variable {policy : NetPolicy} {calls : List NetCall.Done}

theorem new_founded (policy : NetPolicy) : (Registry.new policy).Founded policy :=
  ⟨new_placed policy, rfl, Nat.zero_le _⟩

theorem getOrCreate_policy {url : String} {res : Except RegistryError ConnId × Registry}
    (h : (r.getOrCreate url).Gives res) : res.2.policy = r.policy := by
  simp only [getOrCreate] at h
  split at h
  next => simp_all
  next endpoint _ =>
    split at h
    next => simp_all
    next =>
      split at h
      next => simp_all
      next id _ =>
        obtain ⟨⟨result, c⟩, -, h⟩ := Act.gives_bind.1 h
        cases result <;> simp_all

theorem startServer_policy {port : Nat} {res : Except RegistryError ConnId × Registry}
    (h : (r.startServer port).Gives res) : res.2.policy = r.policy := by
  simp only [startServer] at h
  split at h
  next => simp_all
  next =>
    split at h
    next => simp_all
    next id _ =>
      obtain ⟨answer, -, h⟩ := Act.gives_bind.1 h
      cases answer <;> simp_all

theorem Extended.founded (h : r.Extended r') (hpolicy : r'.policy = r.policy)
    (hr : r.Founded policy) : r'.Founded policy := by
  refine ⟨h.placed hr.placed, hpolicy.trans hr.policy, ?_⟩
  rcases h with rfl | ⟨_, -, -, -, -, hrequests⟩
  · exact hr.short
  · rw [hrequests]
    exact hr.short

theorem dispatch_founded (hr : r.Founded policy) (h : (r.dispatch event now).Ends t r') :
    r'.Founded policy := by
  have hshort : r'.requests.length ≤ requestDepth := by
    obtain ⟨queued, hrequests, rfl | ⟨hshort, -⟩⟩ := dispatch_requests hr.placed h
    · rw [hrequests, List.append_nil]
      exact hr.short
    · exact hshort
  rcases dispatch_gives h.gives with ⟨-, rfl⟩ | ⟨c, res, -, -, queued, rfl, -⟩
  · exact hr
  · exact ⟨hr.placed.set res.2, hr.policy, hshort⟩

theorem Deed.founded {source : Option TransportEvent} (h : Deed r source calls r')
    (hr : r.Founded policy) : r'.Founded policy := by
  cases h with
  | getOrCreate h =>
    exact (getOrCreate_gives h.gives).founded (getOrCreate_policy h.gives) hr
  | startServer h =>
    exact (startServer_gives h.gives).founded (startServer_policy h.gives) hr
  | act hget hown hact => exact ⟨hr.placed.set _, hr.policy, hr.short⟩
  | report h => exact dispatch_founded hr h
  | forget => exact ⟨hr.placed, hr.policy, Nat.zero_le _⟩

/-- Whatever is done with a registry. -/
theorem Deeds.founded (h : Deeds r calls r') (hr : r.Founded policy) : r'.Founded policy := by
  induction h with
  | nil => exact hr
  | cons hdeed _ ih => exact ih (hdeed.founded hr)

/-- The owner of a connection does something with it. -/
theorem change_founded {id : ConnId} (op : Connection.Operation) (hr : r.Founded policy)
    (hown : op.isReport = false) (h : (r.change id fun c => op.act c now).Ends t r') :
    r'.Founded policy := by
  rcases change_ends h with ⟨rfl, -⟩ | ⟨c, d, hget, hd, rfl⟩
  · exact hr
  · exact (Deed.act hget hown hd).founded hr

end Founded

/-! ## The frame -/

/-- A report changes at most the connection it is for.  If that is unknown, or holds a socket other
than the one the report came from, or ignores the report, then nothing is changed, called or
counted.  The queue grows by one request at most, at its end, and never beyond two; the request is
what a connection that serves a visitor has just received. -/
theorem dispatch_frame (hplaced : r.Placed) (h : (r.dispatch event now).Ends t r') :
    (∀ i, i ≠ event.conn.index.toNat → r'.connections[i]? = r.connections[i]?) ∧
      (r.get? event.conn = none → r.Untouched t r') ∧
      (∀ c handle, r.get? event.conn = some c → event.source = some handle →
        c.handle ≠ some handle → r.Untouched t r') ∧
      (∀ c d, r.get? event.conn = some c →
        (c.applyEvent event.source event.kind now).Gives (.ignored, d) → r.Untouched t r') ∧
      ∃ queued, r'.requests = r.requests ++ queued ∧
        (queued = [] ∨ r'.requests.length ≤ 2 ∧
          ∃ c chunk, r.get? event.conn = some c ∧ c.Hears event.source ∧ c.state = .server ∧
            event.kind = .received chunk ∧ chunk ≠ [] ∧
            queued = [(event.conn, lossyText chunk)]) := by
  refine ⟨fun i hi => dispatch_others hplaced h hi, fun hnone => ?_, fun c handle hget hsource hheld
    => ?_, fun c d hget hi => ?_, dispatch_requests hplaced h⟩
  · rcases dispatch_ends_parts h with ⟨-, huntouched⟩ | ⟨c, _, _, _, hget, -⟩
    · exact huntouched
    · rw [hnone] at hget
      cases hget
  · have hdeaf : ¬ c.Hears event.source := fun hhears => hheld (hhears handle hsource)
    exact dispatch_passed hplaced h hget fun t res happly => applyEvent_deaf hdeaf happly
  · exact dispatch_passed hplaced h hget fun t res happly => applyEvent_ignored hi happly

/-! ### On the bench -/

/-- A server, on a bench that grants every call. -/
def hosting : (Except RegistryError ConnId × Registry) × Bench.World :=
  Bench.World.run {} ((Registry.new {}).startServer 80)

/-- The server has accepted a visitor on the socket 40. -/
def hosted : Registry × Bench.World :=
  hosting.2.run (hosting.1.2.dispatch ⟨⟨0⟩, none, .accepted (.ok ⟨40⟩)⟩ 0)

theorem hosted_founded : hosted.1.Founded {} := by
  have hserver := Prog.run_ends (fun op (w : Bench.World) => w.answer op)
    ((Registry.new {}).startServer 80) {}
  have haccepted := Prog.run_ends (fun op (w : Bench.World) => w.answer op)
    (hosting.1.2.dispatch ⟨⟨0⟩, none, .accepted (.ok ⟨40⟩)⟩ 0) hosting.2
  exact (Deeds.cons (.startServer hserver) (Deed.report haccepted).once).founded (new_founded {})

/-- The visitor asks for something. -/
def question (socket : UInt8) : TransportEvent :=
  ⟨⟨0⟩, some ⟨socket⟩, .received (bytesOf "ping")⟩

/-- A question from another socket comes to nothing; that of the visitor is queued. -/
theorem hosted_questions :
    hosted.1.Placed ∧
      hosted.1.Untouched (Prog.transcript (fun op w => Bench.World.answer w op)
        (hosted.1.dispatch (question 39) 0) hosted.2)
        (hosted.2.run (hosted.1.dispatch (question 39) 0)).1 ∧
      (hosted.2.run (hosted.1.dispatch (question 40) 0)).1.requests = [(⟨0⟩, "ping")] := by
  have hplaced := hosted_founded.placed
  have hends := Prog.run_ends (fun op (w : Bench.World) => w.answer op)
    (hosted.1.dispatch (question 39) 0) hosted.2
  obtain ⟨-, -, hother, -, -⟩ := dispatch_frame hplaced hends
  obtain ⟨c, hget, hheld⟩ : ∃ c, hosted.1.get? ⟨0⟩ = some c ∧ c.handle ≠ some ⟨39⟩ := by
    cases hc : hosted.1.get? ⟨0⟩ with
    | none => exact absurd (congrArg Option.isSome hc) (by decide +kernel)
    | some c =>
      refine ⟨c, rfl, ?_⟩
      have hhandle : (hosted.1.get? ⟨0⟩).map Connection.handle = some (some ⟨40⟩) := by
        decide +kernel
      rw [hc, Option.map_some, Option.some.injEq] at hhandle
      rw [hhandle]
      decide
  exact ⟨hplaced, hother c ⟨39⟩ hget rfl hheld, by decide +kernel⟩

end Registry

end MeterNode
