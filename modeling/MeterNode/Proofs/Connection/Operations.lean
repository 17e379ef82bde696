import MeterNode.Connection.Basic
import MeterNode.Proofs.Kinds

/-!
# What operations leave of a connection

A connection changes in the same way however the transport answers, except that a connect that
could not be started sends it back to `Init`.  So every operation has a closed form, which the
lemmas `..._gives` state: `released` for giving the socket back, and `after` for a report.

The lemmas `..._kinds` say what the operations ask for.  Only `Connection.post` and
`Connection.respond` hand something to the transport, as the lemmas `..._quiet` say of the others,
and `post_writes` says what a post writes.
-/

namespace MeterNode

open MeterNode.Text

/-- The request that came with a report. -/
def EventOutcome.request? : EventOutcome → Option Bytes
  | .request chunk => some chunk
  | _ => none

namespace Connection

variable {c d : Connection}

@[simp] theorem gives_log {level : Level} {text : String} {u : Unit} :
    Prog.Gives (c.log level text) u :=
  Act.gives_log

@[simp] theorem asks_log {allowed : Effect → Prop} {level : Level} {text : String} :
    Prog.Asks allowed (c.log level text) ↔
      allowed (.log level ("conn: id=" ++ c.label ++ " " ++ text)) :=
  Act.asks_log

/-! ## Giving the socket back -/

/-- The connection without its socket. -/
def released (c : Connection) : Connection :=
  match c.handle with
  | none => c
  | some _ => { c with handle := none, fresh := false }

@[simp] theorem released_handle (c : Connection) : c.released.handle = none := by
  simp only [released]
  split <;> simp [*]

@[simp] theorem released_id (c : Connection) : c.released.id = c.id := by
  simp only [released]
  split <;> rfl

theorem released_of_none (h : c.handle = none) : c.released = c := by
  rw [released, h]

theorem released_of_some {handle : Handle} (h : c.handle = some handle) :
    c.released = { c with handle := none, fresh := false } := by
  rw [released, h]

theorem release_gives {r : Except NetError Unit × Connection} (h : c.release.Gives r) :
    r.2 = c.released := by
  simp only [release] at h
  split at h
  next hnone =>
    rw [Act.gives_pure.1 h, released_of_none hnone]
  next handle hsome =>
    simp only [Act.gives_bind, Act.gives_net, true_and, exists_const] at h
    obtain ⟨answer, h⟩ := h
    rw [released_of_some hsome]
    cases answer with
    | ok u => rw [Act.gives_pure.1 h]
    | error e =>
      simp only [Act.gives_bind, gives_log, Act.gives_net, Act.gives_pure, true_and,
        exists_const] at h
      rw [h]

theorem setState_gives {next : ConnState} {reason : String}
    (h : (c.setState next reason).Gives d) : d = { c with state := next } := by
  simp only [setState] at h
  split at h
  next hc =>
    simp only [Act.gives_pure] at h
    simp [h, ← hc]
  next hc => simpa using h

theorem abandon_gives {reason : String} (h : (c.abandon reason).Gives d) :
    d = { c.released with state := .init } := by
  simp only [abandon, Act.gives_bind] at h
  obtain ⟨r, hr, h⟩ := h
  rw [← release_gives hr]
  exact setState_gives h

theorem fail_gives {text reason : String} (h : (c.fail text reason).Gives d) :
    d = { c with state := .init } := by
  simp only [fail, Act.gives_bind] at h
  obtain ⟨_, -, _, -, h⟩ := h
  exact setState_gives h

theorem attach_gives {handle : Handle} (h : (c.attach handle).Gives d) :
    d = { c with handle := some handle, fresh := false } := by
  simp only [attach, Act.gives_bind, Act.gives_net, Act.gives_pure, true_and, exists_const] at h
  obtain ⟨r, hr, h⟩ := h
  rw [h, release_gives hr]
  simp only [released]
  split <;> rfl

theorem openHandle_gives {res : Except NetError Handle × Connection}
    (h : c.openHandle.Gives res) : res.2.id = c.id ∧ res.2.state = c.state := by
  simp only [openHandle] at h
  split at h
  next =>
    simp only [Act.gives_pure] at h
    simp [h]
  next =>
    simp only [Act.gives_bind, Act.gives_net, true_and] at h
    obtain ⟨answer, h⟩ := h
    cases answer with
    | error e =>
      simp only [Act.gives_pure] at h
      simp [h]
    | ok handle =>
      simp only [Act.gives_bind, Act.gives_pure] at h
      obtain ⟨d, hd, rfl⟩ := h
      rw [attach_gives hd]
      exact ⟨rfl, rfl⟩

/-! ## Reports -/

/-- The connection after the outcome of a lookup; `started` says whether the transport took the
connect. -/
def afterLookup (c : Connection) (address : Option Address) (now : Instant) (started : Bool) :
    Connection :=
  match address, c.handle, c.endpoint with
  | some address, some _, some _ =>
      { c with
        remote := some address
        connectStarted := some now
        state := if started then .connecting else .init }
  | _, _, _ => { c with state := .init }

theorem foundAddress_gives {address : Option Address} {now : Instant}
    (h : (c.foundAddress address now).Gives d) :
    ∃ started, d = c.afterLookup address now started := by
  simp only [foundAddress] at h
  simp only [afterLookup]
  split at h
  next => exact ⟨true, fail_gives h⟩
  next address =>
    split at h
    next handle endpoint hh he =>
      simp only [Act.gives_bind, Act.gives_net, true_and] at h
      obtain ⟨c', hc', answer, h⟩ := h
      cases setState_gives hc'
      cases answer with
      | ok u =>
        simp only [Act.gives_pure] at h
        exact ⟨true, by simp [h, hh, he]⟩
      | error e => exact ⟨false, by simp [fail_gives h, hh, he]⟩
    next hne =>
      refine ⟨true, ?_⟩
      rw [setState_gives h]
      split
      next _ _ _ hh he => exact absurd he (hne _ _ hh)
      next => rfl

/-- The connection after a report. -/
def after (c : Connection) (kind : EventKind) (now : Instant) (started : Bool) : Connection :=
  match kind with
  | .dnsFound address => if c.state = .dns then c.afterLookup address now started else c
  | .connected (.ok ()) => if c.state = .connecting then { c with state := .ready } else c
  | .connected (.error _) => { c with state := .init }
  | .received chunk =>
      if chunk.isEmpty then c
      else
        match c.state with
        | .ready | .sending | .retry | .replied =>
            { c with response := some chunk, state := .replied }
        | _ => c
  | .peerClosed => { c.released with state := .init }
  | .sent _ =>
      match c.state with
      | .ready => { c with state := .sending }
      | .retry => { c with state := .ready }
      | _ => c
  | .poll => if (c.overdue now).isSome then { c.released with state := .init } else c
  | .error _ => { c with handle := none, fresh := false, state := .init }
  | .accepted (.ok handle) =>
      { c with handle := some handle, fresh := false, response := none, state := .server }
  | .accepted (.error _) => { c.released with state := .init }

/-- The request that a report brings, if any. -/
def requestIn (c : Connection) : EventKind → Option Bytes
  | .received chunk => if c.state = .server ∧ ¬ chunk.isEmpty then some chunk else none
  | _ => none

theorem checkTimeout_gives {now : Instant} {r : Bool × Connection}
    (h : (c.checkTimeout now).Gives r) : r.2 = c.after .poll now true := by
  simp only [checkTimeout] at h
  simp only [after]
  split at h
  next hc =>
    simp only [Act.gives_pure] at h
    simp [h, hc]
  next elapsed hc =>
    simp only [Act.gives_bind, Act.gives_pure] at h
    obtain ⟨_, -, _, -, d, hd, h⟩ := h
    simp [h, hc, abandon_gives hd]

theorem receive_gives {chunk : Bytes} (now : Instant) {r : EventOutcome × Connection}
    (h : (c.receive chunk).Gives r) :
    r.2 = c.after (.received chunk) now true ∧ r.1.request? = c.requestIn (.received chunk) := by
  simp only [receive] at h
  simp only [after, requestIn]
  split at h
  next hc =>
    simp only [Act.gives_pure] at h
    simp [h, hc, EventOutcome.request?]
  next hc =>
    split at h
    case h_1 hs =>
      simp only [Act.gives_pure] at h
      simp [h, hc, hs, EventOutcome.request?]
    case h_6 =>
      simp only [Act.gives_pure] at h
      subst h
      cases hs : c.state <;> simp_all [EventOutcome.request?]
    all_goals
      next hs =>
        simp only [Act.gives_bind, Act.gives_pure] at h
        obtain ⟨_, -, d, hd, h⟩ := h
        simp [h, hc, hs, setState_gives hd, EventOutcome.request?]

theorem noteSent_gives {length : Nat} (now : Instant) {r : EventOutcome × Connection}
    (h : (c.noteSent length).Gives r) :
    r.2 = c.after (.sent length) now true ∧ r.1.request? = none := by
  simp only [noteSent, Act.gives_bind] at h
  obtain ⟨_, -, h⟩ := h
  split at h
  case h_3 =>
    simp only [Act.gives_pure] at h
    subst h
    cases hs : c.state <;> simp_all [after, EventOutcome.request?]
  all_goals
    next hs =>
      obtain ⟨d, hd, h⟩ := Act.gives_bind.1 h
      rw [Act.gives_pure.1 h, setState_gives hd]
      exact ⟨by rw [after, hs], rfl⟩

/-- A report changes a connection and brings a request as `after` and `requestIn` say. -/
theorem handleEvent_gives {kind : EventKind} {now : Instant} {r : EventOutcome × Connection}
    (h : (c.handleEvent kind now).Gives r) :
    (∃ started, r.2 = c.after kind now started) ∧ r.1.request? = c.requestIn kind := by
  cases kind with
  | dnsFound address =>
    simp only [handleEvent, after, requestIn] at h ⊢
    split at h
    next hs =>
      simp only [Act.gives_pure] at h
      simp [h, hs, EventOutcome.request?]
    next hs =>
      simp only [Act.gives_bind, Act.gives_pure] at h
      obtain ⟨d, hd, rfl⟩ := h
      obtain ⟨started, hd⟩ := foundAddress_gives hd
      refine ⟨⟨started, ?_⟩, rfl⟩
      rw [if_pos (Classical.not_not.1 hs), hd]
  | connected result =>
    cases result with
    | ok u =>
      simp only [handleEvent, after, requestIn] at h ⊢
      split at h
      next hs =>
        simp only [Act.gives_pure] at h
        simp [h, hs, EventOutcome.request?]
      next hs =>
        simp only [Act.gives_bind, Act.gives_pure] at h
        obtain ⟨_, -, d, hd, rfl⟩ := h
        refine ⟨⟨true, ?_⟩, rfl⟩
        rw [if_pos (Classical.not_not.1 hs), setState_gives hd]
    | error e =>
      simp only [handleEvent, Act.gives_bind, Act.gives_pure] at h
      obtain ⟨d, hd, rfl⟩ := h
      exact ⟨⟨true, fail_gives hd⟩, rfl⟩
  | received chunk =>
    obtain ⟨hc, hr⟩ := receive_gives now h
    exact ⟨⟨true, hc⟩, hr⟩
  | peerClosed =>
    simp only [handleEvent, Act.gives_bind, Act.gives_pure] at h
    obtain ⟨_, -, d, hd, rfl⟩ := h
    exact ⟨⟨true, abandon_gives hd⟩, rfl⟩
  | sent length =>
    obtain ⟨hc, hr⟩ := noteSent_gives now h
    exact ⟨⟨true, hc⟩, hr⟩
  | poll =>
    simp only [handleEvent, Act.gives_bind, Act.gives_pure] at h
    obtain ⟨⟨late, d⟩, hd, rfl⟩ := h
    refine ⟨⟨true, checkTimeout_gives hd⟩, ?_⟩
    cases late <;> rfl
  | error e =>
    simp only [handleEvent, Act.gives_bind, Act.gives_pure] at h
    obtain ⟨_, -, _, -, d, hd, rfl⟩ := h
    exact ⟨⟨true, setState_gives hd⟩, rfl⟩
  | accepted result =>
    cases result with
    | ok handle =>
      simp only [handleEvent, Act.gives_bind, Act.gives_pure] at h
      obtain ⟨_, -, d, hd, e, he, rfl⟩ := h
      refine ⟨⟨true, ?_⟩, rfl⟩
      rw [setState_gives he, attach_gives hd]
      rfl
    | error e =>
      simp only [handleEvent, Act.gives_bind, Act.gives_pure] at h
      obtain ⟨_, -, d, hd, rfl⟩ := h
      exact ⟨⟨true, abandon_gives hd⟩, rfl⟩

/-- The connection listens to a source. -/
def Hears (c : Connection) (source : Option Handle) : Prop :=
  ∀ handle, source = some handle → c.handle = some handle

theorem hears_iff {source : Option Handle} :
    (source.all fun handle => decide (c.handle = some handle)) = true ↔ c.Hears source := by
  cases source <;> simp [Hears]

instance (c : Connection) (source : Option Handle) : Decidable (c.Hears source) :=
  decidable_of_iff _ hears_iff

theorem applyEvent_of_hears {source : Option Handle} {kind : EventKind} {now : Instant}
    (h : c.Hears source) : c.applyEvent source kind now = c.handleEvent kind now := by
  cases source with
  | none => rfl
  | some source => exact if_neg (Classical.not_not.2 (h source rfl))

/-- A report from a socket no longer held is only noted in the log. -/
theorem applyEvent_of_deaf {source : Option Handle} (h : ¬ c.Hears source) (kind : EventKind)
    (now : Instant) :
    ∃ text, c.applyEvent source kind now = do
      c.log .debug text
      return (.ignored, c) := by
  cases source with
  | none => exact absurd (fun _ hnone => by cases hnone) h
  | some source =>
    have hother : c.handle ≠ some source := fun hheld => h fun _ hs => by
      cases hs
      exact hheld
    exact ⟨_, if_pos hother⟩

theorem applyEvent_gives {source : Option Handle} {kind : EventKind} {now : Instant}
    {r : EventOutcome × Connection} (h : (c.applyEvent source kind now).Gives r) :
    (c.Hears source ∧ (∃ started, r.2 = c.after kind now started) ∧
      r.1.request? = c.requestIn kind) ∨
    (¬ c.Hears source ∧ r.2 = c ∧ r.1.request? = none) := by
  by_cases hhears : c.Hears source
  · rw [applyEvent_of_hears hhears] at h
    exact Or.inl ⟨hhears, handleEvent_gives h⟩
  · obtain ⟨text, hdeaf⟩ := applyEvent_of_deaf hhears kind now
    simp only [hdeaf, Act.gives_bind, gives_log, Act.gives_pure] at h
    obtain ⟨_, -, rfl⟩ := h
    exact Or.inr ⟨hhears, rfl, rfl⟩

/-! ## Sending and taking the reply -/

/-- A post leaves a connection at its place, and one that was free to send not in `Error`. -/
theorem post_gives {resource payload : String} {now : Instant}
    (h : (c.post resource payload now).Gives d) :
    d.id = c.id ∧ (c.state = .ready → d.state ≠ .error) := by
  simp only [post] at h
  split at h
  next hs =>
    simp only [Act.gives_bind, gives_log, Act.gives_pure, true_and, exists_const] at h
    subst h
    exact ⟨rfl, fun hready => absurd hready hs⟩
  next hs =>
    have hready : c.state ≠ .error := by simp [Classical.not_not.1 hs]
    split at h
    next =>
      simp only [Act.gives_pure] at h
      subst h
      exact ⟨rfl, fun _ => hready⟩
    next endpoint _ =>
      split at h
      next => simp [setState_gives h]
      next handle _ =>
        simp only [Act.gives_bind, Act.gives_net, true_and] at h
        obtain ⟨_, -, answer, h⟩ := h
        cases answer with
        | ok u =>
          simp only [Act.gives_bind, Act.gives_pure] at h
          obtain ⟨c₁, hc₁, rfl⟩ := h
          simp [setState_gives hc₁]
        | error e =>
          simp only at h
          split at h
          next =>
            simp only [Act.gives_bind] at h
            obtain ⟨_, -, _, -, h⟩ := h
            simp [setState_gives h]
          next => simp [fail_gives h]

theorem resume_gives {r : Bool × Connection} (h : c.resume.Gives r) :
    r.2 = if c.state = .retry then { c with state := .ready } else c := by
  simp only [resume] at h
  split at h
  next hs =>
    simp only [Act.gives_pure] at h
    rw [if_neg hs, h]
  next hs =>
    simp only [Act.gives_bind, Act.gives_pure] at h
    obtain ⟨d, hd, rfl⟩ := h
    rw [if_pos (Classical.not_not.1 hs), setState_gives hd]

/-- The reply leaves the connection without it and without its socket. -/
theorem finishReply_gives {r : Option Bytes × Connection} (h : c.finishReply.Gives r) :
    if c.state = .replied then
      r.1 = c.response ∧ r.2 = { c.released with state := .init, response := none }
    else r = (none, c) := by
  simp only [finishReply] at h
  split at h
  next hs =>
    rw [if_neg hs]
    simpa using h
  next hs =>
    rw [if_pos (Classical.not_not.1 hs)]
    simp only [Act.gives_bind, Act.gives_pure] at h
    obtain ⟨d, hd, rfl⟩ := h
    refine ⟨rfl, ?_⟩
    rw [abandon_gives hd]
    cases hh : c.handle <;> simp [released, hh]

/-! ## The place -/

theorem afterLookup_id {address : Option Address} {now : Instant} {started : Bool} :
    (c.afterLookup address now started).id = c.id := by
  simp only [afterLookup]
  split <;> rfl

theorem after_id {kind : EventKind} {now : Instant} {started : Bool} :
    (c.after kind now started).id = c.id := by
  simp only [after, afterLookup]
  repeat' split
  all_goals first | rfl | exact released_id c

theorem applyEvent_id {source : Option Handle} {kind : EventKind} {now : Instant}
    {res : EventOutcome × Connection}
    (h : (c.applyEvent source kind now).Gives res) : res.2.id = c.id := by
  rcases applyEvent_gives h with ⟨-, ⟨started, hafter⟩, -⟩ | ⟨-, hsame, -⟩
  · rw [hafter]
    exact after_id
  · rw [hsame]

theorem dropUsedHandle_id (h : c.dropUsedHandle.Gives d) : d.id = c.id := by
  simp only [dropUsedHandle] at h
  split at h
  next =>
    simp only [Act.gives_bind, Act.gives_pure] at h
    obtain ⟨r, hr, rfl⟩ := h
    rw [release_gives hr, released_id]
  next =>
    simp only [Act.gives_pure] at h
    rw [h]

theorem lookUp_id {endpoint : Endpoint} {now : Instant} (h : (c.lookUp endpoint now).Gives d) :
    d.id = c.id := by
  simp only [lookUp, Act.gives_bind, Act.gives_net, true_and] at h
  obtain ⟨answer, h⟩ := h
  cases answer with
  | ok found =>
    cases found with
    | resolved address =>
      obtain ⟨started, rfl⟩ := foundAddress_gives h
      exact afterLookup_id
    | pending =>
      simp only [Act.gives_bind, gives_log, Act.gives_pure, true_and, exists_const] at h
      rw [h]
  | error e => rw [fail_gives h]

theorem connect_id {now : Instant} (h : (c.connect now).Gives d) : d.id = c.id := by
  simp only [connect] at h
  split at h
  next =>
    simp only [Act.gives_bind, gives_log, Act.gives_pure, true_and, exists_const] at h
    rw [h]
  next =>
    split at h
    next =>
      simp only [Act.gives_pure] at h
      rw [h]
    next endpoint _ =>
      simp only [Act.gives_bind] at h
      obtain ⟨c₁, hc₁, ⟨result, c₂⟩, hc₂, h⟩ := h
      have hid : c₂.id = c.id := (openHandle_gives hc₂).1.trans (dropUsedHandle_id hc₁)
      cases result with
      | error e =>
        simp only [Act.gives_bind] at h
        obtain ⟨_, -, _, -, h⟩ := h
        rw [setState_gives h]
        exact hid
      | ok handle =>
        simp only [Act.gives_bind] at h
        obtain ⟨_, -, c₃, hc₃, _, -, h⟩ := h
        rw [lookUp_id h, setState_gives hc₃]
        exact hid

theorem finishReply_id {r : Option Bytes × Connection} (h : c.finishReply.Gives r) :
    r.2.id = c.id := by
  have hr := finishReply_gives h
  split at hr
  next =>
    rw [hr.2]
    exact released_id c
  next => rw [hr]

/-! ## What is asked for -/

section Kinds

variable {kinds : List Effect.Kind} {now : Instant}

theorem release_kinds (h : [.note, .socket] ⊆ kinds) : Prog.Asks (Effect.Of kinds) c.release := by
  obtain ⟨hnote, hsocket⟩ : .note ∈ kinds ∧ .socket ∈ kinds := by simpa using h
  simp only [release]
  split
  next => exact Act.asks_pure
  next handle _ =>
    simp only [Act.asks_bind, Act.asks_net, Effect.Of, Effect.kind, hsocket, true_and]
    rintro - - answer -
    cases answer <;> simp [hnote, hsocket]

theorem setState_kinds {next : ConnState} {reason : String} (h : [.note] ⊆ kinds) :
    Prog.Asks (Effect.Of kinds) (c.setState next reason) := by
  have hnote : .note ∈ kinds := by simpa using h
  simp only [setState]
  split <;> simp [hnote]

theorem abandon_kinds {reason : String} (h : [.note, .socket] ⊆ kinds) :
    Prog.Asks (Effect.Of kinds) (c.abandon reason) := by
  obtain ⟨hnote, hsocket⟩ : .note ∈ kinds ∧ .socket ∈ kinds := by simpa using h
  simp [abandon, release_kinds, setState_kinds, hnote, hsocket]

theorem fail_kinds {text reason : String} (h : [.note] ⊆ kinds) :
    Prog.Asks (Effect.Of kinds) (c.fail text reason) := by
  have hnote : .note ∈ kinds := by simpa using h
  simp [fail, setState_kinds, Tally.isFailure, hnote]

theorem attach_kinds {handle : Handle} (h : [.note, .socket] ⊆ kinds) :
    Prog.Asks (Effect.Of kinds) (c.attach handle) := by
  obtain ⟨hnote, hsocket⟩ : .note ∈ kinds ∧ .socket ∈ kinds := by simpa using h
  simp [attach, release_kinds, hnote, hsocket]

theorem foundAddress_kinds {address : Option Address} (h : [.note, .dial] ⊆ kinds) :
    Prog.Asks (Effect.Of kinds) (c.foundAddress address now) := by
  obtain ⟨hnote, hdial⟩ : .note ∈ kinds ∧ .dial ∈ kinds := by simpa using h
  have hnotes : [.note] ⊆ kinds := by simpa using hnote
  simp only [foundAddress]
  split
  next => exact fail_kinds hnotes
  next address =>
    split
    next =>
      simp only [Act.asks_bind, setState_kinds hnotes, Act.asks_net, Effect.Of, Effect.kind, hdial,
        true_and]
      rintro _ - answer -
      cases answer <;> simp [fail_kinds hnotes]
    next => exact setState_kinds hnotes

theorem openHandle_kinds (h : [.note, .socket, .dial] ⊆ kinds) :
    Prog.Asks (Effect.Of kinds) c.openHandle := by
  obtain ⟨hnote, hsocket, hdial⟩ : .note ∈ kinds ∧ .socket ∈ kinds ∧ .dial ∈ kinds := by
    simpa using h
  simp only [openHandle]
  split
  next => exact Act.asks_pure
  next =>
    simp only [Act.asks_bind, Act.asks_net, Effect.Of, Effect.kind, hdial, true_and]
    rintro answer -
    cases answer <;> simp [attach_kinds, hnote, hsocket]

theorem dropUsedHandle_kinds (h : [.note, .socket] ⊆ kinds) :
    Prog.Asks (Effect.Of kinds) c.dropUsedHandle := by
  simp only [dropUsedHandle]
  split <;> simp [release_kinds h]

theorem lookUp_kinds {endpoint : Endpoint} (h : [.note, .dial] ⊆ kinds) :
    Prog.Asks (Effect.Of kinds) (c.lookUp endpoint now) := by
  obtain ⟨hnote, hdial⟩ : .note ∈ kinds ∧ .dial ∈ kinds := by simpa using h
  simp only [lookUp, Act.asks_bind, Act.asks_net, Effect.Of, Effect.kind, hdial, true_and]
  rintro answer -
  cases answer with
  | ok found => cases found <;> simp [foundAddress_kinds, hnote, hdial]
  | error e => simp [fail_kinds, hnote]

theorem connect_kinds (h : [.note, .socket, .dial] ⊆ kinds) :
    Prog.Asks (Effect.Of kinds) (c.connect now) := by
  obtain ⟨hnote, hsocket, hdial⟩ : .note ∈ kinds ∧ .socket ∈ kinds ∧ .dial ∈ kinds := by
    simpa using h
  have hused : Prog.Asks (Effect.Of kinds) c.dropUsedHandle :=
    dropUsedHandle_kinds (by simp [hnote, hsocket])
  simp only [connect]
  split
  next => simp [hnote]
  next =>
    split
    next => exact Act.asks_pure
    next endpoint =>
      simp only [Act.asks_bind, hused, openHandle_kinds h, true_and]
      rintro d - ⟨result, e⟩ -
      cases result <;> simp [setState_kinds, lookUp_kinds, Tally.isFailure, hnote, hdial]

theorem resume_kinds (h : [.note] ⊆ kinds) : Prog.Asks (Effect.Of kinds) c.resume := by
  simp only [resume]
  split <;> simp [setState_kinds h]

theorem post_kinds {resource payload : String} (h : [.note, .send] ⊆ kinds) :
    Prog.Asks (Effect.Of kinds) (c.post resource payload now) := by
  obtain ⟨hnote, hsend⟩ : .note ∈ kinds ∧ .send ∈ kinds := by simpa using h
  have hnotes : [.note] ⊆ kinds := by simpa using hnote
  simp only [post]
  split
  next => simp [hnote]
  next =>
    split
    next => exact Act.asks_pure
    next endpoint _ =>
      split
      next => exact setState_kinds hnotes
      next handle _ =>
        simp only [Act.asks_bind, asks_log, Act.asks_net, Effect.Of, Effect.kind, hnote, hsend,
          true_and]
        rintro - - answer -
        cases answer with
        | ok u => simp [setState_kinds hnotes]
        | error e =>
          simp only
          split <;> simp [setState_kinds hnotes, fail_kinds hnotes, Tally.isFailure, hnote]

theorem finishReply_kinds (h : [.note, .socket] ⊆ kinds) :
    Prog.Asks (Effect.Of kinds) c.finishReply := by
  simp only [finishReply]
  split <;> simp [abandon_kinds h]

theorem checkTimeout_kinds (h : [.note, .socket] ⊆ kinds) :
    Prog.Asks (Effect.Of kinds) (c.checkTimeout now) := by
  obtain ⟨hnote, hsocket⟩ : .note ∈ kinds ∧ .socket ∈ kinds := by simpa using h
  simp only [checkTimeout]
  split <;> simp [abandon_kinds h, Tally.isFailure, hnote]

/-- Only the outcome of a lookup makes a connection dial. -/
theorem handleEvent_kinds_of {kind : EventKind} (h : [.note, .socket] ⊆ kinds)
    (hdial : ∀ address, kind = .dnsFound address → c.state = .dns → .dial ∈ kinds) :
    Prog.Asks (Effect.Of kinds) (c.handleEvent kind now) := by
  obtain ⟨hnote, hsocket⟩ : .note ∈ kinds ∧ .socket ∈ kinds := by simpa using h
  have hnotes : [.note] ⊆ kinds := by simpa using hnote
  cases kind with
  | dnsFound address =>
    simp only [handleEvent]
    split
    next => exact Act.asks_pure
    next hs =>
      have hfound : [.note, .dial] ⊆ kinds := by
        simp [hnote, hdial address rfl (Classical.not_not.1 hs)]
      simp [foundAddress_kinds hfound]
  | connected result =>
    cases result with
    | ok u =>
      simp only [handleEvent]
      split <;> simp [setState_kinds hnotes, hnote]
    | error e => simp [handleEvent, fail_kinds hnotes]
  | received chunk =>
    simp only [handleEvent, receive]
    split
    · simp
    · split <;> simp [setState_kinds hnotes, hnote]
  | peerClosed => simp [handleEvent, abandon_kinds h, hnote]
  | sent length =>
    simp only [handleEvent, noteSent, Act.asks_bind, asks_log, Effect.Of, Effect.kind, hnote,
      true_and]
    rintro - -
    split <;> simp [setState_kinds hnotes]
  | poll => simp [handleEvent, checkTimeout_kinds h]
  | error e => simp [handleEvent, setState_kinds hnotes, Tally.isFailure, hnote]
  | accepted result =>
    cases result <;>
      simp [handleEvent, attach_kinds h, abandon_kinds h, setState_kinds hnotes, hnote]

theorem handleEvent_kinds {kind : EventKind} (h : [.note, .socket] ⊆ kinds)
    (hdial : c.state = .dns → .dial ∈ kinds) :
    Prog.Asks (Effect.Of kinds) (c.handleEvent kind now) :=
  handleEvent_kinds_of h fun _ _ => hdial

theorem applyEvent_kinds {source : Option Handle} {kind : EventKind} (h : [.note, .socket] ⊆ kinds)
    (hdial : c.state = .dns → .dial ∈ kinds) :
    Prog.Asks (Effect.Of kinds) (c.applyEvent source kind now) := by
  by_cases hhears : c.Hears source
  · rw [applyEvent_of_hears hhears]
    exact handleEvent_kinds h hdial
  · obtain ⟨text, hdeaf⟩ := applyEvent_of_deaf hhears kind now
    obtain ⟨hnote, -⟩ : .note ∈ kinds ∧ .socket ∈ kinds := by simpa using h
    simp [hdeaf, hnote]

end Kinds

/-! ## What is written -/

@[simp] theorem abandon_quiet {reason : String} : Prog.Asks Effect.Quiet (c.abandon reason) :=
  (abandon_kinds (List.Subset.refl _)).quiet (by decide) (by decide)

@[simp] theorem fail_quiet {text reason : String} :
    Prog.Asks Effect.Quiet (c.fail text reason) :=
  (fail_kinds (List.Subset.refl _)).quiet (by decide) (by decide)

@[simp] theorem setState_quiet {next : ConnState} {reason : String} :
    Prog.Asks Effect.Quiet (c.setState next reason) :=
  (setState_kinds (List.Subset.refl _)).quiet (by decide) (by decide)

@[simp] theorem connect_quiet {now : Instant} : Prog.Asks Effect.Quiet (c.connect now) :=
  (connect_kinds (List.Subset.refl _)).quiet (by decide) (by decide)

@[simp] theorem resume_quiet : Prog.Asks Effect.Quiet c.resume :=
  (resume_kinds (List.Subset.refl _)).quiet (by decide) (by decide)

@[simp] theorem finishReply_quiet : Prog.Asks Effect.Quiet c.finishReply :=
  (finishReply_kinds (List.Subset.refl _)).quiet (by decide) (by decide)

@[simp] theorem checkTimeout_quiet {now : Instant} :
    Prog.Asks Effect.Quiet (c.checkTimeout now) :=
  (checkTimeout_kinds (List.Subset.refl _)).quiet (by decide) (by decide)

@[simp] theorem applyEvent_quiet {source : Option Handle} {kind : EventKind} {now : Instant} :
    Prog.Asks Effect.Quiet (c.applyEvent source kind now) := by
  have hkinds : Prog.Asks (Effect.Of [.note, .socket, .dial]) (c.applyEvent source kind now) :=
    applyEvent_kinds (by decide) (fun _ => by decide)
  exact hkinds.quiet (by decide) (by decide)

@[simp] theorem post_deaf {resource payload : String} {now : Instant} :
    Prog.Asks Effect.Deaf (c.post resource payload now) := by
  simp only [post]
  split
  next => simp
  next =>
    split
    next => exact Act.asks_pure
    next endpoint _ =>
      split
      next => exact setState_quiet.deaf
      next handle _ =>
        simp only [Act.asks_bind, asks_log, Act.asks_net, Effect.Deaf, true_and]
        rintro - - answer -
        cases answer with
        | ok u => simp [setState_quiet.deaf]
        | error e =>
          simp only
          split <;> simp [setState_quiet.deaf, fail_quiet.deaf]

/-- A request is written at most once, on the socket that the connection holds. -/
theorem post_writes {resource payload : String} {now : Instant} {t : Trace Node}
    (h : (c.post resource payload now).Ends t d) :
    t.writes = [] ∨ ∃ handle endpoint, c.handle = some handle ∧ c.endpoint = some endpoint ∧
      t.writes =
        [(handle, bytesOf (Http.post resource endpoint.hostHeader c.headers payload))] := by
  simp only [post] at h
  split at h
  next => exact Or.inl (h.writes_eq_nil (by simp))
  next =>
    split at h
    next => exact Or.inl (h.writes_eq_nil (by simp))
    next endpoint he =>
      split at h
      next => exact Or.inl (h.writes_eq_nil (by simp))
      next handle hh =>
        obtain ⟨t₁, _, t₂, h₁, h₂, rfl⟩ := Prog.ends_bind.1 h
        obtain ⟨t₃, answer, t₄, h₃, h₄, rfl⟩ := Prog.ends_bind.1 h₂
        obtain ⟨answer', t₅, rfl, h₅⟩ := Prog.ends_ask.1 h₃
        obtain ⟨rfl, rfl⟩ := Prog.ends_pure.1 h₅
        have hquiet : Trace.writes t₄ = [] := by
          refine h₄.writes_eq_nil ?_
          cases answer with
          | ok u => simp
          | error e =>
            simp only
            split <;> simp
        refine Or.inr ⟨handle, endpoint, hh, he, ?_⟩
        rw [Trace.writes_append, Trace.writes_append, h₁.writes_eq_nil (by simp), hquiet]
        rfl

end Connection

end MeterNode
