import MeterNode.Proofs.Connection.Timeouts
import MeterNode.Proofs.Upload.Replies

/-!
# What is said on a socket

A talk is everything that was said on the socket that a connection registered last: the bytes that
the transport took, and the chunks that came.  It is kept by an observer, from the calls of the
transport (`say`) and from the reports that the connection hears (`Connection.hearing`).

A connection writes from `Ready` only, and once it has written it does not come back to `Ready` on
the same socket.  So nothing has been written yet on a socket that was not connected, or over which
a connection is still being made, is ready or met a full send buffer (`Untold`).

* `Untold.act`: every operation of a connection keeps this.
* `post_sends`: the post that leads to `Sending` has its request accepted by the transport.
* `applyEvent_sending`, `applyEvent_replied`: a report leads to `Sending` and to `Replied` without
  a word of the connection.
-/

namespace MeterNode

open MeterNode.Text

/-- A word of a talk. -/
inductive Word where
  /-- The transport took bytes to be sent. -/
  | wrote (handle : Handle) (bytes : Bytes)
  /-- Bytes came. -/
  | heard (handle : Handle) (bytes : Bytes)
deriving DecidableEq

/-- What was said on a socket, in order. -/
abbrev Talk : Type := List Word

/-- A talk goes on with a call of the transport.  A socket that is registered begins a new one. -/
def Talk.say (talk : Talk) : NetCall.Done → Talk
  | ⟨.register .., _⟩ => []
  | ⟨.write handle bytes, .ok ()⟩ => talk ++ [.wrote handle bytes]
  | _ => talk

/-- A talk goes on with the calls of a trace. -/
def Talk.behind (talk : Talk) (t : Trace Node) : Talk := t.calls.foldl say talk

/-- The word is the node's. -/
def Word.isWrote : Word → Bool
  | .wrote .. => true
  | .heard .. => false

/-- Nothing was written. -/
def Talk.Unwritten (talk : Talk) : Prop := ∀ handle bytes, .wrote handle bytes ∉ talk

theorem Talk.unwritten_iff {talk : Talk} :
    (∀ word ∈ talk, word.isWrote = false) ↔ talk.Unwritten := by
  constructor
  · intro h handle bytes hmem
    cases h _ hmem
  · intro h word hmem
    cases word with
    | wrote handle bytes => exact absurd hmem (h handle bytes)
    | heard handle bytes => rfl

instance (talk : Talk) : Decidable talk.Unwritten := decidable_of_iff _ Talk.unwritten_iff

/-- What a connection hears with a report. -/
def Connection.hearing (c : Connection) (source : Option Handle) (kind : EventKind) : Talk :=
  match c.handle, kind.chunk? with
  | some handle, some chunk => if c.Hears source then [.heard handle chunk] else []
  | _, _ => []

namespace Talk

variable {talk : Talk} {t t₁ t₂ : Trace Node} {calls : List NetCall.Done} {handle : Handle}
  {id : ConnId}

theorem unwritten_nil : Unwritten [] := fun _ _ hmem => by cases hmem

theorem behind_append : talk.behind (t₁ ++ t₂) = (talk.behind t₁).behind t₂ := by
  rw [behind, Trace.calls_append, List.foldl_append]
  rfl

/-- Without calls nothing is said. -/
theorem behind_eq_self (hcalls : t.calls = []) : talk.behind t = talk := by
  rw [behind, hcalls]
  rfl

section Hearing

variable {c : Connection} {source : Option Handle} {kind : EventKind} {chunk : Bytes}

theorem hearing_heard (hh : c.handle = some handle) (hchunk : kind.chunk? = some chunk)
    (hhears : c.Hears source) : c.hearing source kind = [.heard handle chunk] := by
  simp only [Connection.hearing, hh, hchunk, if_pos hhears]

theorem hearing_nothing (hchunk : kind.chunk? = none) : c.hearing source kind = [] := by
  simp only [Connection.hearing, hchunk]
  cases c.handle <;> rfl

theorem hearing_deaf (hdeaf : ¬ c.Hears source) : c.hearing source kind = [] := by
  simp only [Connection.hearing, if_neg hdeaf]
  split <;> rfl

end Hearing

theorem Unwritten.hearing {c : Connection} {source : Option Handle} {kind : EventKind}
    (h : talk.Unwritten) : Unwritten (talk ++ c.hearing source kind) := by
  intro handle bytes hmem
  rcases List.mem_append.1 hmem with hold | hnew
  · exact h handle bytes hold
  · simp only [Connection.hearing] at hnew
    split at hnew
    next =>
      split at hnew
      next => simp at hnew
      next => cases hnew
    next => cases hnew

/-- The calls of a trace that hands nothing to the transport. -/
theorem calls_unwritten (hquiet : t.writes = []) :
    ∀ done ∈ t.calls, ∀ handle bytes, done.1 ≠ .write handle bytes := by
  intro done hdone handle bytes hwrite
  obtain ⟨step, hstep, hcalled⟩ := List.mem_filterMap.1 hdone
  have hnone := List.filterMap_eq_nil_iff.1 hquiet step hstep
  obtain ⟨op, answer⟩ := step
  cases op with
  | net call =>
    obtain rfl : (⟨call, answer⟩ : NetCall.Done) = done := Option.some.inj hcalled
    simp only at hwrite
    subst hwrite
    cases hnone
  | log | count | counters | now | takeEvents | radio | cpu | meter | pause | utc => cases hcalled

/-- A call that is no write continues the talk unchanged or begins a new one. -/
theorem say_unwritten (talk : Talk) {done : NetCall.Done}
    (h : ∀ handle bytes, done.1 ≠ .write handle bytes) :
    talk.say done = talk ∨ talk.say done = [] := by
  simp only [say]
  split
  next => exact Or.inr rfl
  next _ handle bytes => exact absurd rfl (h handle bytes)
  next => exact Or.inl rfl

theorem Unwritten.foldl (h : talk.Unwritten)
    (hcalls : ∀ done ∈ calls, ∀ handle bytes, done.1 ≠ .write handle bytes) :
    Unwritten (calls.foldl say talk) := by
  induction calls generalizing talk with
  | nil => exact h
  | cons done rest ih =>
    rw [List.forall_mem_cons] at hcalls
    rw [List.foldl_cons]
    rcases say_unwritten talk hcalls.1 with hsame | hnew
    · rw [hsame]
      exact ih h hcalls.2
    · rw [hnew]
      exact ih unwritten_nil hcalls.2

/-- A trace that hands nothing to the transport. -/
theorem Unwritten.behind (h : talk.Unwritten) (hquiet : t.writes = []) :
    Unwritten (talk.behind t) :=
  h.foldl (calls_unwritten hquiet)

/-- A socket is registered, and nothing is handed to the transport. -/
theorem unwritten_behind_register {u : Unit} (hmem : ⟨.register handle id, u⟩ ∈ t.calls)
    (hquiet : t.writes = []) : Unwritten (talk.behind t) := by
  obtain ⟨before, rest, hsplit⟩ := List.append_of_mem hmem
  have hcalls := calls_unwritten hquiet
  rw [hsplit] at hcalls
  rw [Talk.behind, hsplit, List.foldl_append, List.foldl_cons]
  refine unwritten_nil.foldl fun done hdone => hcalls done ?_
  exact List.mem_append_right _ (List.mem_cons_of_mem _ hdone)

end Talk

namespace Connection

variable {c d : Connection} {now : Instant} {t : Trace Node} {talk : Talk}

/-! ## Sockets on which nothing was written -/

/-- An exchange is being made, or waits for its request to be written. -/
def Outgoing (c : Connection) : Prop :=
  c.state = .dns ∨ c.state = .connecting ∨ c.state = .ready ∨ c.state = .retry

/-- The socket has been used for nothing. -/
def Unused (c : Connection) : Prop := c.state = .init ∨ c.state = .error

/-- Nothing is written before the connection sends. -/
structure Untold (c : Connection) (talk : Talk) : Prop where
  unused : c.fresh = true → c.Unused ∧ talk.Unwritten
  outgoing : c.Outgoing → talk.Unwritten

theorem Untold.hearing {source : Option Handle} {kind : EventKind} {e : Connection}
    (h : c.Untold talk) : c.Untold (talk ++ e.hearing source kind) where
  unused hfresh := ⟨(h.unused hfresh).1, (h.unused hfresh).2.hearing⟩
  outgoing hout := (h.outgoing hout).hearing

/-- Nothing is handed to the transport, and no exchange is begun. -/
theorem Untold.quiet (h : c.Untold talk) (hquiet : t.writes = [])
    (hfresh : d.fresh = true → c.fresh = true ∧ d.Unused) (hout : d.Outgoing → c.Outgoing) :
    d.Untold (talk.behind t) where
  unused hd := ⟨(hfresh hd).2, (h.unused (hfresh hd).1).2.behind hquiet⟩
  outgoing hd := (h.outgoing (hout hd)).behind hquiet

/-- Nothing is handed to the transport, and the connection is the same. -/
theorem Untold.kept (h : c.Untold talk) (hquiet : t.writes = []) : c.Untold (talk.behind t) :=
  h.quiet hquiet (fun hfresh => ⟨hfresh, (h.unused hfresh).1⟩) fun hout => hout

theorem outgoing_of_init (hs : c.state = .init) : ¬ c.Outgoing := by simp [Outgoing, hs]

theorem released_fresh (h : c.released.fresh = true) : c.fresh = true := by
  simp only [released] at h
  split at h
  next => exact h
  next => cases h

/-- The socket is given back, and the connection starts over. -/
theorem Untold.released (h : c.Untold talk) (hquiet : t.writes = []) (hs : d.state = .init)
    (hfresh : d.fresh = c.released.fresh) : d.Untold (talk.behind t) :=
  h.quiet hquiet (fun hd => ⟨released_fresh (hfresh ▸ hd), Or.inl hs⟩)
    fun hout => absurd hout (outgoing_of_init hs)

/-! ## Connecting -/

theorem dropUsedHandle_left (h : c.dropUsedHandle.Gives d) :
    (d.handle = none ∨ c.fresh = true) ∧ (d.fresh = true → c.fresh = true) := by
  simp only [dropUsedHandle] at h
  split at h
  next =>
    obtain ⟨r, hr, h⟩ := Act.gives_bind.1 h
    rw [Act.gives_pure.1 h, release_gives hr]
    exact ⟨Or.inl (released_handle c), released_fresh⟩
  next hused =>
    rw [Act.gives_pure.1 h]
    refine ⟨?_, fun hfresh => hfresh⟩
    cases hh : c.handle with
    | none => exact Or.inl rfl
    | some handle =>
      right
      simpa [hh] using hused

theorem afterLookup_fresh {address : Option Address} {started : Bool} :
    (c.afterLookup address now started).fresh = c.fresh := by
  simp only [afterLookup]
  split <;> rfl

theorem lookUp_fresh {endpoint : Endpoint} (h : (c.lookUp endpoint now).Gives d) :
    d.fresh = c.fresh := by
  simp only [lookUp, Act.gives_bind, Act.gives_net, true_and] at h
  obtain ⟨answer, h⟩ := h
  cases answer with
  | error e => rw [fail_gives h]
  | ok found =>
    cases found with
    | pending =>
      simp only [Act.gives_bind, gives_log, Act.gives_pure, true_and, exists_const] at h
      rw [h]
    | resolved address =>
      obtain ⟨started, rfl⟩ := foundAddress_gives h
      exact afterLookup_fresh

/-- A connect that begins an exchange registers a socket, unless it finds one that has not been
used. -/
theorem connect_registers (h : (c.connect now).Ends t d) :
    d = c ∨ d.state = .error ∧ (d.fresh = true → c.fresh = true) ∨
      d.fresh = false ∧
        (c.fresh = true ∨ ∃ handle id, ⟨.register handle id, ()⟩ ∈ t.calls) := by
  simp only [connect] at h
  split at h
  next =>
    obtain ⟨t₁, _, t₂, h₁, h₂, rfl⟩ := Prog.ends_bind.1 h
    exact Or.inl (Prog.ends_pure.1 h₂).2
  next =>
    split at h
    next => exact Or.inl (Prog.ends_pure.1 h).2
    next endpoint _ =>
      right
      obtain ⟨t₁, c₁, t₂, h₁, h₂, rfl⟩ := Prog.ends_bind.1 h
      obtain ⟨t₃, ⟨result, c₂⟩, t₄, h₃, h₄, rfl⟩ := Prog.ends_bind.1 h₂
      obtain ⟨hleft, hfresh⟩ := dropUsedHandle_left h₁.gives
      have hopened := openHandle_gives_opened h₃.gives
      cases result with
      | error e =>
        obtain rfl : c₂ = c₁ := hopened
        obtain ⟨_, -, h₄⟩ := Act.gives_bind.1 h₄.gives
        obtain ⟨_, -, h₄⟩ := Act.gives_bind.1 h₄
        rw [setState_gives h₄]
        exact Or.inl ⟨rfl, hfresh⟩
      | ok handle =>
        right
        obtain ⟨fresh, hc₂⟩ := hopened
        constructor
        · obtain ⟨_, -, h₄⟩ := Act.gives_bind.1 h₄.gives
          obtain ⟨c₃, hc₃, h₄⟩ := Act.gives_bind.1 h₄
          obtain ⟨_, -, h₄⟩ := Act.gives_bind.1 h₄
          rw [lookUp_fresh h₄, setState_gives hc₃]
        · refine hleft.symm.imp_right fun hnone => ⟨handle, c₁.id, ?_⟩
          have hmoves := openHandle_moves h₃
          rw [hnone] at hmoves
          rcases hmoves.registered (by rw [hc₂]) with hsame | hmem
          · cases hsame
          · rw [Trace.calls_append, Trace.calls_append]
            exact List.mem_append_right _ (List.mem_append_left _ hmem)

theorem Untold.connect (h : c.Untold talk) (hends : (c.connect now).Ends t d) :
    d.Untold (talk.behind t) := by
  have hquiet := hends.writes_eq_nil connect_quiet
  rcases connect_registers hends with rfl | ⟨herror, hfresh⟩ | ⟨hused, hnew⟩
  · exact h.kept hquiet
  · exact h.quiet hquiet (fun hd => ⟨hfresh hd, Or.inr herror⟩)
      fun hout => by simp [Outgoing, herror] at hout
  · refine ⟨fun hd => ?_, fun _ => ?_⟩
    · rw [hused] at hd
      cases hd
    · rcases hnew with hfresh | ⟨handle, id, hmem⟩
      · exact (h.unused hfresh).2.behind hquiet
      · exact Talk.unwritten_behind_register hmem hquiet

/-! ## Posting -/

/-- A post has its request accepted and sends, or nothing is said. -/
theorem post_says {resource payload : String} (h : (c.post resource payload now).Ends t d) :
    (∃ handle endpoint, c.state = .ready ∧ c.handle = some handle ∧ c.endpoint = some endpoint ∧
      t.calls = [⟨.write handle
        (bytesOf (Http.post resource endpoint.hostHeader c.headers payload)), .ok ()⟩] ∧
      d = { c with response := none, state := .sending, sendStarted := some now }) ∨
    (∀ talk : Talk, talk.behind t = talk) ∧
      (d = c ∨ c.state = .ready ∧ d.fresh = c.fresh ∧ (d.state = .init ∨ d.state = .retry)) := by
  simp only [post] at h
  split at h
  next =>
    obtain ⟨_, h₁, rfl⟩ := Prog.ends_bind_pure.1 h
    exact Or.inr ⟨fun _ => Talk.behind_eq_self (h₁.calls_eq_nil (by simp)), Or.inl rfl⟩
  next hs =>
    have hready : c.state = .ready := Classical.not_not.1 hs
    split at h
    next =>
      obtain ⟨rfl, rfl⟩ := Prog.ends_pure.1 h
      exact Or.inr ⟨fun _ => rfl, Or.inl rfl⟩
    next endpoint he =>
      split at h
      next =>
        refine Or.inr ⟨fun _ => Talk.behind_eq_self (h.calls_eq_nil setState_offline), ?_⟩
        rw [setState_gives h.gives]
        exact Or.inr ⟨hready, rfl, Or.inl rfl⟩
      next handle hh =>
        obtain ⟨t₁, _, t₂, h₁, h₂, rfl⟩ := Prog.ends_bind.1 h
        obtain ⟨t₃, answer, t₄, h₃, h₄, rfl⟩ := Prog.ends_bind.1 h₂
        have hcalls₁ : t₁.calls = [] := h₁.calls_eq_nil (by simp)
        rw [Prog.ends_perform.1 h₃]
        cases answer with
        | ok u =>
          obtain ⟨c₁, hc₁, rfl⟩ := Prog.ends_bind_pure.1 h₄
          refine Or.inl ⟨handle, endpoint, hready, hh, he, ?_, ?_⟩
          · rw [Trace.calls_append, Trace.calls_append, hcalls₁,
              hc₁.calls_eq_nil setState_offline]
            rfl
          · rw [setState_gives hc₁.gives]
        | error e =>
          have hcalls : t₄.calls = [] ∧ d.fresh = c.fresh ∧
              (d.state = .init ∨ d.state = .retry) := by
            simp only at h₄
            split at h₄
            next =>
              refine ⟨h₄.calls_eq_nil (by simp), ?_⟩
              obtain ⟨_, -, h₄⟩ := Act.gives_bind.1 h₄.gives
              obtain ⟨_, -, h₄⟩ := Act.gives_bind.1 h₄
              rw [setState_gives h₄]
              exact ⟨rfl, Or.inr rfl⟩
            next =>
              refine ⟨h₄.calls_eq_nil fail_offline, ?_⟩
              rw [fail_gives h₄.gives]
              exact ⟨rfl, Or.inl rfl⟩
          refine Or.inr ⟨fun talk => ?_, Or.inr ⟨hready, hcalls.2⟩⟩
          rw [Talk.behind_append, Talk.behind_eq_self hcalls₁, Talk.behind_append,
            Talk.behind_eq_self hcalls.1]
          rfl

theorem Untold.post {resource payload : String} (h : c.Untold talk)
    (hends : (c.post resource payload now).Ends t d) : d.Untold (talk.behind t) := by
  rcases post_says hends with ⟨handle, endpoint, hs, -, -, -, rfl⟩ | ⟨hsilent, hd⟩
  · refine ⟨fun hfresh => ?_, fun hout => ?_⟩
    · have hunused := (h.unused hfresh).1
      simp [Unused, hs] at hunused
    · simp [Outgoing] at hout
  · rw [hsilent]
    rcases hd with rfl | ⟨hs, hfresh, -⟩
    · exact h
    · refine ⟨fun hd => ?_, fun _ => h.outgoing (Or.inr (Or.inr (Or.inl hs)))⟩
      have hunused := (h.unused (hfresh ▸ hd)).1
      simp [Unused, hs] at hunused

/-! ## Reports -/

theorem after_fresh {kind : EventKind} {started : Bool}
    (h : (c.after kind now started).fresh = true) : c.fresh = true := by
  simp only [after, afterLookup] at h
  repeat' split at h
  all_goals first | exact h | exact released_fresh h | cases h

/-- A report leaves an unused socket alone, or takes it away. -/
theorem after_unused {kind : EventKind} {started : Bool} (hs : c.Unused)
    (h : (c.after kind now started).fresh = true) : (c.after kind now started).Unused := by
  cases kind with
  | dnsFound address => rcases hs with hs | hs <;> simp [after, hs, Unused]
  | connected result => cases result <;> rcases hs with hs | hs <;> simp [after, hs, Unused]
  | received chunk =>
    have hsame : c.after (.received chunk) now started = c := by
      rcases hs with hs | hs <;> simp [after, hs]
    rw [hsame]
    exact hs
  | sent length => rcases hs with hs | hs <;> simp [after, hs, Unused]
  | poll =>
    simp only [after]
    split
    next => exact Or.inl rfl
    next => exact hs
  | peerClosed | error e => exact Or.inl rfl
  | accepted result =>
    cases result with
    | ok handle => cases h
    | error e => exact Or.inl rfl

/-- A report leads from one state before the send to another, or out of them. -/
theorem after_outgoing {kind : EventKind} {started : Bool}
    (h : (c.after kind now started).Outgoing) : c.Outgoing := by
  have hinit {d : Connection} (hs : d.state = .init) (hout : d.Outgoing) : c.Outgoing :=
    absurd hout (outgoing_of_init hs)
  cases kind with
  | dnsFound address =>
    simp only [after] at h
    split at h
    next hs => exact Or.inl hs
    next => exact h
  | connected result =>
    cases result with
    | ok u =>
      simp only [after] at h
      split at h
      next hs => exact Or.inr (Or.inl hs)
      next => exact h
    | error e => exact hinit rfl h
  | received chunk =>
    simp only [after] at h
    split at h
    next => exact h
    next =>
      split at h
      case h_5 => exact h
      all_goals simp [Outgoing] at h
  | sent length =>
    simp only [after] at h
    split at h
    next => simp [Outgoing] at h
    next hs => exact Or.inr (Or.inr (Or.inr hs))
    next => exact h
  | poll =>
    simp only [after] at h
    split at h
    next => exact hinit rfl h
    next => exact h
  | peerClosed | error e => exact hinit rfl h
  | accepted result =>
    cases result with
    | ok handle => simp [after, Outgoing] at h
    | error e => exact hinit rfl h

theorem Untold.after {kind : EventKind} {started : Bool} (h : c.Untold talk)
    (hquiet : t.writes = []) : (c.after kind now started).Untold (talk.behind t) :=
  h.quiet hquiet (fun hd => ⟨after_fresh hd, after_unused (h.unused (after_fresh hd)).1 hd⟩)
    after_outgoing

/-- Every operation of a connection. -/
theorem Untold.act {op : Operation} (h : c.Untold talk) (hends : (op.act c now).Ends t d) :
    d.Untold (talk.behind t) := by
  cases op with
  | connect => exact h.connect hends
  | abandon reason =>
    have hd := abandon_gives hends.gives
    refine h.released (hends.writes_eq_nil abandon_quiet) ?_ ?_
    all_goals rw [hd]
  | post resource payload => exact h.post hends
  | resume =>
    obtain ⟨r, hr, rfl⟩ := Prog.ends_bind_pure.1 hends
    have hquiet := hr.writes_eq_nil resume_quiet
    rw [resume_gives hr.gives]
    split
    next hs =>
      refine h.quiet hquiet (fun hfresh => ?_) fun _ => Or.inr (Or.inr (Or.inr hs))
      have hunused := (h.unused hfresh).1
      simp [Unused, hs] at hunused
    next => exact h.kept hquiet
  | finishReply =>
    obtain ⟨r, hr, rfl⟩ := Prog.ends_bind_pure.1 hends
    have hquiet := hr.writes_eq_nil finishReply_quiet
    have hreply := finishReply_gives hr.gives
    split at hreply
    next =>
      rw [hreply.2]
      exact h.released hquiet rfl rfl
    next =>
      rw [hreply]
      exact h.kept hquiet
  | checkTimeout =>
    obtain ⟨r, hr, rfl⟩ := Prog.ends_bind_pure.1 hends
    rw [checkTimeout_gives hr.gives]
    exact h.after (hr.writes_eq_nil checkTimeout_quiet)
  | event source kind =>
    obtain ⟨r, hr, rfl⟩ := Prog.ends_bind_pure.1 hends
    have hquiet := hr.writes_eq_nil applyEvent_quiet
    rcases applyEvent_gives hr.gives with ⟨-, ⟨started, hafter⟩, -⟩ | ⟨-, hsame, -⟩
    · rw [hafter]
      exact h.after hquiet
    · rw [hsame]
      exact h.kept hquiet

theorem Untold.operated (h : c.Untold talk) (hops : Operated now c t d) :
    d.Untold (talk.behind t) := by
  induction hops generalizing talk with
  | nil => exact h
  | act op hop _ ih =>
    rw [Talk.behind_append]
    exact ih (h.act hop)
  | aside hcalls _ ih =>
    rw [Talk.behind_append, Talk.behind_eq_self hcalls]
    exact ih h

/-! ## Reports behind which an exchange is under way -/

/-- The request was sent. -/
def Waiting (c : Connection) : Prop := c.state = .sending ∨ c.state = .replied

/-- A report that leaves the connection waiting makes no calls. -/
theorem handleEvent_waiting {kind : EventKind} {r : EventOutcome × Connection}
    (h : (c.handleEvent kind now).Ends t r) (hs : r.2.Waiting) : t.calls = [] := by
  obtain ⟨⟨started, hafter⟩, -⟩ := handleEvent_gives h.gives
  rw [hafter] at hs
  cases kind with
  | dnsFound address =>
    simp only [handleEvent] at h
    split at h
    next =>
      obtain ⟨rfl, -⟩ := Prog.ends_pure.1 h
      rfl
    next hdns =>
      simp only [after, if_pos (Classical.not_not.1 hdns), afterLookup] at hs
      split at hs
      next => cases started <;> simp [Waiting] at hs
      next => simp [Waiting] at hs
  | connected result =>
    refine h.calls_eq_nil ?_
    cases result with
    | ok u =>
      simp only [handleEvent]
      split <;> simp
    | error e => simp [handleEvent]
  | received chunk => exact h.calls_eq_nil receive_offline
  | sent length => exact h.calls_eq_nil noteSent_offline
  | poll =>
    simp only [after] at hs
    split at hs
    next => simp [Waiting] at hs
    next hintime =>
      obtain ⟨t₁, ⟨late, d⟩, t₂, h₁, h₂, rfl⟩ := Prog.ends_bind.1 h
      obtain ⟨rfl, -⟩ := Prog.ends_pure.1 h₂
      simp only [checkTimeout, Option.not_isSome_iff_eq_none.1 hintime] at h₁
      obtain ⟨rfl, -⟩ := Prog.ends_pure.1 h₁
      rfl
  | peerClosed | error e => simp [after, Waiting] at hs
  | accepted result => cases result <;> simp [after, Waiting] at hs

theorem applyEvent_waiting {source : Option Handle} {kind : EventKind}
    {r : EventOutcome × Connection} (h : (c.applyEvent source kind now).Ends t r)
    (hs : r.2.Waiting) : t.calls = [] := by
  by_cases hhears : c.Hears source
  · rw [applyEvent_of_hears hhears] at h
    exact handleEvent_waiting h hs
  · exact (applyEvent_ends_of_deaf hhears h).1

/-- Behind a report a connection waits because it did so before, or it was about to send. -/
theorem after_waiting {kind : EventKind} {started : Bool}
    (hs : (c.after kind now started).Waiting) :
    c.Outgoing ∨ c.Waiting ∧ (c.after kind now started).handle = c.handle ∧
      (c.after kind now started).role = c.role ∧
      (c.after kind now started).headers = c.headers := by
  cases kind with
  | dnsFound address =>
    by_cases hdns : c.state = .dns
    · exact Or.inl (Or.inl hdns)
    · rw [after, if_neg hdns] at hs ⊢
      exact Or.inr ⟨hs, rfl, rfl, rfl⟩
  | connected result =>
    cases result with
    | ok u =>
      by_cases hconnecting : c.state = .connecting
      · exact Or.inl (Or.inr (Or.inl hconnecting))
      · rw [after, if_neg hconnecting] at hs ⊢
        exact Or.inr ⟨hs, rfl, rfl, rfl⟩
    | error e => simp [after, Waiting] at hs
  | received chunk =>
    simp only [after] at hs ⊢
    split
    next hempty =>
      rw [if_pos hempty] at hs
      exact Or.inr ⟨hs, rfl, rfl, rfl⟩
    next hempty =>
      rw [if_neg hempty] at hs
      split at hs
      next hready => exact Or.inl (Or.inr (Or.inr (Or.inl hready)))
      next hsending => exact Or.inr ⟨Or.inl hsending, rfl, rfl, rfl⟩
      next hretry => exact Or.inl (Or.inr (Or.inr (Or.inr hretry)))
      next hreplied => exact Or.inr ⟨Or.inr hreplied, rfl, rfl, rfl⟩
      next => exact Or.inr ⟨hs, rfl, rfl, rfl⟩
  | sent length =>
    simp only [after] at hs ⊢
    split
    next hready => exact Or.inl (Or.inr (Or.inr (Or.inl hready)))
    next hretry => exact Or.inl (Or.inr (Or.inr (Or.inr hretry)))
    next hready hretry =>
      split at hs
      next h => exact absurd h hready
      next h => exact absurd h hretry
      next => exact Or.inr ⟨hs, rfl, rfl, rfl⟩
  | poll =>
    simp only [after] at hs ⊢
    split at hs
    next => simp [Waiting] at hs
    next hintime =>
      rw [if_neg hintime]
      exact Or.inr ⟨hs, rfl, rfl, rfl⟩
  | peerClosed | error e => simp [after, Waiting] at hs
  | accepted result => cases result <;> simp [after, Waiting] at hs

/-- Behind a report a reply is buffered: the report brought it, or it brought nothing. -/
theorem after_replied {kind : EventKind} {started : Bool}
    (hs : (c.after kind now started).state = .replied) :
    (∃ chunk, kind.chunk? = some chunk ∧
      (c.after kind now started).response = some chunk ∧
      (c.after kind now started).handle = c.handle) ∨
    kind.chunk? = none ∧ c.after kind now started = c := by
  have hunlost : ¬ (c.after kind now started).Lost := by
    rintro (hlost | hlost) <;> rw [hs] at hlost <;> cases hlost
  have hends : kind.ends = false := Bool.eq_false_iff.2 fun hends => hunlost (after_ends hends)
  cases kind with
  | received chunk =>
    by_cases hempty : chunk.isEmpty = true
    · exact Or.inr ⟨if_pos hempty, if_pos hempty⟩
    · left
      refine ⟨chunk, if_neg hempty, ?_⟩
      simp only [after, if_neg hempty] at hs ⊢
      split
      case h_5 hready hsending hretry hreplied =>
        split at hs <;> contradiction
      all_goals exact ⟨rfl, rfl⟩
  | dnsFound address =>
    refine Or.inr ⟨rfl, if_neg fun hdns => ?_⟩
    rw [after, if_pos hdns] at hs
    simp only [afterLookup] at hs
    split at hs
    next => cases started <;> cases hs
    next => cases hs
  | connected result =>
    cases result with
    | ok u =>
      refine Or.inr ⟨rfl, if_neg fun hconnecting => ?_⟩
      rw [after, if_pos hconnecting] at hs
      cases hs
    | error e => cases hends
  | sent length =>
    refine Or.inr ⟨rfl, ?_⟩
    simp only [after] at hs ⊢
    split at hs
    next => cases hs
    next => cases hs
    next => simp
  | poll =>
    refine Or.inr ⟨rfl, if_neg fun hlate => ?_⟩
    exact hunlost (after_overdue (Option.isSome_iff_ne_none.1 hlate))
  | peerClosed | error | accepted => cases hends

end Connection

end MeterNode
