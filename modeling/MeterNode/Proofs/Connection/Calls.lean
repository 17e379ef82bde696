import MeterNode.Proofs.Connection.Client

/-!
# The calls about a socket

Seen from the transport, a connection goes through the same things again and again: a socket is
opened and registered, it is connected and written to, and it is given back.  `Moves` is the
language of these calls; it leads from the socket that is held before them to the one that is held
behind them.  Whatever a connection does is a word of it (`act_moves`), except that two reports
change the socket by themselves.

* A transport error takes the socket away without a call (`error_ends`).
* A visitor who is accepted brings a socket of his own, which replaces the one that is held
  (`accepted_ends`).
-/

namespace MeterNode

open MeterNode.Text

/-- The report takes the socket away or brings another one. -/
def EventKind.takesOver : EventKind → Bool
  | .error _ | .accepted (.ok _) => true
  | _ => false

namespace Connection

variable {c d : Connection} {now : Instant} {t : Trace Node} {handle : Handle}

/-! ## Giving back -/

/-- A socket is given back: no more reports, then a close, and an abort if the close fails. -/
inductive Returned (handle : Handle) : List NetCall.Done → Prop where
  | closed : Returned handle [⟨.unregister handle, ()⟩, ⟨.close handle, .ok ()⟩]
  | aborted (cause : NetError) :
      Returned handle [⟨.unregister handle, ()⟩, ⟨.close handle, .error cause⟩, ⟨.abort handle, ()⟩]

theorem log_ends {level : Level} {text : String} {u : Unit} (h : (c.log level text).Ends t u) :
    t.calls = [] ∧ t.tallies = [] := by
  rw [Prog.ends_perform.1 h]
  exact ⟨rfl, rfl⟩

theorem setState_ends {state : ConnState} {reason : String}
    (h : (c.setState state reason).Ends t d) : t.calls = [] ∧ t.tallies = [] := by
  simp only [setState] at h
  split at h
  next =>
    obtain ⟨rfl, -⟩ := Prog.ends_pure.1 h
    exact ⟨rfl, rfl⟩
  next =>
    obtain ⟨_, h₁, -⟩ := Prog.ends_bind_pure.1 h
    exact log_ends h₁

theorem release_ends {r : Except NetError Unit × Connection} (hh : c.handle = some handle)
    (h : c.release.Ends t r) : Returned handle t.calls ∧ t.tallies = [] := by
  simp only [release, hh] at h
  obtain ⟨t₁, _, t₂, h₁, h₂, rfl⟩ := Prog.ends_bind.1 h
  obtain ⟨t₃, answer, t₄, h₃, h₄, rfl⟩ := Prog.ends_bind.1 h₂
  rw [Prog.ends_perform.1 h₁, Prog.ends_perform.1 h₃]
  cases answer with
  | ok u =>
    obtain ⟨rfl, -⟩ := Prog.ends_pure.1 h₄
    exact ⟨.closed, rfl⟩
  | error e =>
    obtain ⟨t₅, _, t₆, h₅, h₆, rfl⟩ := Prog.ends_bind.1 h₄
    obtain ⟨t₇, _, t₈, h₇, h₈, rfl⟩ := Prog.ends_bind.1 h₆
    obtain ⟨rfl, -⟩ := Prog.ends_pure.1 h₈
    obtain ⟨hcalls, htallies⟩ := log_ends h₅
    rw [Prog.ends_perform.1 h₇]
    simp only [Trace.calls_append, Trace.tallies_append, hcalls, htallies]
    exact ⟨.aborted e, rfl⟩

theorem abandon_ends {reason : String} (hh : c.handle = some handle)
    (h : (c.abandon reason).Ends t d) : Returned handle t.calls ∧ t.tallies = [] := by
  obtain ⟨t₁, r, t₂, h₁, h₂, rfl⟩ := Prog.ends_bind.1 h
  obtain ⟨hreturned, htallies⟩ := release_ends hh h₁
  obtain ⟨hcalls₂, htallies₂⟩ := setState_ends h₂
  rw [Trace.calls_append, Trace.tallies_append, hcalls₂, htallies₂, List.append_nil,
    List.append_nil]
  exact ⟨hreturned, htallies⟩

/-! ## Moves -/

/-- Calls that lead from one socket held to another, or to none. -/
inductive Moves (id : ConnId) : Option Handle → List NetCall.Done → Option Handle → Prop where
  | nil (held : Option Handle) : Moves id held [] held
  | returned {handle : Handle} {calls rest : List NetCall.Done} {last : Option Handle} :
      Returned handle calls → Moves id none rest last → Moves id (some handle) (calls ++ rest) last
  | opened {secure : Bool} {handle : Handle} {rest : List NetCall.Done} {last : Option Handle} :
      Moves id (some handle) rest last →
      Moves id none (⟨.openSocket secure, .ok handle⟩ :: ⟨.register handle id, ()⟩ :: rest) last
  | refused {secure : Bool} {cause : NetError} {rest : List NetCall.Done} {last : Option Handle} :
      Moves id none rest last → Moves id none (⟨.openSocket secure, .error cause⟩ :: rest) last
  | resolved {held last : Option Handle} {host : String} {answer : Except NetError Resolution}
      {rest : List NetCall.Done} : Moves id held rest last →
      Moves id held (⟨.resolve host id, answer⟩ :: rest) last
  | dialled {handle : Handle} {address : Address} {port : Nat} {answer : Except NetError Unit}
      {rest : List NetCall.Done} {last : Option Handle} : Moves id (some handle) rest last →
      Moves id (some handle) (⟨.connect handle address port, answer⟩ :: rest) last
  | written {handle : Handle} {bytes : Bytes} {answer : Except NetError Unit}
      {rest : List NetCall.Done} {last : Option Handle} : Moves id (some handle) rest last →
      Moves id (some handle) (⟨.write handle bytes, answer⟩ :: rest) last

section Moves

variable {id : ConnId} {held between last : Option Handle} {calls rest : List NetCall.Done}

theorem Moves.append (h : Moves id held calls between) (hrest : Moves id between rest last) :
    Moves id held (calls ++ rest) last := by
  induction h with
  | nil => exact hrest
  | returned hreturned _ ih =>
    rw [List.append_assoc]
    exact .returned hreturned (ih hrest)
  | opened _ ih => exact .opened (ih hrest)
  | refused _ ih => exact .refused (ih hrest)
  | resolved _ ih => exact .resolved (ih hrest)
  | dialled _ ih => exact .dialled (ih hrest)
  | written _ ih => exact .written (ih hrest)

/-- A socket that is held afterwards was held before, or it was opened and registered. -/
theorem Moves.registered {handle : Handle} (h : Moves id held calls last)
    (hlast : last = some handle) :
    held = some handle ∨ ⟨.register handle id, ()⟩ ∈ calls := by
  induction h with
  | nil => exact Or.inl hlast
  | returned _ _ ih =>
    rcases ih hlast with hnone | hmem
    · cases hnone
    · exact Or.inr (List.mem_append_right _ hmem)
  | opened _ ih =>
    right
    rcases ih hlast with hsame | hmem
    · cases hsame
      exact List.mem_cons_of_mem _ List.mem_cons_self
    · exact List.mem_cons_of_mem _ (List.mem_cons_of_mem _ hmem)
  | refused _ ih | resolved _ ih | dialled _ ih | written _ ih =>
    exact (ih hlast).imp_right (List.mem_cons_of_mem _)

/-- Nothing is called, and the socket stays. -/
theorem Moves.stay (hcalls : calls = []) (hsame : last = held) : Moves id held calls last := by
  rw [hcalls, hsame]
  exact .nil held

end Moves

/-! ## The parts of operations -/

section Parts

variable {id : ConnId}

@[simp] theorem setState_offline {next : ConnState} {reason : String} :
    Prog.Asks Effect.Offline (c.setState next reason) := by
  simp only [setState]
  split <;> simp

@[simp] theorem fail_offline {text reason : String} :
    Prog.Asks Effect.Offline (c.fail text reason) := by
  simp [fail]

theorem setState_moves {next : ConnState} {reason : String}
    (h : (c.setState next reason).Ends t d) : Moves id c.handle t.calls d.handle :=
  .stay (h.calls_eq_nil setState_offline) (by rw [setState_gives h.gives])

theorem fail_moves {text reason : String} (h : (c.fail text reason).Ends t d) :
    Moves id c.handle t.calls d.handle :=
  .stay (h.calls_eq_nil fail_offline) (by rw [fail_gives h.gives])

theorem release_moves {r : Except NetError Unit × Connection} (h : c.release.Ends t r) :
    Moves id c.handle t.calls r.2.handle := by
  rw [release_gives h.gives, released_handle]
  cases hh : c.handle with
  | none =>
    simp only [release, hh] at h
    obtain ⟨rfl, -⟩ := Prog.ends_pure.1 h
    exact .nil none
  | some handle =>
    have hreturned : Moves id (some handle) (t.calls ++ []) none :=
      .returned (release_ends hh h).1 (.nil none)
    rwa [List.append_nil] at hreturned

theorem abandon_moves {reason : String} (h : (c.abandon reason).Ends t d) :
    Moves id c.handle t.calls d.handle := by
  obtain ⟨t₁, r, t₂, h₁, h₂, rfl⟩ := Prog.ends_bind.1 h
  rw [Trace.calls_append]
  exact (release_moves h₁).append (setState_moves h₂)

theorem dropUsedHandle_moves (h : c.dropUsedHandle.Ends t d) :
    Moves id c.handle t.calls d.handle := by
  simp only [dropUsedHandle] at h
  split at h
  next =>
    obtain ⟨t₁, r, t₂, h₁, h₂, rfl⟩ := Prog.ends_bind.1 h
    obtain ⟨rfl, rfl⟩ := Prog.ends_pure.1 h₂
    rw [List.append_nil]
    exact release_moves h₁
  next =>
    obtain ⟨rfl, rfl⟩ := Prog.ends_pure.1 h
    exact .nil _

/-- The socket that was held is given back, and the new one is registered. -/
theorem attach_ends (id : ConnId) (h : (c.attach handle).Ends t d) :
    ∃ calls, Moves id c.handle calls none ∧ t.calls = calls ++ [⟨.register handle c.id, ()⟩] ∧
      d = { c with handle := some handle, fresh := false } := by
  have hd := attach_gives h.gives
  obtain ⟨t₁, r, t₂, h₁, h₂, rfl⟩ := Prog.ends_bind.1 h
  obtain ⟨t₃, _, t₄, h₃, h₄, rfl⟩ := Prog.ends_bind.1 h₂
  obtain ⟨rfl, -⟩ := Prog.ends_pure.1 h₄
  have hr := release_gives h₁.gives
  have hmoves : Moves id c.handle t₁.calls r.2.handle := release_moves h₁
  rw [hr, released_handle] at hmoves
  refine ⟨t₁.calls, hmoves, ?_, hd⟩
  rw [Prog.ends_perform.1 h₃, hr, released_id, List.append_nil, Trace.calls_append]
  rfl

/-- A socket is opened and registered, unless the transport has none. -/
theorem openHandle_ends {r : Except NetError Handle × Connection} (hh : c.handle = none)
    (h : c.openHandle.Ends t r) :
    (∃ cause, r = (.error cause, c) ∧
        t.calls = [⟨.openSocket (c.endpoint.any Endpoint.isSecure), .error cause⟩]) ∨
      ∃ handle, r = (.ok handle, { c with handle := some handle, fresh := true }) ∧
        t.calls = [⟨.openSocket (c.endpoint.any Endpoint.isSecure), .ok handle⟩,
          ⟨.register handle c.id, ()⟩] := by
  simp only [openHandle, hh] at h
  obtain ⟨t₁, answer, t₂, h₁, h₂, rfl⟩ := Prog.ends_bind.1 h
  rw [Trace.calls_append, Prog.ends_perform.1 h₁]
  cases answer with
  | error cause =>
    obtain ⟨rfl, rfl⟩ := Prog.ends_pure.1 h₂
    exact Or.inl ⟨cause, rfl, rfl⟩
  | ok handle =>
    obtain ⟨d, hattach, rfl⟩ := Prog.ends_bind_pure.1 h₂
    have hd := attach_gives hattach.gives
    obtain ⟨t₃, _, t₄, hrelease, hregister, rfl⟩ := Prog.ends_bind.1 hattach
    simp only [release, hh] at hrelease
    obtain ⟨rfl, rfl⟩ := Prog.ends_pure.1 hrelease
    obtain ⟨_, h₃, -⟩ := Prog.ends_bind_pure.1 hregister
    rw [Prog.ends_perform.1 h₃, hd]
    exact Or.inr ⟨handle, rfl, rfl⟩

theorem openHandle_moves {r : Except NetError Handle × Connection} (h : c.openHandle.Ends t r) :
    Moves c.id c.handle t.calls r.2.handle := by
  cases hh : c.handle with
  | some handle =>
    simp only [openHandle, hh] at h
    obtain ⟨rfl, rfl⟩ := Prog.ends_pure.1 h
    exact .stay rfl hh
  | none =>
    rcases openHandle_ends hh h with ⟨cause, rfl, hcalls⟩ | ⟨handle, rfl, hcalls⟩
    · rw [hcalls]
      exact .refused (.stay rfl hh)
    · rw [hcalls]
      exact .opened (.nil _)

theorem foundAddress_moves {address : Option Address} (h : (c.foundAddress address now).Ends t d) :
    Moves id c.handle t.calls d.handle := by
  simp only [foundAddress] at h
  split at h
  next => exact fail_moves h
  next address =>
    split at h
    next handle endpoint hh he =>
      obtain ⟨t₁, c₁, t₂, h₁, h₂, rfl⟩ := Prog.ends_bind.1 h
      obtain ⟨t₃, answer, t₄, h₃, h₄, rfl⟩ := Prog.ends_bind.1 h₂
      have hc₁ := setState_gives h₁.gives
      have hcalls : t₁.calls = [] := h₁.calls_eq_nil setState_offline
      rw [Trace.calls_append, hcalls, Prog.ends_perform.1 h₃, hh]
      refine .dialled ?_
      cases answer with
      | ok u =>
        obtain ⟨rfl, rfl⟩ := Prog.ends_pure.1 h₄
        refine .stay rfl ?_
        rw [hc₁]
        exact hh
      | error e =>
        refine .stay (h₄.calls_eq_nil fail_offline) ?_
        rw [fail_gives h₄.gives, hc₁]
        exact hh
    next => exact setState_moves h

theorem lookUp_moves {endpoint : Endpoint} (h : (c.lookUp endpoint now).Ends t d) :
    Moves c.id c.handle t.calls d.handle := by
  obtain ⟨t₁, answer, t₂, h₁, h₂, rfl⟩ := Prog.ends_bind.1 h
  rw [Prog.ends_perform.1 h₁]
  refine .resolved ?_
  cases answer with
  | error e => exact fail_moves h₂
  | ok found =>
    cases found with
    | resolved address => exact foundAddress_moves h₂
    | pending =>
      obtain ⟨t₃, _, t₄, h₃, h₄, rfl⟩ := Prog.ends_bind.1 h₂
      obtain ⟨rfl, rfl⟩ := Prog.ends_pure.1 h₄
      rw [List.append_nil]
      exact .stay (h₃.calls_eq_nil (by simp)) rfl

end Parts

/-! ## Operations -/

theorem connect_moves (h : (c.connect now).Ends t d) : Moves c.id c.handle t.calls d.handle := by
  simp only [connect] at h
  split at h
  next =>
    obtain ⟨_, h₁, rfl⟩ := Prog.ends_bind_pure.1 h
    exact .stay (h₁.calls_eq_nil (by simp)) rfl
  next =>
    split at h
    next =>
      obtain ⟨rfl, rfl⟩ := Prog.ends_pure.1 h
      exact .nil _
    next endpoint _ =>
      obtain ⟨t₁, c₁, t₂, h₁, h₂, rfl⟩ := Prog.ends_bind.1 h
      obtain ⟨t₃, ⟨result, c₂⟩, t₄, h₃, h₄, rfl⟩ := Prog.ends_bind.1 h₂
      have hid₁ : c₁.id = c.id := dropUsedHandle_id h₁.gives
      have hid₂ : c₂.id = c.id := (openHandle_gives h₃.gives).1.trans hid₁
      have hopen : Moves c.id c₁.handle t₃.calls c₂.handle := by
        rw [← hid₁]
        exact openHandle_moves h₃
      rw [Trace.calls_append, Trace.calls_append]
      refine (dropUsedHandle_moves h₁).append (hopen.append ?_)
      cases result with
      | error e =>
        obtain ⟨t₅, _, t₆, h₅, h₆, rfl⟩ := Prog.ends_bind.1 h₄
        obtain ⟨t₇, _, t₈, h₇, h₈, rfl⟩ := Prog.ends_bind.1 h₆
        have hasides : (t₅ ++ t₇).calls = [] := by
          rw [Trace.calls_append, h₅.calls_eq_nil (by simp), h₇.calls_eq_nil (by simp)]
          rfl
        rw [← List.append_assoc, Trace.calls_append, hasides]
        exact setState_moves h₈
      | ok handle =>
        obtain ⟨t₅, _, t₆, h₅, h₆, rfl⟩ := Prog.ends_bind.1 h₄
        obtain ⟨t₇, c₃, t₈, h₇, h₈, rfl⟩ := Prog.ends_bind.1 h₆
        obtain ⟨t₉, _, t₁₀, h₉, h₁₀, rfl⟩ := Prog.ends_bind.1 h₈
        have hc₃ := setState_gives h₇.gives
        have hasides : (t₅ ++ (t₇ ++ t₉)).calls = [] := by
          rw [Trace.calls_append, Trace.calls_append, h₅.calls_eq_nil (by simp),
            h₇.calls_eq_nil (by simp), h₉.calls_eq_nil (by simp)]
          rfl
        have hlook := lookUp_moves h₁₀
        rw [hc₃] at hlook
        rw [← List.append_assoc t₇, ← List.append_assoc, Trace.calls_append, hasides, ← hid₂]
        exact hlook

theorem post_moves {id : ConnId} {resource payload : String}
    (h : (c.post resource payload now).Ends t d) : Moves id c.handle t.calls d.handle := by
  simp only [post] at h
  split at h
  next =>
    obtain ⟨_, h₁, rfl⟩ := Prog.ends_bind_pure.1 h
    exact .stay (h₁.calls_eq_nil (by simp)) rfl
  next =>
    split at h
    next =>
      obtain ⟨rfl, rfl⟩ := Prog.ends_pure.1 h
      exact .nil _
    next endpoint _ =>
      split at h
      next =>
        have hmoves : Moves id { c with response := none }.handle t.calls d.handle :=
          setState_moves h
        exact hmoves
      next handle hh =>
        obtain ⟨t₁, _, t₂, h₁, h₂, rfl⟩ := Prog.ends_bind.1 h
        obtain ⟨t₃, answer, t₄, h₃, h₄, rfl⟩ := Prog.ends_bind.1 h₂
        rw [Trace.calls_append, h₁.calls_eq_nil (by simp), Prog.ends_perform.1 h₃,
          show c.handle = some handle from hh]
        refine .written ?_
        cases answer with
        | ok u =>
          obtain ⟨t₅, c₁, t₆, h₅, h₆, rfl⟩ := Prog.ends_bind.1 h₄
          obtain ⟨rfl, rfl⟩ := Prog.ends_pure.1 h₆
          rw [List.append_nil]
          refine .stay (h₅.calls_eq_nil setState_offline) ?_
          rw [setState_gives h₅.gives]
          exact hh
        | error e =>
          simp only at h₄
          split at h₄
          next =>
            refine .stay (h₄.calls_eq_nil (by simp)) ?_
            obtain ⟨_, -, h₄⟩ := Act.gives_bind.1 h₄.gives
            obtain ⟨_, -, h₄⟩ := Act.gives_bind.1 h₄
            rw [setState_gives h₄]
            exact hh
          next =>
            refine .stay (h₄.calls_eq_nil fail_offline) ?_
            rw [fail_gives h₄.gives]
            exact hh

theorem finishReply_moves {id : ConnId} {r : Option Bytes × Connection}
    (h : c.finishReply.Ends t r) : Moves id c.handle t.calls r.2.handle := by
  simp only [finishReply] at h
  split at h
  next =>
    obtain ⟨rfl, rfl⟩ := Prog.ends_pure.1 h
    exact .nil _
  next =>
    obtain ⟨d, hd, rfl⟩ := Prog.ends_bind_pure.1 h
    have hmoves : Moves id { c with response := none }.handle t.calls d.handle := abandon_moves hd
    exact hmoves

theorem resume_moves {id : ConnId} {r : Bool × Connection} (h : c.resume.Ends t r) :
    Moves id c.handle t.calls r.2.handle := by
  simp only [resume] at h
  split at h
  next =>
    obtain ⟨rfl, rfl⟩ := Prog.ends_pure.1 h
    exact .nil _
  next =>
    obtain ⟨d, hd, rfl⟩ := Prog.ends_bind_pure.1 h
    exact setState_moves hd

theorem checkTimeout_moves {id : ConnId} {r : Bool × Connection}
    (h : (c.checkTimeout now).Ends t r) : Moves id c.handle t.calls r.2.handle := by
  simp only [checkTimeout] at h
  split at h
  next =>
    obtain ⟨rfl, rfl⟩ := Prog.ends_pure.1 h
    exact .nil _
  next =>
    obtain ⟨t₁, _, t₂, h₁, h₂, rfl⟩ := Prog.ends_bind.1 h
    obtain ⟨t₃, _, t₄, h₃, h₄, rfl⟩ := Prog.ends_bind.1 h₂
    obtain ⟨d, hd, rfl⟩ := Prog.ends_bind_pure.1 h₄
    rw [Trace.calls_append, Trace.calls_append, h₁.calls_eq_nil (by simp),
      h₃.calls_eq_nil (by simp)]
    exact abandon_moves hd

/-! ## Reports -/

@[simp] theorem receive_offline {chunk : Bytes} : Prog.Asks Effect.Offline (c.receive chunk) := by
  simp only [receive]
  split
  · simp
  · split <;> simp

@[simp] theorem noteSent_offline {length : Nat} : Prog.Asks Effect.Offline (c.noteSent length) := by
  simp only [noteSent, Act.asks_bind, asks_log, Effect.Offline, true_and]
  rintro - -
  split <;> simp

theorem receive_moves {id : ConnId} {chunk : Bytes} {r : EventOutcome × Connection}
    (h : (c.receive chunk).Ends t r) : Moves id c.handle t.calls r.2.handle := by
  refine .stay (h.calls_eq_nil receive_offline) ?_
  rw [(receive_gives 0 h.gives).1]
  simp only [after]
  repeat' split
  all_goals rfl

theorem noteSent_moves {id : ConnId} {length : Nat} {r : EventOutcome × Connection}
    (h : (c.noteSent length).Ends t r) : Moves id c.handle t.calls r.2.handle := by
  refine .stay (h.calls_eq_nil noteSent_offline) ?_
  rw [(noteSent_gives 0 h.gives).1]
  simp only [after]
  repeat' split
  all_goals rfl

theorem handleEvent_moves {id : ConnId} {kind : EventKind} {r : EventOutcome × Connection}
    (hk : kind.takesOver = false) (h : (c.handleEvent kind now).Ends t r) :
    Moves id c.handle t.calls r.2.handle := by
  cases kind with
  | dnsFound address =>
    simp only [handleEvent] at h
    split at h
    next =>
      obtain ⟨rfl, rfl⟩ := Prog.ends_pure.1 h
      exact .nil _
    next =>
      obtain ⟨d, hd, rfl⟩ := Prog.ends_bind_pure.1 h
      exact foundAddress_moves hd
  | connected result =>
    cases result with
    | ok u =>
      simp only [handleEvent] at h
      split at h
      next =>
        obtain ⟨rfl, rfl⟩ := Prog.ends_pure.1 h
        exact .nil _
      next =>
        obtain ⟨t₁, _, t₂, h₁, h₂, rfl⟩ := Prog.ends_bind.1 h
        obtain ⟨d, hd, rfl⟩ := Prog.ends_bind_pure.1 h₂
        rw [Trace.calls_append, h₁.calls_eq_nil (by simp)]
        exact setState_moves hd
    | error e =>
      obtain ⟨d, hd, rfl⟩ := Prog.ends_bind_pure.1 h
      exact fail_moves hd
  | received chunk => exact receive_moves h
  | peerClosed =>
    obtain ⟨t₁, _, t₂, h₁, h₂, rfl⟩ := Prog.ends_bind.1 h
    obtain ⟨d, hd, rfl⟩ := Prog.ends_bind_pure.1 h₂
    rw [Trace.calls_append, h₁.calls_eq_nil (by simp)]
    exact abandon_moves hd
  | sent length => exact noteSent_moves h
  | poll =>
    obtain ⟨t₁, ⟨late, d⟩, t₂, h₁, h₂, rfl⟩ := Prog.ends_bind.1 h
    obtain ⟨rfl, rfl⟩ := Prog.ends_pure.1 h₂
    rw [List.append_nil]
    exact checkTimeout_moves h₁
  | error e => cases hk
  | accepted result =>
    cases result with
    | ok handle => cases hk
    | error e =>
      obtain ⟨t₁, _, t₂, h₁, h₂, rfl⟩ := Prog.ends_bind.1 h
      obtain ⟨d, hd, rfl⟩ := Prog.ends_bind_pure.1 h₂
      rw [Trace.calls_append, h₁.calls_eq_nil (by simp)]
      exact abandon_moves hd

/-- A transport error takes the socket away without a call. -/
theorem error_ends {cause : NetError} {r : EventOutcome × Connection}
    (h : (c.handleEvent (.error cause) now).Ends t r) : t.calls = [] ∧ r.2.handle = none := by
  constructor
  · exact h.calls_eq_nil (by simp [handleEvent])
  · obtain ⟨⟨started, hafter⟩, -⟩ := handleEvent_gives h.gives
    rw [hafter]
    rfl

/-- A visitor who is accepted brings the socket that is held from then on. -/
theorem accepted_ends (id : ConnId) {r : EventOutcome × Connection}
    (h : (c.handleEvent (.accepted (.ok handle)) now).Ends t r) :
    ∃ calls, Moves id c.handle calls none ∧ t.calls = calls ++ [⟨.register handle c.id, ()⟩] ∧
      r.2.handle = some handle := by
  obtain ⟨t₁, _, t₂, h₁, h₂, rfl⟩ := Prog.ends_bind.1 h
  obtain ⟨t₃, c₁, t₄, h₃, h₄, rfl⟩ := Prog.ends_bind.1 h₂
  obtain ⟨d, hd, rfl⟩ := Prog.ends_bind_pure.1 h₄
  obtain ⟨calls, hmoves, hcalls, rfl⟩ := attach_ends id h₃
  refine ⟨calls, hmoves, ?_, by rw [setState_gives hd.gives]⟩
  rw [Trace.calls_append, Trace.calls_append, h₁.calls_eq_nil (by simp),
    hd.calls_eq_nil setState_offline, List.nil_append, List.append_nil]
  exact hcalls

/-- A report from a socket no longer held makes no call and changes nothing. -/
theorem applyEvent_ends_of_deaf {source : Option Handle} {kind : EventKind}
    {r : EventOutcome × Connection} (hdeaf : ¬ c.Hears source)
    (h : (c.applyEvent source kind now).Ends t r) : t.calls = [] ∧ r = (.ignored, c) := by
  obtain ⟨text, hp⟩ := applyEvent_of_deaf hdeaf kind now
  rw [hp] at h
  obtain ⟨_, h₁, rfl⟩ := Prog.ends_bind_pure.1 h
  exact ⟨(log_ends h₁).1, rfl⟩

/-- What a connection does is a word of calls about its socket, unless a report takes over. -/
theorem act_moves {op : Operation} (h : (op.act c now).Ends t d)
    (hk : ∀ source kind, op = .event source kind → c.Hears source → kind.takesOver = false) :
    Moves c.id c.handle t.calls d.handle := by
  cases op with
  | connect => exact connect_moves h
  | abandon reason => exact abandon_moves h
  | post resource payload => exact post_moves h
  | resume =>
    obtain ⟨r, hr, rfl⟩ := Prog.ends_bind_pure.1 h
    exact resume_moves hr
  | finishReply =>
    obtain ⟨r, hr, rfl⟩ := Prog.ends_bind_pure.1 h
    exact finishReply_moves hr
  | checkTimeout =>
    obtain ⟨r, hr, rfl⟩ := Prog.ends_bind_pure.1 h
    exact checkTimeout_moves hr
  | event source kind =>
    obtain ⟨r, hr, rfl⟩ := Prog.ends_bind_pure.1 h
    by_cases hhears : c.Hears source
    · rw [applyEvent_of_hears hhears] at hr
      exact handleEvent_moves (hk source kind rfl hhears) hr
    · obtain ⟨hcalls, rfl⟩ := applyEvent_ends_of_deaf hhears hr
      exact .stay hcalls rfl

end Connection

end MeterNode
