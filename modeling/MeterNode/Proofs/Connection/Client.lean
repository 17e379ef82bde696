import MeterNode.Proofs.Connection.Operations

/-!
# What a client connection goes through

The owner of a client connection connects it, posts over it and takes the reply, and between these
calls reports come in.  An `Operation` is one of all that, and `Operation.act` the program for it.

Two programs of a connection depend on more than one answer of the transport.  `connect_gives` and
`post_gives_posted` are their closed forms: a connect that is let through opens a socket and leaves
a lookup or a connect under way, or fails; a post that is let through leaves a request written,
deferred or lost.  What the others leave is in the lemmas `..._gives` of the operations.

A connection that has an exchange under way holds a socket: only in `Init` and in `Error` there may
be none (`Wired`).
-/

namespace MeterNode

open MeterNode.Text

namespace Connection

variable {c d : Connection} {now : Instant}

/-- Only a connection that does nothing, or that could not have a socket, is without one. -/
def Wired (c : Connection) : Prop := c.handle = none → c.state = .init ∨ c.state = .error

theorem Wired.held (h : c.Wired) (hinit : c.state ≠ .init) (herror : c.state ≠ .error) :
    c.handle.isSome := by
  cases hh : c.handle with
  | some handle => rfl
  | none =>
    rcases h hh with hs | hs
    · exact absurd hs hinit
    · exact absurd hs herror

theorem wired_init (hs : c.state = .init) : c.Wired := fun _ => Or.inl hs

theorem wired_of_held (hh : c.handle.isSome) : c.Wired := by
  intro hnone
  rw [hnone] at hh
  cases hh

/-! ## Connecting -/

/-- What a connect that is let through may leave.  Nothing changes but what the connect is about,
and while the lookup or the connect is under way the socket is held and the time is noted. -/
structure Dialled (c : Connection) (now : Instant) (d : Connection) : Prop where
  kept : d =
    { c with
      state := d.state
      handle := d.handle
      fresh := d.fresh
      connectStarted := d.connectStarted
      remote := d.remote }
  outcome : d.state = .init ∨ d.state = .error ∨
    (d.state = .dns ∨ d.state = .connecting) ∧ d.handle.isSome ∧ d.connectStarted = some now

theorem Dialled.init (c : Connection) (now : Instant) : Dialled c now { c with state := .init } :=
  ⟨rfl, Or.inl rfl⟩

theorem dropUsedHandle_gives (h : c.dropUsedHandle.Gives d) :
    ∃ handle fresh, d = { c with handle, fresh } := by
  simp only [dropUsedHandle] at h
  split at h
  next =>
    simp only [Act.gives_bind, Act.gives_pure] at h
    obtain ⟨r, hr, rfl⟩ := h
    rw [release_gives hr, released]
    split
    next => exact ⟨_, _, rfl⟩
    next => exact ⟨_, _, rfl⟩
  next =>
    simp only [Act.gives_pure] at h
    exact ⟨_, _, h⟩

theorem openHandle_gives_opened {result : Except NetError Handle}
    (h : c.openHandle.Gives (result, d)) :
    match result with
    | .ok handle => ∃ fresh, d = { c with handle := some handle, fresh }
    | .error _ => d = c := by
  simp only [openHandle] at h
  split at h
  next handle hh =>
    simp only [Act.gives_pure, Prod.mk.injEq] at h
    obtain ⟨rfl, rfl⟩ := h
    exact ⟨d.fresh, by rw [← hh]⟩
  next =>
    simp only [Act.gives_bind, Act.gives_net, true_and] at h
    obtain ⟨answer, h⟩ := h
    cases answer with
    | error e =>
      simp only [Act.gives_pure, Prod.mk.injEq] at h
      obtain ⟨rfl, rfl⟩ := h
      rfl
    | ok handle =>
      simp only [Act.gives_bind, Act.gives_pure, Prod.mk.injEq] at h
      obtain ⟨c', hc', rfl, rfl⟩ := h
      exact ⟨true, by rw [attach_gives hc']⟩

theorem lookUp_gives {endpoint : Endpoint} (hs : c.state = .dns) (hh : c.handle.isSome)
    (hstarted : c.connectStarted = some now) (h : (c.lookUp endpoint now).Gives d) :
    Dialled c now d := by
  simp only [lookUp, Act.gives_bind, Act.gives_net, true_and] at h
  obtain ⟨answer, h⟩ := h
  cases answer with
  | error e =>
    rw [fail_gives h]
    exact .init c now
  | ok found =>
    cases found with
    | pending =>
      simp only [Act.gives_bind, gives_log, Act.gives_pure, true_and, exists_const] at h
      subst h
      exact ⟨rfl, Or.inr (Or.inr ⟨Or.inl hs, hh, hstarted⟩)⟩
    | resolved address =>
      obtain ⟨started, rfl⟩ := foundAddress_gives h
      simp only [afterLookup]
      split
      next =>
        refine ⟨rfl, ?_⟩
        cases started
        · exact Or.inl rfl
        · exact Or.inr (Or.inr ⟨Or.inr rfl, hh, rfl⟩)
      next => exact .init c now

/-- A connect is skipped, or it leads where `Dialled` says. -/
theorem connect_gives (h : (c.connect now).Gives d) :
    d = c ∨ c.state = .init ∧ Dialled c now d := by
  simp only [connect] at h
  split at h
  next =>
    simp only [Act.gives_bind, gives_log, Act.gives_pure, true_and, exists_const] at h
    exact Or.inl h
  next hs =>
    split at h
    next =>
      simp only [Act.gives_pure] at h
      exact Or.inl h
    next endpoint _ =>
      refine Or.inr ⟨Classical.not_not.1 hs, ?_⟩
      simp only [Act.gives_bind] at h
      obtain ⟨c₁, hc₁, ⟨result, c₂⟩, hc₂, h⟩ := h
      obtain ⟨handle, fresh, rfl⟩ := dropUsedHandle_gives hc₁
      have hopened := openHandle_gives_opened hc₂
      cases result with
      | error e =>
        obtain rfl : c₂ = { c with handle, fresh } := hopened
        simp only [Act.gives_bind] at h
        obtain ⟨_, -, _, -, h⟩ := h
        rw [setState_gives h]
        exact ⟨rfl, Or.inr (Or.inl rfl)⟩
      | ok handle' =>
        obtain ⟨fresh', rfl⟩ := hopened
        simp only [Act.gives_bind] at h
        obtain ⟨_, -, c₃, hc₃, _, -, h⟩ := h
        cases setState_gives hc₃
        obtain ⟨hkept, houtcome⟩ := lookUp_gives rfl rfl rfl h
        exact ⟨hkept, houtcome⟩

/-! ## Posting -/

/-- What a post may leave. -/
inductive Posted (c : Connection) (now : Instant) : Connection → Prop where
  | skipped : Posted c now c
  | lost : c.state = .ready → Posted c now { c with response := none, state := .init }
  | written : c.state = .ready → c.handle.isSome →
      Posted c now { c with response := none, state := .sending, sendStarted := some now }
  | deferred : c.state = .ready → c.handle.isSome →
      Posted c now { c with response := none, state := .retry }

theorem post_gives_posted {resource payload : String}
    (h : (c.post resource payload now).Gives d) : Posted c now d := by
  simp only [post] at h
  split at h
  next =>
    simp only [Act.gives_bind, gives_log, Act.gives_pure, true_and, exists_const] at h
    subst h
    exact .skipped
  next hs =>
    have hready : c.state = .ready := Classical.not_not.1 hs
    split at h
    next =>
      simp only [Act.gives_pure] at h
      subst h
      exact .skipped
    next endpoint _ =>
      split at h
      next =>
        rw [setState_gives h]
        exact .lost hready
      next handle hh =>
        have hheld : c.handle.isSome := by
          rw [show c.handle = some handle from hh]
          rfl
        simp only [Act.gives_bind, Act.gives_net, true_and] at h
        obtain ⟨_, -, answer, h⟩ := h
        cases answer with
        | ok u =>
          simp only [Act.gives_bind, Act.gives_pure] at h
          obtain ⟨c₁, hc₁, rfl⟩ := h
          rw [setState_gives hc₁]
          exact .written hready hheld
        | error e =>
          simp only at h
          split at h
          next =>
            simp only [Act.gives_bind] at h
            obtain ⟨_, -, _, -, h⟩ := h
            rw [setState_gives h]
            exact .deferred hready hheld
          next =>
            rw [fail_gives h]
            exact .lost hready

/-! ## Operations -/

/-- What can happen to a client connection. -/
inductive Operation where
  | connect
  | abandon (reason : String)
  | post (resource payload : String)
  | resume
  | finishReply
  | checkTimeout
  /-- A report comes in. -/
  | event (source : Option Handle) (kind : EventKind)

namespace Operation

/-- The program for an operation. -/
def act (op : Operation) (c : Connection) (now : Instant) : Act Connection :=
  match op with
  | .connect => c.connect now
  | .abandon reason => c.abandon reason
  | .post resource payload => c.post resource payload now
  | .resume => do return (← c.resume).2
  | .finishReply => do return (← c.finishReply).2
  | .checkTimeout => do return (← c.checkTimeout now).2
  | .event source kind => do return (← c.applyEvent source kind now).2

/-- The operation posts. -/
def isPost : Operation → Bool
  | .post .. => true
  | _ => false

/-- The operation is the report that bytes were handed to the network. -/
def isSent : Operation → Bool
  | .event _ (.sent _) => true
  | _ => false

end Operation

/-- Some operations follow each other at one time, and what else is asked for in between is no call
of the transport. -/
inductive Operated (now : Instant) : Connection → Trace Node → Connection → Prop where
  | nil (c : Connection) : Operated now c [] c
  | act {c d e : Connection} {t₁ t₂ : Trace Node} (op : Operation) : (op.act c now).Ends t₁ d →
      Operated now d t₂ e → Operated now c (t₁ ++ t₂) e
  | aside {c d : Connection} {t₁ t₂ : Trace Node} : t₁.calls = [] → Operated now c t₂ d →
      Operated now c (t₁ ++ t₂) d

section Operated

variable {e : Connection} {t t₁ t₂ : Trace Node}

theorem Operated.append (h₁ : Operated now c t₁ d) (h₂ : Operated now d t₂ e) :
    Operated now c (t₁ ++ t₂) e := by
  induction h₁ with
  | nil => exact h₂
  | act op hop _ ih =>
    rw [List.append_assoc]
    exact .act op hop (ih h₂)
  | aside hcalls _ ih =>
    rw [List.append_assoc]
    exact .aside hcalls (ih h₂)

theorem Operated.one (op : Operation) (h : (op.act c now).Ends t d) : Operated now c t d := by
  have hone := Operated.act op h (.nil d)
  rwa [List.append_nil] at hone

/-- The connection is left alone. -/
theorem Operated.rest (hcalls : t.calls = []) : Operated now c t c := by
  have hrest : Operated now c (t ++ []) c := .aside hcalls (.nil c)
  rwa [List.append_nil] at hrest

/-- A relation that every operation keeps, and that can be chained, holds over all of them. -/
theorem Operated.induct {P : Connection → Connection → Prop} (h : Operated now c t d)
    (hrefl : ∀ c, P c c) (htrans : ∀ c d e, P c d → P d e → P c e)
    (hact : ∀ op c d, (Operation.act op c now).Gives d → P c d) : P c d := by
  induction h with
  | nil c => exact hrefl c
  | act op hop _ ih => exact htrans _ _ _ (hact op _ _ hop.gives) ih
  | aside _ _ ih => exact ih

theorem act_id {op : Operation} (h : (op.act c now).Gives d) : d.id = c.id := by
  cases op with
  | connect => exact connect_id h
  | abandon reason =>
    rw [abandon_gives h]
    exact released_id c
  | post resource payload => exact (post_gives h).1
  | resume =>
    obtain ⟨r, hr, h⟩ := Act.gives_bind.1 h
    rw [Act.gives_pure.1 h, resume_gives hr]
    split <;> rfl
  | finishReply =>
    obtain ⟨r, hr, h⟩ := Act.gives_bind.1 h
    rw [Act.gives_pure.1 h]
    exact finishReply_id hr
  | checkTimeout =>
    obtain ⟨r, hr, h⟩ := Act.gives_bind.1 h
    rw [Act.gives_pure.1 h, checkTimeout_gives hr]
    exact after_id
  | event source kind =>
    obtain ⟨r, hr, h⟩ := Act.gives_bind.1 h
    rw [Act.gives_pure.1 h]
    exact applyEvent_id hr

end Operated

/-- To connect again is to abandon the exchange and to connect. -/
theorem reconnect_gives (h : (c.reconnect now).Gives d) :
    ∃ c', (c.abandon "reconnect").Gives c' ∧ (c'.connect now).Gives d := by
  simp only [reconnect, Act.gives_bind] at h
  obtain ⟨_, -, c', hc', h⟩ := h
  exact ⟨c', hc', h⟩

end Connection

end MeterNode
