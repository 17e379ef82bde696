import MeterNode.Effect

/-!
# Traces

A program does not say how its operations are answered.  `p.Ends t a` says that some answers lead
`p` to ask for the operations of `t`, in this order and with these answers, and to end with `a`;
`p.Gives a` forgets the trace.  A statement about every `a` with `p.Gives a` is a statement about
all surroundings at once, whatever state they keep and however they choose their answers.

* `Prog.ends_bind`, `Prog.gives_bind`: what a composed program does is done by its parts, one after
  the other.
* `Prog.run_ends`: every run against a handler is one of these.
* `Prog.Asks`: every operation a program can ask for has a property.

Of a trace of the node, `Trace.writes` keeps what was handed to the transport to be sent, and
`Trace.reports` the reports that were taken from it.  `Effect.Mute` operations do not write and
`Effect.Deaf` ones take no reports; `Effect.Quiet` operations do neither.  `Trace.calls` keeps the
calls of the transport with their answers, of which `Effect.Offline` operations make none,
`Trace.tallies` what was counted, and `Trace.questions` what the inputs of meters were asked for.
-/

namespace MeterNode

/-- What a program asked for and how it was answered, in order. -/
abbrev Trace (S : Signature) : Type := List ((op : S.Op) × S.Answer op)

namespace Prog

variable {S : Signature} {α β σ : Type}

/-- Some answers lead `p` along the trace to the value. -/
inductive Ends : Prog S α → Trace S → α → Prop where
  | pure (a : α) : Ends (.pure a) [] a
  | ask {op : S.Op} {rest : S.Answer op → Prog S α} {t : Trace S} {a : α} (answer : S.Answer op) :
      Ends (rest answer) t a →
      Ends (.ask op rest) (⟨op, answer⟩ :: t) a

/-- Some answers lead `p` to the value. -/
def Gives (p : Prog S α) (a : α) : Prop := ∃ t, p.Ends t a

theorem Ends.gives {p : Prog S α} {t : Trace S} {a : α} (h : p.Ends t a) : p.Gives a := ⟨t, h⟩

/-! ## Composition -/

theorem ends_pure {a b : α} {t : Trace S} :
    (Pure.pure a : Prog S α).Ends t b ↔ t = [] ∧ b = a := by
  constructor
  · intro h
    cases h
    exact ⟨rfl, rfl⟩
  · rintro ⟨rfl, rfl⟩
    exact .pure b

theorem ends_ask {op : S.Op} {rest : S.Answer op → Prog S α} {t : Trace S} {a : α} :
    (Prog.ask op rest).Ends t a ↔
      ∃ answer t', t = ⟨op, answer⟩ :: t' ∧ (rest answer).Ends t' a := by
  constructor
  · intro h
    cases h with
    | ask answer h => exact ⟨answer, _, rfl, h⟩
  · rintro ⟨answer, t', rfl, h⟩
    exact .ask answer h

theorem Ends.bind {p : Prog S α} {next : α → Prog S β} {t₁ t₂ : Trace S} {a : α} {b : β}
    (h₁ : p.Ends t₁ a) (h₂ : (next a).Ends t₂ b) : (p >>= next).Ends (t₁ ++ t₂) b := by
  induction h₁ with
  | pure a => exact h₂
  | ask answer _ ih => exact .ask answer (ih h₂)

/-- A composed program runs its parts one after the other. -/
theorem ends_bind {p : Prog S α} {next : α → Prog S β} {t : Trace S} {b : β} :
    (p >>= next).Ends t b ↔
      ∃ t₁ a t₂, p.Ends t₁ a ∧ (next a).Ends t₂ b ∧ t = t₁ ++ t₂ := by
  constructor
  · intro h
    induction p generalizing t with
    | pure a => exact ⟨[], a, t, .pure a, h, rfl⟩
    | ask op rest ih =>
      obtain ⟨answer, t', rfl, h'⟩ := ends_ask.1 h
      obtain ⟨t₁, a, t₂, h₁, h₂, rfl⟩ := ih answer h'
      exact ⟨_, a, t₂, .ask answer h₁, h₂, rfl⟩
  · rintro ⟨t₁, a, t₂, h₁, h₂, rfl⟩
    exact h₁.bind h₂

/-- A program whose value is changed at the end. -/
theorem ends_bind_pure {p : Prog S α} {f : α → β} {t : Trace S} {b : β} :
    (p >>= fun a => Pure.pure (f a)).Ends t b ↔ ∃ a, p.Ends t a ∧ b = f a := by
  rw [ends_bind]
  constructor
  · rintro ⟨t₁, a, t₂, h₁, h₂, rfl⟩
    obtain ⟨rfl, rfl⟩ := ends_pure.1 h₂
    rw [List.append_nil]
    exact ⟨a, h₁, rfl⟩
  · rintro ⟨a, h, rfl⟩
    exact ⟨t, a, [], h, ends_pure.2 ⟨rfl, rfl⟩, (List.append_nil t).symm⟩

theorem ends_perform {op : S.Op} {t : Trace S} {answer : S.Answer op} :
    (perform op).Ends t answer ↔ t = [⟨op, answer⟩] := by
  constructor
  · intro h
    obtain ⟨answer', t', rfl, h'⟩ := ends_ask.1 h
    cases h'
    rfl
  · rintro rfl
    exact .ask answer (.pure answer)

theorem gives_pure {a b : α} : (Pure.pure a : Prog S α).Gives b ↔ b = a := by
  simp [Gives, ends_pure]

theorem gives_bind {p : Prog S α} {next : α → Prog S β} {b : β} :
    (p >>= next).Gives b ↔ ∃ a, p.Gives a ∧ (next a).Gives b := by
  constructor
  · rintro ⟨t, h⟩
    obtain ⟨t₁, a, t₂, h₁, h₂, rfl⟩ := ends_bind.1 h
    exact ⟨a, ⟨t₁, h₁⟩, ⟨t₂, h₂⟩⟩
  · rintro ⟨a, ⟨t₁, h₁⟩, ⟨t₂, h₂⟩⟩
    exact ⟨t₁ ++ t₂, h₁.bind h₂⟩

theorem gives_map {p : Prog S α} {f : α → β} {b : β} :
    (f <$> p).Gives b ↔ ∃ a, p.Gives a ∧ b = f a := by
  rw [map_eq_pure_bind, gives_bind]
  simp only [gives_pure]

/-- Any answer is possible. -/
theorem gives_perform {op : S.Op} (answer : S.Answer op) : (perform op).Gives answer :=
  ⟨_, .ask answer (.pure answer)⟩

/-! ## Runs against a handler -/

/-- The trace of a run against a handler. -/
def transcript (h : Handler S σ) : Prog S α → σ → Trace S
  | .pure _, _ => []
  | .ask op rest, s => ⟨op, (h op s).1⟩ :: (rest (h op s).1).transcript h (h op s).2

/-- A run against a handler is a run with some answers. -/
theorem run_ends (h : Handler S σ) (p : Prog S α) (s : σ) :
    p.Ends (p.transcript h s) (p.run h s).1 := by
  induction p generalizing s with
  | pure a => exact .pure a
  | ask op rest ih => exact .ask _ (ih _ _)

/-! ## Operations a program can ask for -/

/-- Every operation that `p` can ask for has a property, however it is answered. -/
def Asks (allowed : S.Op → Prop) : Prog S α → Prop
  | .pure _ => True
  | .ask op rest => allowed op ∧ ∀ answer, (rest answer).Asks allowed

variable {allowed : S.Op → Prop}

theorem asks_pure (a : α) : (Pure.pure a : Prog S α).Asks allowed := trivial

theorem asks_perform {op : S.Op} : (perform op).Asks allowed ↔ allowed op :=
  ⟨And.left, fun h => ⟨h, fun answer => asks_pure answer⟩⟩

theorem asks_bind {p : Prog S α} {next : α → Prog S β} :
    (p >>= next).Asks allowed ↔ p.Asks allowed ∧ ∀ a, p.Gives a → (next a).Asks allowed := by
  induction p with
  | pure a =>
    constructor
    · intro h
      exact ⟨trivial, fun b ⟨t, hb⟩ => by cases hb; exact h⟩
    · intro h
      exact h.2 a ⟨[], .pure a⟩
  | ask op rest ih =>
    constructor
    · intro h
      refine ⟨⟨h.1, fun answer => ((ih answer).1 (h.2 answer)).1⟩, fun a ⟨t, ha⟩ => ?_⟩
      obtain ⟨answer, t', rfl, ha'⟩ := ends_ask.1 ha
      exact ((ih answer).1 (h.2 answer)).2 a ⟨t', ha'⟩
    · intro h
      refine ⟨h.1.1, fun answer => (ih answer).2 ⟨h.1.2 answer, fun a ⟨t, ha⟩ => ?_⟩⟩
      exact h.2 a ⟨_, .ask answer ha⟩

theorem asks_map {p : Prog S α} {f : α → β} : (f <$> p).Asks allowed ↔ p.Asks allowed := by
  rw [map_eq_pure_bind, asks_bind]
  exact ⟨And.left, fun h => ⟨h, fun a _ => asks_pure (f a)⟩⟩

theorem Asks.mono {weaker : S.Op → Prop} {p : Prog S α} (h : p.Asks allowed)
    (hweaker : ∀ op, allowed op → weaker op) : p.Asks weaker := by
  induction p with
  | pure a => trivial
  | ask op rest ih => exact ⟨hweaker op h.1, fun answer => ih answer (h.2 answer)⟩

/-- The operations of a trace are operations that the program can ask for. -/
theorem Asks.of_mem {p : Prog S α} {t : Trace S} {a : α} (h : p.Asks allowed) (ht : p.Ends t a) :
    ∀ step ∈ t, allowed step.1 := by
  induction ht with
  | pure a => simp
  | ask answer _ ih =>
    intro step hstep
    rcases List.mem_cons.1 hstep with rfl | hstep
    · exact h.1
    · exact ih (h.2 answer) step hstep

end Prog

/-! ## Programs of the node -/

namespace Act

variable {α β : Type} {b : β}

@[simp] theorem gives_pure {a : β} : Prog.Gives (Pure.pure a : Act β) b ↔ b = a :=
  Prog.gives_pure

@[simp] theorem gives_bind {p : Act α} {next : α → Act β} :
    Prog.Gives (p >>= next : Act β) b ↔ ∃ a, Prog.Gives p a ∧ Prog.Gives (next a) b :=
  Prog.gives_bind

@[simp] theorem gives_map {p : Act α} {f : α → β} :
    Prog.Gives (f <$> p : Act β) b ↔ ∃ a, Prog.Gives p a ∧ b = f a :=
  Prog.gives_map

@[simp] theorem gives_log {level : Level} {text : String} {u : Unit} :
    Prog.Gives (log level text) u :=
  Prog.gives_perform _

@[simp] theorem gives_count {tally : Tally} {u : Unit} : Prog.Gives (count tally) u :=
  Prog.gives_perform _

@[simp] theorem gives_counters {t : Telemetry} : Prog.Gives counters t := Prog.gives_perform _

@[simp] theorem gives_now {t : Instant} : Prog.Gives now t := Prog.gives_perform _

@[simp] theorem gives_utc {n : Nat} : Prog.Gives utc n := Prog.gives_perform _

@[simp] theorem gives_takeEvents {events : List TransportEvent} :
    Prog.Gives takeEvents events :=
  Prog.gives_perform _

@[simp] theorem gives_pause {who : Pauser} {ms : Nat} {u : Unit} : Prog.Gives (pause who ms) u :=
  Prog.gives_perform _

@[simp] theorem gives_radio {call : RadioCall} {answer : call.Answer} :
    @Prog.Gives Node (no_index _) (radio call) answer :=
  Prog.gives_perform _

@[simp] theorem gives_net {call : NetCall} {answer : call.Answer} :
    @Prog.Gives Node (no_index _) (net call) answer :=
  Prog.gives_perform _

/-! ### Operations that may be asked for -/

variable {allowed : Effect → Prop}

@[simp] theorem asks_pure {a : β} : Prog.Asks allowed (Pure.pure a : Act β) := Prog.asks_pure a

@[simp] theorem asks_bind {p : Act α} {next : α → Act β} :
    Prog.Asks allowed (p >>= next : Act β) ↔
      Prog.Asks allowed p ∧ ∀ a, Prog.Gives p a → Prog.Asks allowed (next a) :=
  Prog.asks_bind

@[simp] theorem asks_map {p : Act α} {f : α → β} :
    Prog.Asks allowed (f <$> p : Act β) ↔ Prog.Asks allowed p :=
  Prog.asks_map

@[simp] theorem asks_discard {p : Act α} :
    Prog.Asks allowed (discard p : Act Unit) ↔ Prog.Asks allowed p :=
  asks_map

@[simp] theorem asks_log {level : Level} {text : String} :
    Prog.Asks allowed (log level text) ↔ allowed (.log level text) :=
  Prog.asks_perform

@[simp] theorem asks_count {tally : Tally} :
    Prog.Asks allowed (count tally) ↔ allowed (.count tally) :=
  Prog.asks_perform

@[simp] theorem asks_counters : Prog.Asks allowed counters ↔ allowed .counters :=
  Prog.asks_perform

@[simp] theorem asks_now : Prog.Asks allowed now ↔ allowed .now := Prog.asks_perform

@[simp] theorem asks_utc : Prog.Asks allowed utc ↔ allowed .utc := Prog.asks_perform

@[simp] theorem asks_takeEvents : Prog.Asks allowed takeEvents ↔ allowed .takeEvents :=
  Prog.asks_perform

@[simp] theorem asks_pause {who : Pauser} {ms : Nat} :
    Prog.Asks allowed (pause who ms) ↔ allowed (.pause who ms) :=
  Prog.asks_perform

@[simp] theorem asks_radio {call : RadioCall} :
    @Prog.Asks Node (no_index _) allowed (radio call) ↔ allowed (.radio call) :=
  Prog.asks_perform

@[simp] theorem asks_cpu {call : CpuCall} :
    @Prog.Asks Node (no_index _) allowed (cpu call) ↔ allowed (.cpu call) :=
  Prog.asks_perform

@[simp] theorem asks_meter {device : Nat} {call : MeterCall} :
    @Prog.Asks Node (no_index _) allowed (meter device call) ↔ allowed (.meter device call) :=
  Prog.asks_perform

@[simp] theorem asks_net {call : NetCall} :
    @Prog.Asks Node (no_index _) allowed (net call) ↔ allowed (.net call) :=
  Prog.asks_perform

end Act

/-! ## The transport -/

open MeterNode.Text

/-- The operation hands nothing to the transport and takes no reports from it. -/
@[simp] def Effect.Quiet : Effect → Prop
  | .net (.write ..) => False
  | .takeEvents => False
  | _ => True

/-- The operation hands nothing to the transport. -/
@[simp] def Effect.Mute : Effect → Prop
  | .net (.write ..) => False
  | _ => True

/-- The operation is no call of the transport. -/
@[simp] def Effect.Offline : Effect → Prop
  | .net _ => False
  | _ => True

/-- The operation takes no reports. -/
@[simp] def Effect.Deaf : Effect → Prop
  | .takeEvents => False
  | _ => True

theorem Effect.Quiet.deaf {op : Effect} (h : op.Quiet) : op.Deaf := by
  cases op with
  | takeEvents => exact h
  | log | count | counters | now | net | radio | cpu | meter | pause | utc => trivial

theorem Effect.Quiet.mute {op : Effect} (h : op.Quiet) : op.Mute := by
  cases op with
  | net call =>
    cases call with
    | write handle bytes => exact h
    | openSocket | register | unregister | close | abort | resolve | connect | listen => trivial
  | log | count | counters | now | takeEvents | radio | cpu | meter | pause | utc => trivial

/-- The bytes an operation hands to the transport, and the socket they are for. -/
def Effect.written : Effect → Option (Handle × Bytes)
  | .net (.write handle bytes) => some (handle, bytes)
  | _ => none

theorem Effect.Mute.written {op : Effect} (h : op.Mute) : op.written = none := by
  simp only [Effect.written]
  split
  next => exact absurd h id
  next => rfl

/-- The reports that an operation took. -/
def Effect.taken : (op : Effect) → op.Answer → List TransportEvent
  | .takeEvents, events => events
  | _, _ => []

theorem Effect.Deaf.taken {op : Effect} (h : op.Deaf) (answer : op.Answer) :
    op.taken answer = [] := by
  cases op with
  | takeEvents => exact absurd h id
  | log | count | counters | now | net | radio | cpu | meter | pause | utc => rfl

/-- A call of the transport, with its answer. -/
abbrev NetCall.Done : Type := (call : NetCall) × call.Answer

/-- The call of the transport that an operation is, with its answer. -/
def Effect.called : (op : Effect) → op.Answer → Option NetCall.Done
  | .net call, answer => some ⟨call, answer⟩
  | _, _ => none

theorem Effect.Offline.called {op : Effect} (h : op.Offline) (answer : op.Answer) :
    op.called answer = none := by
  cases op with
  | net call => exact absurd h id
  | log | count | counters | now | takeEvents | radio | cpu | meter | pause | utc => rfl

/-- What an operation counts. -/
def Effect.tally? : Effect → Option Tally
  | .count tally => some tally
  | _ => none

/-- What an operation asks the input of a meter for. -/
def Effect.question? : Effect → Option (Nat × MeterCall)
  | .meter device call => some (device, call)
  | _ => none

namespace Trace

/-- Everything that was handed to the transport, in order. -/
def writes (t : Trace Node) : List (Handle × Bytes) := t.filterMap fun step => Effect.written step.1

/-- All reports that were taken, in order. -/
def reports (t : Trace Node) : List TransportEvent :=
  t.flatMap fun step => Effect.taken step.1 step.2

/-- The calls of the transport with their answers, in order. -/
def calls (t : Trace Node) : List NetCall.Done :=
  t.filterMap fun step => Effect.called step.1 step.2

/-- What was counted, in order. -/
def tallies (t : Trace Node) : List Tally := t.filterMap fun step => Effect.tally? step.1

/-- What the inputs of meters were asked for, in order. -/
def questions (t : Trace Node) : List (Nat × MeterCall) :=
  t.filterMap fun step => Effect.question? step.1

@[simp] theorem calls_append (t₁ t₂ : Trace Node) : calls (t₁ ++ t₂) = calls t₁ ++ calls t₂ :=
  List.filterMap_append

@[simp] theorem tallies_append (t₁ t₂ : Trace Node) :
    tallies (t₁ ++ t₂) = tallies t₁ ++ tallies t₂ := List.filterMap_append

@[simp] theorem questions_append (t₁ t₂ : Trace Node) :
    questions (t₁ ++ t₂) = questions t₁ ++ questions t₂ := List.filterMap_append

@[simp] theorem writes_append (t₁ t₂ : Trace Node) :
    writes (t₁ ++ t₂) = writes t₁ ++ writes t₂ := List.filterMap_append

@[simp] theorem reports_append (t₁ t₂ : Trace Node) :
    reports (t₁ ++ t₂) = reports t₁ ++ reports t₂ := List.flatMap_append

/-- No reports were taken, not even an empty queue of them. -/
def Deaf (t : Trace Node) : Prop := ∀ step ∈ t, Effect.Deaf step.1

theorem deaf_nil : Deaf [] := by
  intro step hstep
  cases hstep

@[simp] theorem deaf_append {t₁ t₂ : Trace Node} : Deaf (t₁ ++ t₂) ↔ Deaf t₁ ∧ Deaf t₂ :=
  List.forall_mem_append

theorem Deaf.reports {t : Trace Node} (h : Deaf t) : reports t = [] :=
  List.flatMap_eq_nil_iff.2 fun step hstep => (h step hstep).taken step.2

end Trace

namespace Prog

variable {α : Type} {p : Act α} {t : Trace Node} {a : α}

/-- A program that keeps off the transport hands nothing to it. -/
theorem Asks.mute (h : Prog.Asks Effect.Quiet p) : Prog.Asks Effect.Mute p :=
  h.mono fun _ => Effect.Quiet.mute

/-- A program that keeps off the transport takes no reports. -/
theorem Asks.deaf (h : Prog.Asks Effect.Quiet p) : Prog.Asks Effect.Deaf p :=
  h.mono fun _ => Effect.Quiet.deaf

theorem Ends.writes_of_mute (h : Prog.Ends p t a) (hm : Prog.Asks Effect.Mute p) :
    Trace.writes t = [] :=
  List.filterMap_eq_nil_iff.2 fun step hstep => (hm.of_mem h step hstep).written

/-- A program that hands nothing to the transport. -/
theorem Ends.writes_eq_nil (h : Prog.Ends p t a) (hq : Prog.Asks Effect.Quiet p) :
    Trace.writes t = [] :=
  h.writes_of_mute hq.mute

/-- A program that makes no calls of the transport. -/
theorem Ends.calls_eq_nil (h : Prog.Ends p t a) (ho : Prog.Asks Effect.Offline p) :
    Trace.calls t = [] :=
  List.filterMap_eq_nil_iff.2 fun step hstep => (ho.of_mem h step hstep).called step.2

theorem Ends.deaf (h : Prog.Ends p t a) (hd : Prog.Asks Effect.Deaf p) : Trace.Deaf t :=
  hd.of_mem h

/-- A program that takes no reports. -/
theorem Ends.reports_eq_nil (h : Prog.Ends p t a) (hd : Prog.Asks Effect.Deaf p) :
    Trace.reports t = [] :=
  (h.deaf hd).reports

end Prog

end MeterNode
