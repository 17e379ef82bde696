import MeterNode.Proofs.Trace

/-!
# Kinds of operations

The operations of the node are of thirteen kinds, by what they may change.  The lemmas `..._kinds`
say for the programs of the node which kinds they ask for, however they are answered; each is
stated for any list of kinds that has these, so that it serves in programs that ask for more.

What a program does not ask for does not occur in its traces: `Trace.Of` carries the kinds of a
program over to a trace of it, and from there to what was written (`Trace.Of.writes`) and to the
batches that were counted as failed (`Trace.Of.failures`).
-/

namespace MeterNode

/-- What an operation is about. -/
inductive Effect.Kind where
  /-- The log and the counters, but for the uploads that failed. -/
  | note
  /-- A batch that failed is counted. -/
  | failure
  /-- Clocks and pauses. -/
  | time
  /-- A socket is opened, an address looked up, or a connect begun. -/
  | dial
  /-- Bytes are handed to the transport. -/
  | send
  /-- All other calls of the transport. -/
  | socket
  /-- Reports are taken. -/
  | reports
  /-- The radio is powered up or joins. -/
  | wake
  /-- The radio is asked for its link. -/
  | link
  /-- All other calls of the radio. -/
  | radio
  /-- The frequency of the processor is changed. -/
  | clock
  /-- All other calls of the processor. -/
  | processor
  | input
deriving DecidableEq

/-- The tally counts a batch that failed. -/
def Tally.isFailure : Tally → Bool
  | .uploadRejected _ | .uploadAbandoned => true
  | _ => false

namespace Effect

/-- The kind of an operation. -/
@[simp] def kind : Effect → Kind
  | .log .. | .counters => .note
  | .count tally => if tally.isFailure then .failure else .note
  | .now | .pause .. | .utc => .time
  | .net (.openSocket _) | .net (.resolve ..) | .net (.connect ..) => .dial
  | .net (.write ..) => .send
  | .net _ => .socket
  | .takeEvents => .reports
  | .radio .powerUp | .radio (.join _) => .wake
  | .radio .status => .link
  | .radio _ => .radio
  | .cpu (.setMhz _) => .clock
  | .cpu _ => .processor
  | .meter .. => .input

/-- The operation is of one of some kinds. -/
@[simp] def Of (kinds : List Kind) (op : Effect) : Prop := op.kind ∈ kinds

variable {kinds : List Kind} {op : Effect}

theorem Of.quiet (h : op.Of kinds) (hsend : .send ∉ kinds) (hreports : .reports ∉ kinds) :
    op.Quiet := by
  cases op with
  | net call =>
    cases call with
    | write handle bytes => exact absurd h hsend
    | openSocket | register | unregister | close | abort | resolve | connect | listen => trivial
  | takeEvents => exact absurd h hreports
  | log | count | counters | now | radio | cpu | meter | pause | utc => trivial

end Effect

namespace Trace

/-- All operations of a trace are of some kinds. -/
def Of (kinds : List Effect.Kind) (t : Trace Node) : Prop := ∀ step ∈ t, Effect.Of kinds step.1

/-- The batches counted as failed in a trace. -/
def failures (t : Trace Node) : Nat := (t.tallies.filter Tally.isFailure).length

@[simp] theorem failures_append (t₁ t₂ : Trace Node) :
    failures (t₁ ++ t₂) = failures t₁ + failures t₂ := by
  simp [failures]

variable {kinds kinds' : List Effect.Kind} {t t₁ t₂ : Trace Node}

theorem of_nil : Of kinds [] := by
  intro step hstep
  cases hstep

@[simp] theorem of_append : Of kinds (t₁ ++ t₂) ↔ Of kinds t₁ ∧ Of kinds t₂ :=
  List.forall_mem_append

theorem Of.widen (h : Of kinds t) (hsub : kinds ⊆ kinds') : Of kinds' t :=
  fun step hstep => hsub (h step hstep)

theorem Of.kind_ne {kind : Effect.Kind} (h : Of kinds t) (hkind : kind ∉ kinds) :
    ∀ step ∈ t, step.1.kind ≠ kind :=
  fun step hstep heq => hkind (heq ▸ h step hstep)

theorem Of.writes (h : Of kinds t) (hsend : .send ∉ kinds) : writes t = [] := by
  refine List.filterMap_eq_nil_iff.2 fun step hstep => ?_
  obtain ⟨op, answer⟩ := step
  have hof := h _ hstep
  cases op with
  | net call =>
    cases call with
    | write handle bytes => exact absurd hof hsend
    | openSocket | register | unregister | close | abort | resolve | connect | listen => rfl
  | log | count | counters | now | takeEvents | radio | cpu | meter | pause | utc => rfl

/-- No reports are taken in a trace without them. -/
theorem Of.deaf (h : Of kinds t) (hreports : .reports ∉ kinds) : Deaf t := by
  intro step hstep
  obtain ⟨op, answer⟩ := step
  have hof := h _ hstep
  cases op with
  | takeEvents => exact absurd hof hreports
  | log | count | counters | now | net | radio | cpu | meter | pause | utc => trivial

theorem Of.failures (h : Of kinds t) (hfailure : .failure ∉ kinds) : failures t = 0 := by
  refine List.length_eq_zero_iff.2 (List.filter_eq_nil_iff.2 fun tally htally hfails => ?_)
  obtain ⟨⟨op, answer⟩, hstep, hcount⟩ := List.mem_filterMap.1 htally
  have hof := h _ hstep
  cases op with
  | count tally' =>
    cases hcount
    simp only [Effect.Of, Effect.kind, hfails, if_true] at hof
    exact hfailure hof
  | log | counters | now | net | takeEvents | radio | cpu | meter | pause | utc => cases hcount

end Trace

namespace Prog

variable {α : Type} {p : Act α} {t : Trace Node} {a : α} {kinds : List Effect.Kind}

/-- A program that neither sends nor takes reports keeps off the transport. -/
theorem Asks.quiet (h : Prog.Asks (Effect.Of kinds) p) (hsend : .send ∉ kinds)
    (hreports : .reports ∉ kinds) : Prog.Asks Effect.Quiet p :=
  h.mono fun _ hop => hop.quiet hsend hreports

theorem Ends.of (h : Prog.Ends p t a) (hp : Prog.Asks (Effect.Of kinds) p) : Trace.Of kinds t :=
  hp.of_mem h

end Prog

end MeterNode
