import MeterNode.Proofs.Trace

/-!
# Observers

An observer watches a program from outside: it keeps a state, and every operation with its answer
changes this state.  `p.Leaves o s Q` says that whatever `p` is answered, its value and what the
observer `o`, who started with `s`, has seen behind it have the property `Q`.

The lemmas `leaves_..` take a program apart from its beginning, so `simp` follows a straight piece
of it in one step.
-/

namespace MeterNode

/-- How a state changes with an operation and its answer. -/
abbrev Observer (σ : Type) : Type := σ → (op : Effect) → op.Answer → σ

namespace Observer

variable {σ : Type} {o : Observer σ} {s : σ} {t t₁ t₂ : Trace Node}

/-- The state behind a trace. -/
def behind (o : Observer σ) (s : σ) (t : Trace Node) : σ :=
  t.foldl (fun s step => o s step.1 step.2) s

@[simp] theorem behind_nil : o.behind s [] = s := rfl

@[simp] theorem behind_cons {step : (op : Node.Op) × Node.Answer op} :
    o.behind s (step :: t) = o.behind (o s step.1 step.2) t := rfl

@[simp] theorem behind_append : o.behind s (t₁ ++ t₂) = o.behind (o.behind s t₁) t₂ :=
  List.foldl_append

/-- The observer does not notice the operation. -/
def Misses (o : Observer σ) (op : Effect) : Prop := ∀ s answer, o s op answer = s

theorem behind_misses (h : ∀ step ∈ t, o.Misses step.1) : o.behind s t = s := by
  induction t with
  | nil => rfl
  | cons step t ih =>
    obtain ⟨hstep, ht⟩ := List.forall_mem_cons.1 h
    rw [behind_cons, show o s step.1 step.2 = s from hstep s step.2]
    exact ih ht

end Observer

namespace Act

variable {σ α β : Type} {o : Observer σ} {s : σ} {Q R : α → σ → Prop}

/-- Whatever `p` is answered, its value and the state behind it have a property. -/
def Leaves (p : Act α) (o : Observer σ) (s : σ) (Q : α → σ → Prop) : Prop :=
  ∀ t a, p.Ends t a → Q a (o.behind s t)

theorem Leaves.imp {p : Act α} (h : Leaves p o s Q) (himp : ∀ a s, Q a s → R a s) :
    Leaves p o s R :=
  fun t a hends => himp a _ (h t a hends)

theorem Leaves.and {p : Act α} (h : Leaves p o s Q) (h' : Leaves p o s R) :
    Leaves p o s fun a s => Q a s ∧ R a s :=
  fun t a hends => ⟨h t a hends, h' t a hends⟩

/-- What is known of the values of a program is known behind it. -/
theorem Leaves.gives {p : Act α} (h : Leaves p o s Q) :
    Leaves p o s fun a s => p.Gives a ∧ Q a s :=
  fun t a hends => ⟨hends.gives, h t a hends⟩

/-- A program that the observer does not notice. -/
theorem leaves_misses {p : Act α} (h : Prog.Asks o.Misses p) : Leaves p o s fun _ s' => s' = s :=
  fun _ _ hends => Observer.behind_misses (h.of_mem hends)

@[simp] theorem leaves_pure {a : α} : Leaves (pure a) o s Q ↔ Q a s := by
  constructor
  · intro h
    exact h [] a (.pure a)
  · intro h t b hends
    obtain ⟨rfl, rfl⟩ := Prog.ends_pure.1 hends
    exact h

@[simp] theorem leaves_bind {p : Act α} {next : α → Act β} {Q : β → σ → Prop} :
    Leaves (p >>= next) o s Q ↔ Leaves p o s fun a s => Leaves (next a) o s Q := by
  constructor
  · intro h t₁ a h₁ t₂ b h₂
    rw [← Observer.behind_append]
    exact h _ b (h₁.bind h₂)
  · intro h t b hends
    obtain ⟨t₁, a, t₂, h₁, h₂, rfl⟩ := Prog.ends_bind.1 hends
    rw [Observer.behind_append]
    exact h t₁ a h₁ t₂ b h₂

@[simp] theorem leaves_map {p : Act α} {f : α → β} {Q : β → σ → Prop} :
    Leaves (f <$> p) o s Q ↔ Leaves p o s fun a s => Q (f a) s := by
  simp [map_eq_pure_bind, -bind_pure_comp]

theorem leaves_perform {op : Effect} {Q : op.Answer → σ → Prop} :
    Leaves (Prog.perform (S := Node) op) o s Q ↔ ∀ answer, Q answer (o s op answer) := by
  constructor
  · intro h answer
    exact h _ answer (Prog.ends_perform.2 rfl)
  · intro h t answer hends
    obtain rfl := Prog.ends_perform.1 hends
    exact h answer

@[simp] theorem leaves_log {level : Level} {text : String} {Q : Unit → σ → Prop} :
    Leaves (log level text) o s Q ↔ Q () (o s (.log level text) ()) :=
  leaves_perform.trans ⟨fun h => h (), fun h _ => h⟩

@[simp] theorem leaves_count {tally : Tally} {Q : Unit → σ → Prop} :
    Leaves (count tally) o s Q ↔ Q () (o s (.count tally) ()) :=
  leaves_perform.trans ⟨fun h => h (), fun h _ => h⟩

@[simp] theorem leaves_pause {who : Pauser} {ms : Nat} {Q : Unit → σ → Prop} :
    Leaves (pause who ms) o s Q ↔ Q () (o s (.pause who ms) ()) :=
  leaves_perform.trans ⟨fun h => h (), fun h _ => h⟩

@[simp] theorem leaves_now {Q : Instant → σ → Prop} :
    Leaves now o s Q ↔ ∀ at_, Q at_ (o s .now at_) :=
  leaves_perform

@[simp] theorem leaves_radio {call : RadioCall} {Q : call.Answer → σ → Prop} :
    @Leaves _ (no_index _) (radio call) o s Q ↔ ∀ answer, Q answer (o s (.radio call) answer) :=
  leaves_perform

@[simp] theorem leaves_net {call : NetCall} {Q : call.Answer → σ → Prop} :
    @Leaves _ (no_index _) (net call) o s Q ↔ ∀ answer, Q answer (o s (.net call) answer) :=
  leaves_perform

end Act

end MeterNode
