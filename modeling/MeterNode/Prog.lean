/-!
# Programs

The logic of the node never touches a device.  A *signature* lists the operations a program may
ask for and the type of the answer to each.  A *program* is a tree: it either ends with a value,
or asks for one operation and goes on in a way that depends on the answer.  Whoever runs the
program supplies the answers, so a statement about a program that quantifies over all answers
speaks about every network, radio and clock at once.

* `Prog.bind` runs one program after another; `Prog` is a lawful monad.
* `Prog.run` answers every operation from a state.
* `Prog.runWhile` does so as long as the state is willing to answer.
* `Prog.lower` replaces every operation by a program of another signature.

All four recurse on the tree, so every program ends once every answer has come.
-/

namespace MeterNode

/-- The operations a program may ask for, and what each is answered with. -/
structure Signature where
  /-- The operations. -/
  Op : Type
  /-- The answers to an operation. -/
  Answer : Op → Type

/-- A program over a signature that ends with a value of type `α`. -/
inductive Prog (S : Signature) (α : Type) : Type where
  /-- The program that ends at once. -/
  | pure (value : α)
  /-- The program that asks for `op` and goes on with the answer. -/
  | ask (op : S.Op) (rest : S.Answer op → Prog S α)

namespace Prog

variable {S T : Signature} {α β γ σ : Type}

/-- Run `p`, then the program `next` chooses from its value. -/
def bind : Prog S α → (α → Prog S β) → Prog S β
  | .pure a, next => next a
  | .ask op rest, next => .ask op fun answer => (rest answer).bind next

instance : Monad (Prog S) where
  pure := Prog.pure
  bind := Prog.bind

/-- The program that asks for one operation and ends with its answer. -/
def perform (op : S.Op) : Prog S (S.Answer op) := .ask op .pure

@[simp] theorem pure_bind_eq (a : α) (next : α → Prog S β) :
    (Prog.pure a).bind next = next a := rfl

@[simp] theorem ask_bind_eq (op : S.Op) (rest : S.Answer op → Prog S α) (next : α → Prog S β) :
    (Prog.ask op rest).bind next = .ask op fun answer => (rest answer).bind next := rfl

@[simp] theorem bind_pure_eq (p : Prog S α) : p.bind .pure = p := by
  induction p with
  | pure a => rfl
  | ask op rest ih => simp only [ask_bind_eq, ih]

theorem bind_assoc_eq (p : Prog S α) (f : α → Prog S β) (g : β → Prog S γ) :
    (p.bind f).bind g = p.bind fun a => (f a).bind g := by
  induction p with
  | pure a => rfl
  | ask op rest ih => simp only [ask_bind_eq, ih]

instance : LawfulMonad (Prog S) :=
  LawfulMonad.mk' _ (fun p => bind_pure_eq p) (fun _ _ => rfl) bind_assoc_eq

/-- Answers to every operation, read from and written to a state. -/
abbrev Handler (S : Signature) (σ : Type) : Type := (op : S.Op) → σ → S.Answer op × σ

/-- Run a program against a handler. -/
def run (h : Handler S σ) : Prog S α → σ → α × σ
  | .pure a, s => (a, s)
  | .ask op rest, s =>
      let answer := h op s
      (rest answer.1).run h answer.2

theorem run_bind (h : Handler S σ) (p : Prog S α) (next : α → Prog S β) (s : σ) :
    (p.bind next).run h s = (next (p.run h s).1).run h (p.run h s).2 := by
  induction p generalizing s with
  | pure a => rfl
  | ask op rest ih => simp only [ask_bind_eq, run, ih]

/-- Run a program against a handler that may refuse to answer.  A refusal ends the run without a
value; the state keeps what the refused operation did to it. -/
def runWhile (h : (op : S.Op) → σ → Option (S.Answer op) × σ) : Prog S α → σ → Option α × σ
  | .pure a, s => (some a, s)
  | .ask op rest, s =>
      match h op s with
      | (some answer, s) => (rest answer).runWhile h s
      | (none, s) => (none, s)

/-- Replace every operation by a program of another signature. -/
def lower (f : (op : S.Op) → Prog T (S.Answer op)) : Prog S α → Prog T α
  | .pure a => .pure a
  | .ask op rest => (f op).bind fun answer => (rest answer).lower f

end Prog

end MeterNode
