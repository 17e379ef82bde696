import MeterNode.Proofs.Connection.Calls

/-!
# The sockets of a transport

A transport knows which sockets it has given out and not taken back; these are *live*.  `Sockets`
keeps them, and `Sockets.after` says what a call does to them: opening and listening make a socket
live, a close that succeeds and every abort end one.  The transport keeps one rule: it never gives
out a socket that is live (`Sockets.Allows`).

`Connection.Moves.served` is what one connection can do to the sockets.  It ends the socket it held
before, unless it still holds it, and may hold a new one.  All others stay what they are, and every
call is about a socket that is live at the time.
-/

namespace MeterNode

/-- The socket that a call is about. -/
def NetCall.handle? : NetCall → Option Handle
  | .register handle _ | .unregister handle | .close handle | .abort handle => some handle
  | .connect handle _ _ | .write handle _ => some handle
  | .openSocket _ | .resolve .. | .listen .. => none

/-- The live sockets, and the one that the transport listens on. -/
structure Sockets where
  live : List Handle := []
  listener : Option Handle := none

namespace Sockets

variable {x y z : Sockets} {handle other : Handle} {calls rest : List NetCall.Done}

/-- A socket becomes live. -/
def add (x : Sockets) (handle : Handle) : Sockets := { x with live := handle :: x.live }

/-- A socket is no longer live. -/
def drop (x : Sockets) (handle : Handle) : Sockets :=
  { x with live := x.live.filter (· ≠ handle) }

@[simp] theorem mem_add : other ∈ (x.add handle).live ↔ other = handle ∨ other ∈ x.live :=
  List.mem_cons

@[simp] theorem mem_drop : other ∈ (x.drop handle).live ↔ other ∈ x.live ∧ other ≠ handle := by
  simp [drop]

/-- The sockets after a call. -/
def after (x : Sockets) : (call : NetCall) → call.Answer → Sockets
  | .openSocket _, .ok handle => x.add handle
  | .listen .., .ok handle => { x.add handle with listener := some handle }
  | .close handle, .ok () => x.drop handle
  | .abort handle, _ => x.drop handle
  | _, _ => x

/-- A socket that is given out is not live. -/
def Allows (x : Sockets) : (call : NetCall) → call.Answer → Prop
  | .openSocket _, .ok handle => handle ∉ x.live
  | .listen .., .ok handle => handle ∉ x.live
  | _, _ => True

/-- The transport answers some calls by its rule. -/
inductive Serves : Sockets → List NetCall.Done → Sockets → Prop where
  | nil (x : Sockets) : Serves x [] x
  | cons {x y : Sockets} {call : NetCall} {answer : call.Answer} {rest : List NetCall.Done} :
      x.Allows call answer → Serves (x.after call answer) rest y →
      Serves x (⟨call, answer⟩ :: rest) y

/-- Every call is about a socket that is live at the time. -/
def Proper : Sockets → List NetCall.Done → Prop
  | _, [] => True
  | x, ⟨call, answer⟩ :: rest =>
      (∀ handle, call.handle? = some handle → handle ∈ x.live) ∧ (x.after call answer).Proper rest

theorem serves_nil : Serves x [] y ↔ y = x := by
  constructor
  · intro h
    cases h
    rfl
  · rintro rfl
    exact .nil y

theorem serves_cons {call : NetCall} {answer : call.Answer} :
    Serves x (⟨call, answer⟩ :: rest) y ↔
      x.Allows call answer ∧ Serves (x.after call answer) rest y := by
  constructor
  · intro h
    cases h with
    | cons hallows hrest => exact ⟨hallows, hrest⟩
  · rintro ⟨hallows, hrest⟩
    exact .cons hallows hrest

theorem serves_append : Serves x (calls ++ rest) y ↔ ∃ z, Serves x calls z ∧ Serves z rest y := by
  induction calls generalizing x with
  | nil =>
    simp only [List.nil_append, serves_nil, exists_eq_left]
  | cons done calls ih =>
    obtain ⟨call, answer⟩ := done
    rw [List.cons_append, serves_cons, ih]
    constructor
    · rintro ⟨hallows, z, hcalls, hrest⟩
      exact ⟨z, serves_cons.2 ⟨hallows, hcalls⟩, hrest⟩
    · rintro ⟨z, hcalls, hrest⟩
      obtain ⟨hallows, hcalls⟩ := serves_cons.1 hcalls
      exact ⟨hallows, z, hcalls, hrest⟩

theorem Serves.proper_append (h : Serves x calls z) (hcalls : x.Proper calls)
    (hrest : z.Proper rest) : x.Proper (calls ++ rest) := by
  induction h with
  | nil => exact hrest
  | cons _ _ ih => exact ⟨hcalls.1, ih hcalls.2 hrest⟩

end Sockets

namespace Connection

open Sockets

variable {id : ConnId} {held last : Option Handle} {handle : Handle} {calls : List NetCall.Done}
  {x y : Sockets}

/-- A live socket that is given back is no longer live, and nothing else changes. -/
theorem Returned.served (h : Returned handle calls) (hserves : Serves x calls y)
    (hlive : handle ∈ x.live) : y = x.drop handle ∧ x.Proper calls := by
  cases h with
  | closed =>
    obtain ⟨-, hserves⟩ := serves_cons.1 hserves
    obtain ⟨-, hserves⟩ := serves_cons.1 hserves
    refine ⟨serves_nil.1 hserves, ?_, ?_, trivial⟩
    all_goals
      rintro _ ⟨rfl⟩
      exact hlive
  | aborted cause =>
    obtain ⟨-, hserves⟩ := serves_cons.1 hserves
    obtain ⟨-, hserves⟩ := serves_cons.1 hserves
    obtain ⟨-, hserves⟩ := serves_cons.1 hserves
    refine ⟨serves_nil.1 hserves, ?_, ?_, ?_, trivial⟩
    all_goals
      rintro _ ⟨rfl⟩
      exact hlive

/-- What became of the sockets while a connection went from the socket `held` to the socket
`last`. -/
structure Served (held : Option Handle) (x : Sockets) (last : Option Handle) (y : Sockets) :
    Prop where
  listener : y.listener = x.listener
  live : ∀ handle, handle ∈ y.live ↔
    last = some handle ∨ handle ∈ x.live ∧ held ≠ some handle
  new : ∀ handle, last = some handle → held = some handle ∨ handle ∉ x.live

theorem Served.refl (hlive : ∀ handle, held = some handle → handle ∈ x.live) :
    Served held x held x where
  listener := rfl
  live handle := by
    have := hlive handle
    by_cases hheld : held = some handle <;> simp_all
  new _ hlast := Or.inl hlast

/-- The socket is given back first. -/
theorem Served.of_drop (h : Served none (x.drop handle) last y) :
    Served (some handle) x last y where
  listener := h.listener
  live other := by
    rw [h.live other]
    simp [eq_comm]
  new other hlast := by
    rcases h.new other hlast with hnone | hnot
    · cases hnone
    · rw [mem_drop, not_and, Classical.not_not] at hnot
      by_cases hother : other ∈ x.live
      · exact Or.inl (congrArg some (hnot hother).symm)
      · exact Or.inr hother

/-- A socket is opened first. -/
theorem Served.of_add (h : Served (some handle) (x.add handle) last y) (hfresh : handle ∉ x.live) :
    Served none x last y where
  listener := h.listener
  live other := by
    rw [h.live other]
    by_cases hother : other = handle
    · subst hother
      simp [hfresh]
    · simp [hother, Ne.symm hother]
  new other hlast := by
    rcases h.new other hlast with hsame | hnot
    · cases hsame
      exact Or.inr hfresh
    · exact Or.inr fun hother => hnot (mem_add.2 (Or.inr hother))

/-- A connection that holds a live socket calls about live sockets only, and leaves the others
alone. -/
theorem Moves.served (h : Moves id held calls last) (hserves : Serves x calls y)
    (hlive : ∀ handle, held = some handle → handle ∈ x.live) :
    Served held x last y ∧ x.Proper calls := by
  induction h generalizing x with
  | nil held =>
    obtain rfl := serves_nil.1 hserves
    exact ⟨.refl hlive, trivial⟩
  | @returned handle calls rest last hreturned _ ih =>
    obtain ⟨z, hcalls, hrest⟩ := serves_append.1 hserves
    obtain ⟨rfl, hproper⟩ := hreturned.served hcalls (hlive handle rfl)
    obtain ⟨hserved, hproper'⟩ := ih hrest fun _ hnone => by cases hnone
    exact ⟨hserved.of_drop, hcalls.proper_append hproper hproper'⟩
  | @opened secure handle rest last _ ih =>
    obtain ⟨hallows, hserves⟩ := serves_cons.1 hserves
    obtain ⟨-, hserves⟩ := serves_cons.1 hserves
    have hserves : Serves (x.add handle) rest y := hserves
    have hnew : handle ∈ (x.add handle).live := mem_add.2 (Or.inl rfl)
    obtain ⟨hserved, hproper⟩ := ih hserves fun other hother => by
      cases hother
      exact hnew
    refine ⟨hserved.of_add hallows, ?_, ?_, hproper⟩
    · rintro _ ⟨⟩
    · rintro _ ⟨rfl⟩
      exact hnew
  | refused _ ih =>
    obtain ⟨-, hserves⟩ := serves_cons.1 hserves
    obtain ⟨hserved, hproper⟩ := ih hserves hlive
    exact ⟨hserved, (fun _ hnone => by cases hnone), hproper⟩
  | resolved _ ih =>
    obtain ⟨-, hserves⟩ := serves_cons.1 hserves
    obtain ⟨hserved, hproper⟩ := ih hserves hlive
    exact ⟨hserved, (fun _ hnone => by cases hnone), hproper⟩
  | dialled _ ih =>
    obtain ⟨-, hserves⟩ := serves_cons.1 hserves
    obtain ⟨hserved, hproper⟩ := ih hserves hlive
    exact ⟨hserved, fun other hother => hlive other hother, hproper⟩
  | written _ ih =>
    obtain ⟨-, hserves⟩ := serves_cons.1 hserves
    obtain ⟨hserved, hproper⟩ := ih hserves hlive
    exact ⟨hserved, fun other hother => hlive other hother, hproper⟩

end Connection

end MeterNode
