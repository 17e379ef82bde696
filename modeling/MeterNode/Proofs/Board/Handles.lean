import MeterNode.Proofs.Board.Slots

/-!
# How long a handle is good

A *history* is a list of changes of the table of slots: calls of the loop, commands taken, losses
reported, and what else the workers do to a slot.  `Slots.renewals` counts the generations of a slot
that a history starts.  It asks which slot an opening takes and never looks at the counter, which is
one byte and wraps; `Slots.generation_after` ties the two together.

A slot that is in use stays in use until a close, an abort or a loss goes through with a handle that
names the slot at the time (`Slots.released`).  As long as only openings renew the slot, that handle
is the one that the slot was opened with.
-/

namespace MeterNode

open MeterNode.Text

namespace Slots

variable {t u : Slots} {i j s : SlotId} {g h : Handle} {secure : Bool}

/-! ## Changes -/

/-- A change of the table. -/
inductive Change where
  /-- The loop calls the transport. -/
  | call (call : NetCall)
  /-- A worker takes the oldest command of its slot. -/
  | take (i : SlotId)
  /-- A worker reports that the socket of a session was lost. -/
  | lose (i : SlotId) (h : Handle)
  /-- A slot is renewed without being opened, as the listener does for its visitors. -/
  | renew (i : SlotId)
  /-- The listener gives a slot to an owner. -/
  | setOwner (i : SlotId) (owner : ConnId)
  /-- The listener drops the commands for a slot. -/
  | clear (i : SlotId)

variable {c : Change} {history : List Change}

/-- The table after a change. -/
def changed (t : Slots) : Change → Slots
  | .call call => t.called call
  | .take i => ((t.take? i).map (·.2)).getD t
  | .lose i h => (t.lose i h).2
  | .renew i => t.renew i
  | .setOwner i owner => t.setOwner i owner
  | .clear i => t.clear i

/-- A slot after a change. -/
def slotChanged (t : Slots) (s : SlotId) : Change → Slot
  | .call request => t.slotAfter s request
  | .take i => if i = s then { t.get s with commands := (t.get s).commands.tail } else t.get s
  | .lose i h =>
      if i = s ∧ t.slotOf? h = some s then { t.get s with owner := nobody, inUse := false }
      else t.get s
  | .renew i =>
      if i = s then { t.get s with generation := (t.get s).generation + 1 } else t.get s
  | .setOwner i owner => if i = s then { t.get s with owner } else t.get s
  | .clear i => if i = s then { t.get s with commands := [] } else t.get s

theorem get_changed (t : Slots) (s : SlotId) (c : Change) :
    (t.changed c).get s = t.slotChanged s c := by
  cases c with
  | call request => exact get_called t s request
  | take i =>
    simp only [changed, slotChanged, take?]
    split
    · next empty =>
      have same : (t.get i).commands.tail = (t.get i).commands := by rw [empty, List.tail_nil]
      split
      · next here => subst here; rw [same]; rfl
      · rfl
    · grind [get_modify]
  | lose i h =>
    simp only [changed, slotChanged, lose]
    split <;> grind [setOwner, free, get_modify]
  | renew i => grind [changed, slotChanged, renew, get_modify]
  | setOwner i owner => grind [changed, slotChanged, setOwner, get_modify]
  | clear i => grind [changed, slotChanged, clear, get_modify]

/-- The table after a history. -/
def after (t : Slots) (history : List Change) : Slots := history.foldl changed t

@[simp] theorem after_nil : t.after [] = t := rfl

@[simp] theorem after_cons : t.after (c :: history) = (t.changed c).after history := rfl

/-- The handle that a change is about. -/
def Change.handle? : Change → Option Handle
  | .call request => request.handle?
  | .lose _ h => some h
  | .take _ | .renew _ | .setOwner .. | .clear _ => none

/-- A change starts a new generation of a slot. -/
def Starts (t : Slots) (s : SlotId) : Change → Prop
  | .call (.openSocket secure) => t.vacant? secure = some s
  | .renew i => i = s
  | _ => False

instance (t : Slots) (s : SlotId) (c : Change) : Decidable (t.Starts s c) := by
  unfold Starts
  split <;> infer_instance

/-- The generations of a slot that a history starts. -/
def renewals (s : SlotId) : Slots → List Change → Nat
  | _, [] => 0
  | t, c :: rest => (if t.Starts s c then 1 else 0) + renewals s (t.changed c) rest

/-- A change gives up the slot of a handle: a close that goes through, an abort, or a loss. -/
def Releases (t : Slots) (h : Handle) : Change → Prop
  | .call (.close g) => g = h ∧ (t.close g).1 = .ok ()
  | .call (.abort g) => g = h
  | .lose _ g => g = h
  | _ => False

/-- Anything about a handle that is stale leaves the table as it is. -/
theorem changed_stale (about : c.handle? = some h) (stale : t.slotOf? h = none) :
    t.changed c = t := by
  cases c with
  | call request =>
    cases request <;> cases about <;>
      simp [changed, called, Desk.answer, Desk.onSlots, Desk.withSlots, register, close, abort,
        command, stale]
  | lose i g =>
    cases about
    simp [changed, lose, stale]
  | take i => cases about
  | renew i => cases about
  | setOwner i owner => cases about
  | clear i => cases about

/-! ## Generations -/

theorem generation_changed (t : Slots) (s : SlotId) (c : Change) :
    ((t.changed c).get s).generation =
      if t.Starts s c then (t.get s).generation + 1 else (t.get s).generation := by
  rw [get_changed]
  cases c with
  | call request => cases request <;> grind [slotChanged, slotAfter, Starts, withCommand]
  | _ => grind [slotChanged, Starts]

/-- A history moves the counter of a slot by the number of generations it starts. -/
theorem generation_after (t : Slots) (s : SlotId) (history : List Change) :
    ((t.after history).get s).generation =
      (t.get s).generation + (renewals s t history).toUInt8 := by
  induction history generalizing t with
  | nil => simp [renewals]
  | cons c rest ih =>
    rw [after_cons, ih, generation_changed, renewals]
    split <;> simp [UInt8.add_assoc]

/-- A handle names its slot, unless the generations started since are no multiple of 32. -/
theorem slotOf?_after (t : Slots) (s : SlotId) (history : List Change) :
    (t.after history).slotOf? (t.handleOf s) =
      if 32 ∣ renewals s t history then some s else none := by
  rw [handleOf, slotOf?_handleIn, handleOf, generation_after]
  simp only [handleIn_add_iff]

/-! ## Openings -/

/-- An opening takes the first slot for collectors that is not in use. -/
theorem openSocket_fst (t : Slots) (secure : Bool) :
    (t.openSocket secure).1 =
      match t.vacant? secure with
      | some s => .ok ((t.openSocket secure).2.handleOf s)
      | none => .error (if secure then .argument else .mem) := by
  unfold openSocket vacant?
  split
  · rfl
  · cases clientSlots.find? fun i => !(t.get i).inUse <;> rfl

/-- An opening works just if no encryption is asked for and a slot is left. -/
theorem openSocket_ok_iff :
    (∃ h, (t.openSocket secure).1 = .ok h) ↔
      secure = false ∧ ∃ s ∈ clientSlots, (t.get s).inUse = false := by
  rw [openSocket_fst]
  constructor
  · rintro ⟨h, opened⟩
    cases vacant : t.vacant? secure with
    | none => simp [vacant] at opened
    | some s =>
      obtain ⟨plain, client, free⟩ := vacant?_eq_some vacant
      exact ⟨plain, s, client, free⟩
  · rintro ⟨rfl, s, client, free⟩
    have found : (t.vacant? false).isSome := by
      simpa [vacant?] using ⟨s, client, free⟩
    obtain ⟨i, vacant⟩ := Option.isSome_iff_exists.mp found
    exact ⟨_, by rw [vacant]⟩

/-- The handle that an opening gives out is the handle of the slot it took. -/
theorem openSocket_gives (opened : t.openSocket secure = (.ok h, u)) :
    ∃ s ∈ clientSlots, (t.get s).inUse = false ∧ (u.get s).inUse = true ∧ u.handleOf s = h := by
  have answer := openSocket_fst t secure
  have table : u = t.called (.openSocket secure) := by
    rw [called, Desk.answer, Desk.withSlots, opened]
  rw [opened] at answer
  cases vacant : t.vacant? secure with
  | none => simp [vacant] at answer
  | some s =>
    obtain ⟨-, client, free⟩ := vacant?_eq_some vacant
    refine ⟨s, client, free, ?_, ?_⟩
    · simp [table, get_called, slotAfter, vacant]
    · simpa [vacant] using answer.symm

/-! ## Slots in use -/

/-- A slot in use stays in use, and keeps its handle unless it is renewed, until it is released. -/
theorem released_or_kept (inUse : (t.get s).inUse = true) (c : Change) :
    (∃ g, t.slotOf? g = some s ∧ t.Releases g c) ∨
      ((t.changed c).get s).inUse = true ∧
        (c ≠ .renew s → (t.changed c).handleOf s = t.handleOf s) := by
  rw [handleOf, generation_changed, get_changed]
  cases c with
  | call request => cases request with
    | openSocket secure =>
      have taken : t.vacant? secure ≠ some s := fun vacant => by
        have free := (vacant?_eq_some vacant).2.2
        simp [inUse] at free
      grind [slotChanged, slotAfter, Starts, handleOf]
    | close h =>
      by_cases released : t.slotOf? h = some s ∧ t.Roomy s
      · refine .inl ⟨h, released.1, rfl, ?_⟩
        simp [close, released, send?_eq]
      · right
        grind [slotChanged, slotAfter, Starts, handleOf]
    | abort h => grind [slotChanged, slotAfter, Starts, Releases, handleOf]
    | _ => grind [slotChanged, slotAfter, Starts, withCommand, handleOf]
  | lose i h => grind [slotChanged, Starts, Releases, handleOf]
  | _ => grind [slotChanged, Starts, handleOf]

/-- A slot in use that is free after a history was released in it, through its first handle if
nothing but openings renewed the slot before. -/
theorem released (inUse : (t.get s).inUse = true)
    (free : ((t.after history).get s).inUse = false) :
    ∃ before c later g, history = before ++ c :: later ∧
      (t.after before).slotOf? g = some s ∧ (t.after before).Releases g c ∧
      (.renew s ∉ before → g = t.handleOf s) := by
  induction history generalizing t with
  | nil => simp [inUse] at free
  | cons c rest ih =>
    rcases released_or_kept inUse c with ⟨g, named, gone⟩ | ⟨still, kept⟩
    · exact ⟨[], c, rest, g, rfl, named, gone, fun _ => (slotOf?_eq_some_iff.mp named).symm⟩
    · obtain ⟨before, d, later, g, rfl, named, gone, first⟩ := ih still free
      refine ⟨c :: before, d, later, g, rfl, named, gone, fun none => ?_⟩
      rw [List.mem_cons, not_or] at none
      rw [first none.2, kept (Ne.symm none.1)]

/-- Handles of different slots differ, whenever they were given out. -/
theorem handleOf_ne (different : i ≠ j) : t.handleOf i ≠ u.handleOf j := fun same =>
  different (handleIn_inj.mp same).1

/-- When two openings take the same slot, the slot was released between them: with the first handle,
unless something else than an opening had renewed a slot for collectors. -/
theorem openings_released {secure' : Bool} {h' : Handle} {u' : Slots}
    (first : t.openSocket secure = (.ok h, u))
    (second : (u.after history).openSocket secure' = (.ok h', u'))
    (same : numberIn h = numberIn h') :
    ∃ before c later g, history = before ++ c :: later ∧
      (u.after before).slotOf? g = u.slotOf? h ∧ (u.after before).Releases g c ∧
      ((∀ s ∈ clientSlots, .renew s ∉ before) → g = h) := by
  obtain ⟨s, client, -, inUse, rfl⟩ := openSocket_gives first
  obtain ⟨r, -, free, -, rfl⟩ := openSocket_gives second
  simp only [handleOf, numberIn_handleIn] at same
  obtain rfl := Fin.ext same
  obtain ⟨before, c, later, g, split, named, gone, only⟩ := released inUse free
  refine ⟨before, c, later, g, split, ?_, gone, fun none => only (none s client)⟩
  rw [named, slotOf?_eq_some_iff.mpr rfl]

/-- What handles are good for, from any table on.  The handle of a slot names the slot until a new
generation of it starts, and nothing through the next 31 generations.  Handles of different slots
differ.  An opening works just if no encryption is asked for and a slot for collectors is not in
use.  Two handles that openings gave out name different slots, or the slot was released in between:
through the first of them, as long as slots for collectors are renewed by openings alone, as they
are on the board.  Whatever is done with a stale handle leaves the table as it is. -/
theorem handles_good (t : Slots) :
    (∀ s history,
      (renewals s t history = 0 → (t.after history).slotOf? (t.handleOf s) = some s) ∧
      (1 ≤ renewals s t history → renewals s t history ≤ 31 →
        (t.after history).slotOf? (t.handleOf s) = none)) ∧
    (∀ u i j, i ≠ j → t.handleOf i ≠ Slots.handleOf u j) ∧
    (∀ secure, (∃ h, (t.openSocket secure).1 = .ok h) ↔
      secure = false ∧ ∃ s ∈ clientSlots, (t.get s).inUse = false) ∧
    (∀ secure h u history secure' h' u', t.openSocket secure = (.ok h, u) →
      (u.after history).openSocket secure' = (.ok h', u') →
      numberIn h ≠ numberIn h' ∨
        ∃ before c later g, history = before ++ c :: later ∧
          (u.after before).slotOf? g = u.slotOf? h ∧ (u.after before).Releases g c ∧
          ((∀ s ∈ clientSlots, .renew s ∉ before) → g = h)) ∧
    (∀ c h, Change.handle? c = some h → t.slotOf? h = none → t.changed c = t) := by
  refine ⟨fun s history => ⟨fun none => ?_, fun some few => ?_⟩, fun u i j => handleOf_ne,
    fun secure => openSocket_ok_iff, fun secure h u history secure' h' u' first second => ?_,
    fun c h => changed_stale⟩
  · simp [slotOf?_after, none]
  · rw [slotOf?_after, if_neg (by omega)]
  · by_cases same : numberIn h = numberIn h'
    · exact .inr (openings_released first second same)
    · exact .inl same

/-- A slot is opened, closed and opened again, and so is a second one. -/
theorem handles_good_reopened :
    let u := (({} : Slots).openSocket false).2
    let v := u.after [.call (.close ⟨8⟩), .call (.openSocket false)]
    u.slotOf? (u.handleOf 0) = some 0 ∧ v.slotOf? (u.handleOf 0) = none ∧
      v.changed (.call (.abort (u.handleOf 0))) = v ∧ (∃ h, (v.openSocket false).1 = .ok h) ∧
      ∃ h h', (({} : Slots).openSocket false).1 = .ok h ∧ (u.openSocket false).1 = .ok h' ∧
        numberIn h ≠ numberIn h' := by
  intro u v
  have stale : v.slotOf? (u.handleOf 0) = none :=
    ((handles_good u).1 0 _).2 (by decide +kernel) (by decide +kernel)
  have opens : ∃ h, (v.openSocket false).1 = .ok h :=
    ((handles_good v).2.2.1 false).mpr ⟨rfl, 1, by decide, by decide +kernel⟩
  obtain ⟨h, first⟩ := ((handles_good {}).2.2.1 false).mpr ⟨rfl, 0, by decide, by decide +kernel⟩
  obtain ⟨h', second⟩ := ((handles_good u).2.2.1 false).mpr ⟨rfl, 1, by decide, by decide +kernel⟩
  refine ⟨((handles_good u).1 0 []).1 rfl, stale, (handles_good v).2.2.2.2 _ _ rfl stale, opens,
    h, h', first, second, ?_⟩
  rcases (handles_good {}).2.2.2.1 false h u [] false h' _ (Prod.ext first rfl)
    (Prod.ext second rfl) with apart | ⟨before, c, later, g, split, -⟩
  · exact apart
  · simp at split

end Slots

end MeterNode
