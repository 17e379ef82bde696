import MeterNode.Bench.World
import MeterNode.Proofs.Connection.Calls
import MeterNode.Proofs.Observers

/-!
# States, sockets and connects

Four things about a connection have to fit together: its state, its socket, the mark that the socket
has not been used for a connect, and the reply (`Connection.Consistent`).  A fifth is seen by the
transport only: a socket that was opened is connected at most once (`DialledOnce`).  The connection
does not remember whether it has called the transport for that.  It knows that the call is still to
come while its socket is marked or a lookup is under way, and this is what `Sound` adds.

`Lived` are the connections of all runs, with everything they called.  Only two pieces of a
connection call the transport for a socket or for a connect, `openHandle` and `foundAddress`; all
others keep soundness because they do neither (`Sound.undialled`).
-/

namespace MeterNode

open MeterNode.Text

/-! ## Calls that connect -/

/-- The call begins a connect of the socket. -/
def Dials (handle : Handle) (call : NetCall.Done) : Prop :=
  ∃ address port answer, call = ⟨.connect handle address port, answer⟩

/-- The socket was opened, and no connect of it has begun since. -/
def Dialable (calls : List NetCall.Done) (handle : Handle) : Prop :=
  ∃ before secure since, calls = before ++ ⟨.openSocket secure, .ok handle⟩ :: since ∧
    ∀ call ∈ since, ¬ Dials handle call

/-- Whenever a connect of a socket began, the socket was opened before, and this was the first
connect since then. -/
def DialledOnce (calls : List NetCall.Done) : Prop :=
  ∀ before call since, calls = before ++ call :: since →
    ∀ handle, Dials handle call → Dialable before handle

section Dialling

variable {calls more : List NetCall.Done} {handle : Handle} {call : NetCall.Done}

theorem Dialable.append (h : Dialable calls handle) (hmore : ∀ call ∈ more, ¬ Dials handle call) :
    Dialable (calls ++ more) handle := by
  obtain ⟨before, secure, since, rfl, hsince⟩ := h
  refine ⟨before, secure, since ++ more, by simp, fun call hcall => ?_⟩
  rcases List.mem_append.1 hcall with hcall | hcall
  · exact hsince call hcall
  · exact hmore call hcall

theorem dialledOnce_nil : DialledOnce [] := by
  intro before call since h
  simp at h

theorem DialledOnce.snoc (h : DialledOnce calls)
    (hcall : ∀ handle, Dials handle call → Dialable calls handle) :
    DialledOnce (calls ++ [call]) := by
  intro before call' since heq
  rcases List.eq_nil_or_concat since with rfl | ⟨since, last, rfl⟩
  · obtain ⟨rfl, hlast⟩ := List.append_inj' heq rfl
    cases hlast
    exact hcall
  · rw [List.concat_eq_append, ← List.cons_append, ← List.append_assoc] at heq
    exact h _ _ _ (List.append_inj' heq rfl).1

/-- Calls that begin no connect. -/
theorem DialledOnce.append (h : DialledOnce calls)
    (hmore : ∀ call ∈ more, ∀ handle, ¬ Dials handle call) : DialledOnce (calls ++ more) := by
  induction more generalizing calls with
  | nil => rwa [List.append_nil]
  | cons call more ih =>
    obtain ⟨hcall, hmore⟩ := List.forall_mem_cons.1 hmore
    rw [← List.singleton_append, ← List.append_assoc]
    exact ih (h.snoc fun handle hdials => absurd hdials (hcall handle)) hmore

theorem Trace.Of.undialled {kinds : List Effect.Kind} {t : Trace Node} (h : t.Of kinds)
    (hdial : .dial ∉ kinds) : ∀ call ∈ t.calls, ∀ handle, ¬ Dials handle call := by
  rintro call hcall handle ⟨address, port, answer, rfl⟩
  obtain ⟨⟨op, answer'⟩, hstep, hcalled⟩ := List.mem_filterMap.1 hcall
  have hof := h _ hstep
  cases op with
  | net call =>
    cases hcalled
    exact hdial hof
  | log | count | counters | now | takeEvents | radio | cpu | meter | pause | utc => cases hcalled

end Dialling

/-! ## The calls as they are seen -/

/-- The observer who keeps the calls of the transport. -/
def Observer.calls : Observer (List NetCall.Done) := fun calls op answer =>
  calls ++ (Effect.called op answer).toList

section Calls

variable {α : Type} {s : List NetCall.Done} {t : Trace Node}

theorem Observer.calls_behind : Observer.calls.behind s t = s ++ t.calls := by
  induction t generalizing s with
  | nil => exact (List.append_nil s).symm
  | cons step t ih =>
    have hcalls :
        Trace.calls (step :: t) = (Effect.called step.1 step.2).toList ++ Trace.calls t := by
      simp only [Trace.calls, List.filterMap_cons]
      cases Effect.called step.1 step.2 <;> rfl
    calc Observer.calls.behind s (step :: t)
        = s ++ (Effect.called step.1 step.2).toList ++ Trace.calls t := ih
      _ = s ++ Trace.calls (step :: t) := by rw [hcalls, List.append_assoc]

theorem Observer.calls_misses {op : Effect} (h : op.Offline) : Observer.calls.Misses op := by
  intro s answer
  calc Observer.calls s op answer = s ++ (op.called answer).toList := rfl
    _ = s := by rw [h.called]; exact List.append_nil s

theorem Act.leaves_offline {p : Act α} (h : Prog.Asks Effect.Offline p) :
    p.Leaves Observer.calls s fun _ s' => s' = s :=
  Act.leaves_misses (h.mono fun _ => Observer.calls_misses)

end Calls

namespace Connection

variable {c d : Connection} {now : Instant} {calls : List NetCall.Done}

/-! ## Consistency -/

/-- What a connection remembers of itself fits together. -/
structure Consistent (c : Connection) : Prop where
  wired : c.Wired
  error : c.state = .error → c.handle = none
  fresh : c.fresh = true → c.state = .init ∧ c.handle.isSome
  replied : c.state = .replied → ∃ chunk, c.response = some chunk ∧ chunk ≠ []

/-- The socket has not been used for a connect, as far as the connection knows: it is marked, or a
lookup for it is under way. -/
def Undialled (c : Connection) : Prop := c.fresh = true ∨ c.state = .dns

/-- The connection is consistent, and no socket was connected twice.  If a connect is still to come,
it is the first one of the socket. -/
structure Sound (calls : List NetCall.Done) (c : Connection) : Prop where
  consistent : c.Consistent
  once : DialledOnce calls
  dialable : c.Undialled → ∃ handle, c.handle = some handle ∧ Dialable calls handle

theorem Consistent.held (h : c.Consistent) (hs : c.state ≠ .init) (herror : c.state ≠ .error) :
    c.handle.isSome := h.wired.held hs herror

/-- Only in `Init` is a socket marked. -/
theorem Consistent.used (h : c.Consistent) (hs : c.state ≠ .init) : c.fresh = false :=
  Bool.eq_false_iff.2 fun hfresh => hs (h.fresh hfresh).1

theorem Consistent.released_fresh (h : c.Consistent) : c.released.fresh = false := by
  simp only [released]
  split
  next hnone =>
    refine Bool.eq_false_iff.2 fun hfresh => ?_
    have hheld := (h.fresh hfresh).2
    rw [hnone] at hheld
    cases hheld
  next => rfl

/-- What a piece of a connection does that calls the transport neither for a socket nor for a
connect: it stays consistent, and a connect that is still to come was to come before. -/
structure Keeps (c d : Connection) : Prop where
  consistent : d.Consistent
  undialled : d.Undialled → c.Undialled ∧ d.handle = c.handle

theorem Consistent.keeps (h : c.Consistent) : Keeps c c := ⟨h, fun hc => ⟨hc, rfl⟩⟩

/-- A connection starts over and keeps its socket. -/
theorem Consistent.keeps_init (h : c.Consistent) (hs : d.state = .init)
    (hhandle : d.handle = c.handle) (hfresh : d.fresh = c.fresh) : Keeps c d where
  consistent :=
    { wired := wired_init hs
      error := fun herror => by simp [hs] at herror
      fresh := fun hd => ⟨hs, hhandle ▸ (h.fresh (hfresh ▸ hd)).2⟩
      replied := fun hreplied => by simp [hs] at hreplied }
  undialled hd := by
    refine ⟨Or.inl ?_, hhandle⟩
    rcases hd with hd | hd
    · exact hfresh ▸ hd
    · simp [hs] at hd

/-- A socket that is held and has been used, or none at all. -/
theorem keeps_used (hused : d.fresh = false) (hs : d.state ≠ .dns) (hwired : d.Wired)
    (herror : d.state = .error → d.handle = none)
    (hreplied : d.state = .replied → ∃ chunk, d.response = some chunk ∧ chunk ≠ []) :
    Keeps c d where
  consistent :=
    { wired := hwired
      error := herror
      fresh := fun hd => by simp [hused] at hd
      replied := hreplied }
  undialled hd := by
    rcases hd with hd | hd
    · simp [hused] at hd
    · exact absurd hd hs

/-- A connection starts over without a socket. -/
theorem keeps_dropped (hs : d.state = .init) (hused : d.fresh = false) : Keeps c d :=
  keeps_used hused (by simp [hs]) (wired_init hs) (by simp [hs]) (by simp [hs])

/-- An exchange goes on over the socket that is held. -/
theorem Consistent.keeps_held (h : c.Consistent) (hinit : c.state ≠ .init)
    (herror : c.state ≠ .error) (hhandle : d.handle = c.handle) (hfresh : d.fresh = c.fresh)
    (hs : d.state ≠ .dns) (hd : d.state ≠ .error)
    (hreplied : d.state = .replied → ∃ chunk, d.response = some chunk ∧ chunk ≠ []) :
    Keeps c d :=
  keeps_used (hfresh.trans (h.used hinit)) hs
    (wired_of_held (hhandle ▸ h.held hinit herror)) (fun hd' => absurd hd' hd) hreplied

theorem afterLookup_keeps {address : Option Address} {started : Bool} (h : c.Consistent)
    (hs : c.state = .dns) : Keeps c (c.afterLookup address now started) := by
  simp only [afterLookup]
  split
  next =>
    cases started with
    | true => exact h.keeps_held (by simp [hs]) (by simp [hs]) rfl rfl (by simp) (by simp) (by simp)
    | false => exact h.keeps_init rfl rfl rfl
  next => exact h.keeps_init rfl rfl rfl

theorem after_keeps {kind : EventKind} {started : Bool} (h : c.Consistent) :
    Keeps c (c.after kind now started) := by
  cases kind with
  | dnsFound address =>
    simp only [after]
    split
    next hs => exact afterLookup_keeps h hs
    next => exact h.keeps
  | connected result =>
    cases result with
    | ok u =>
      simp only [after]
      split
      next hs =>
        exact h.keeps_held (by simp [hs]) (by simp [hs]) rfl rfl (by simp) (by simp) (by simp)
      next => exact h.keeps
    | error e => exact h.keeps_init rfl rfl rfl
  | received chunk =>
    simp only [after]
    split
    next => exact h.keeps
    next hchunk =>
      have hbuffered : ∃ buffered, some chunk = some buffered ∧ buffered ≠ [] :=
        ⟨chunk, rfl, by simpa using hchunk⟩
      split
      case h_5 => exact h.keeps
      all_goals
        rename_i hs
        exact h.keeps_held (by simp [hs]) (by simp [hs]) rfl rfl (by simp) (by simp)
          fun _ => hbuffered
  | sent length =>
    simp only [after]
    split
    case h_3 => exact h.keeps
    all_goals
      rename_i hs
      exact h.keeps_held (by simp [hs]) (by simp [hs]) rfl rfl (by simp) (by simp) (by simp)
  | poll =>
    simp only [after]
    split
    next => exact keeps_dropped rfl h.released_fresh
    next => exact h.keeps
  | peerClosed => exact keeps_dropped rfl h.released_fresh
  | error e => exact keeps_dropped rfl rfl
  | accepted result =>
    cases result with
    | ok handle =>
      exact keeps_used rfl (by simp [after]) (wired_of_held rfl) (by simp [after]) (by simp [after])
    | error e => exact keeps_dropped rfl h.released_fresh

theorem Posted.keeps (hd : Posted c now d) (h : c.Consistent) : Keeps c d := by
  cases hd with
  | skipped => exact h.keeps
  | lost => exact h.keeps_init rfl rfl rfl
  | written hs | deferred hs =>
    exact h.keeps_held (by simp [hs]) (by simp [hs]) rfl rfl (by simp) (by simp) (by simp)

/-! ## Sockets and connects -/

section Sound

variable {more : List NetCall.Done} {t : Trace Node}

theorem Sound.undialled (h : Sound calls c) (hkeeps : Keeps c d)
    (hmore : ∀ call ∈ more, ∀ handle, ¬ Dials handle call) : Sound (calls ++ more) d where
  consistent := hkeeps.consistent
  once := h.once.append hmore
  dialable hd := by
    obtain ⟨hc, hsame⟩ := hkeeps.undialled hd
    obtain ⟨handle, hhandle, hdialable⟩ := h.dialable hc
    exact ⟨handle, hsame.trans hhandle, hdialable.append fun call hcall => hmore call hcall handle⟩

/-- A program that begins no connect, and what it leaves of the connection. -/
theorem Sound.leaves {α : Type} {kinds : List Effect.Kind} {p : Act α} (h : Sound calls c)
    (hp : Prog.Asks (Effect.Of kinds) p) (hdial : .dial ∉ kinds) (left : α → Connection)
    (hkeeps : ∀ a, p.Gives a → Keeps c (left a)) :
    p.Leaves Observer.calls calls fun a s => Sound s (left a) := by
  intro t a hends
  rw [Observer.calls_behind]
  exact h.undialled (hkeeps a hends.gives) ((hends.of hp).undialled hdial)

theorem setState_leaves {next : ConnState} {reason : String} :
    (c.setState next reason).Leaves Observer.calls calls fun d s =>
      d = { c with state := next } ∧ s = calls :=
  (Act.leaves_offline setState_offline).gives.imp fun _ _ h => ⟨setState_gives h.1, h.2⟩

theorem log_leaves {level : Level} {text : String} :
    (c.log level text).Leaves Observer.calls calls fun _ s => s = calls :=
  Act.leaves_offline (by simp)

/-- The outcome of a lookup begins a connect at most, of the socket that is held. -/
theorem foundAddress_dials {address : Option Address} :
    (c.foundAddress address now).Leaves Observer.calls calls fun _ s =>
      s = calls ∨ ∃ handle address port answer, c.handle = some handle ∧
        s = calls ++ [⟨.connect handle address port, answer⟩] := by
  simp only [foundAddress]
  split
  next => exact (Act.leaves_offline fail_offline).imp fun _ _ => Or.inl
  next address =>
    split
    next handle endpoint hh he =>
      rw [Act.leaves_bind]
      refine setState_leaves.imp ?_
      rintro _ _ ⟨rfl, rfl⟩
      simp only [Act.leaves_bind, Act.leaves_net]
      intro answer
      cases answer with
      | ok u => exact Act.leaves_pure.2 (Or.inr ⟨handle, address, endpoint.port, _, hh, rfl⟩)
      | error e =>
        refine (Act.leaves_offline fail_offline).imp ?_
        rintro _ _ rfl
        exact Or.inr ⟨handle, address, endpoint.port, _, hh, rfl⟩
    next => exact setState_leaves.imp fun _ _ h => Or.inl h.2

theorem foundAddress_sound {address : Option Address} (h : Sound calls c) (hs : c.state = .dns) :
    (c.foundAddress address now).Leaves Observer.calls calls fun d s => Sound s d := by
  refine foundAddress_dials.gives.imp ?_
  rintro d s ⟨hgives, hdials⟩
  obtain ⟨started, rfl⟩ := foundAddress_gives hgives
  have hkeeps : Keeps c (c.afterLookup address now started) := afterLookup_keeps h.consistent hs
  have hdone : ¬ (c.afterLookup address now started).Undialled := by
    have hused : c.fresh = false := h.consistent.used (by simp [hs])
    simp only [afterLookup]
    split
    next => cases started <;> simp [Undialled, hused]
    next => simp [Undialled, hused]
  refine ⟨hkeeps.consistent, ?_, fun hd => absurd hd hdone⟩
  rcases hdials with rfl | ⟨handle, address, port, answer, hh, rfl⟩
  · exact h.once
  · refine h.once.snoc ?_
    rintro handle' ⟨_, _, _, hcall⟩
    cases hcall
    obtain ⟨handle', hh', hdialable⟩ := h.dialable (Or.inr hs)
    rw [hh] at hh'
    cases hh'
    exact hdialable

/-- What it takes to hold a socket. -/
inductive Opens (c : Connection) (calls : List NetCall.Done) :
    Except NetError Handle × Connection → List NetCall.Done → Prop where
  | held {handle : Handle} : c.handle = some handle → Opens c calls (.ok handle, c) calls
  | opened {secure : Bool} {handle : Handle} : c.handle = none →
      Opens c calls (.ok handle, { c with handle := some handle, fresh := true })
        (calls ++ [⟨.openSocket secure, .ok handle⟩] ++ [⟨.register handle c.id, ()⟩])
  | refused {secure : Bool} {cause : NetError} : c.handle = none →
      Opens c calls (.error cause, c) (calls ++ [⟨.openSocket secure, .error cause⟩])

theorem openHandle_opens : c.openHandle.Leaves Observer.calls calls (Opens c calls) := by
  simp only [openHandle]
  split
  next handle hh => exact Act.leaves_pure.2 (.held hh)
  next hh =>
    simp only [Act.leaves_bind, Act.leaves_net]
    intro answer
    cases answer with
    | error e => exact Act.leaves_pure.2 (.refused hh)
    | ok handle =>
      simp only [attach, release, hh, Act.leaves_bind, Act.leaves_pure, Act.leaves_net]
      exact fun _ => .opened hh

/-- A socket that was just opened has not been connected. -/
theorem dialable_opened {secure : Bool} {handle : Handle} {id : ConnId} :
    Dialable (calls ++ [⟨.openSocket secure, .ok handle⟩] ++ [⟨.register handle id, ()⟩])
      handle := by
  refine ⟨calls, secure, [⟨.register handle id, ()⟩], by simp, fun call hcall => ?_⟩
  rintro ⟨address, port, answer, rfl⟩
  simp at hcall

theorem Opens.once {res : Except NetError Handle × Connection} {s : List NetCall.Done}
    (h : Opens c calls res s) (honce : DialledOnce calls) : DialledOnce s := by
  cases h with
  | held => exact honce
  | opened =>
    refine (honce.snoc ?_).snoc ?_
    all_goals
      rintro handle ⟨address, port, answer, hcall⟩
      cases hcall
  | refused =>
    refine honce.snoc ?_
    rintro handle ⟨address, port, answer, hcall⟩
    cases hcall

/-- A connection that does nothing may have a socket opened in advance. -/
theorem openHandle_sound (h : Sound calls c) (hs : c.state = .init) :
    c.openHandle.Leaves Observer.calls calls fun res s => Sound s res.2 := by
  refine openHandle_opens.imp fun res s hopens => ?_
  have honce := hopens.once h.once
  cases hopens with
  | held => exact h
  | opened hnone =>
    refine ⟨?_, honce, fun _ => ⟨_, rfl, dialable_opened⟩⟩
    exact
      { wired := wired_of_held rfl
        error := fun herror => by simp [hs] at herror
        fresh := fun _ => ⟨hs, rfl⟩
        replied := fun hreplied => by simp [hs] at hreplied }
  | refused hnone =>
    refine ⟨h.consistent, honce, fun hd => ?_⟩
    obtain ⟨handle, hh, -⟩ := h.dialable hd
    rw [hnone] at hh
    cases hh

theorem lookUp_sound {endpoint : Endpoint} (h : Sound calls c) (hs : c.state = .dns) :
    (c.lookUp endpoint now).Leaves Observer.calls calls fun d s => Sound s d := by
  simp only [lookUp, Act.leaves_bind, Act.leaves_net]
  intro answer
  have hasked : Sound (calls ++ [⟨.resolve endpoint.host c.id, answer⟩]) c := by
    refine h.undialled h.consistent.keeps ?_
    rintro call hcall handle ⟨_, _, _, rfl⟩
    simp at hcall
  cases answer with
  | ok found =>
    cases found with
    | resolved address => exact foundAddress_sound hasked hs
    | pending =>
      rw [Act.leaves_bind]
      refine log_leaves.imp ?_
      rintro _ _ rfl
      exact Act.leaves_pure.2 hasked
  | error e =>
    refine hasked.leaves (fail_kinds (List.Subset.refl _)) (by decide) (fun d => d) fun d hd => ?_
    cases fail_gives hd
    exact h.consistent.keeps_init rfl rfl rfl

/-- A connect begins without a socket or with one that is marked. -/
theorem dropUsedHandle_sound (h : Sound calls c) (hs : c.state = .init) :
    c.dropUsedHandle.Leaves Observer.calls calls fun d s =>
      Sound s d ∧ d.state = .init ∧ (d.handle = none ∨ d.fresh = true) := by
  have hreleased : c.released.state = .init := by
    rw [← hs, released]
    split <;> rfl
  simp only [dropUsedHandle]
  split
  next =>
    simp only [Act.leaves_bind, Act.leaves_pure]
    refine (h.leaves (release_kinds (List.Subset.refl _)) (by decide) Prod.snd
      fun r hr => ?_).gives.imp fun r s hr => ?_
    · rw [release_gives hr]
      exact keeps_dropped hreleased h.consistent.released_fresh
    · refine ⟨hr.2, ?_⟩
      rw [release_gives hr.1]
      exact ⟨hreleased, Or.inl (released_handle c)⟩
  next hfree =>
    refine Act.leaves_pure.2 ⟨h, hs, ?_⟩
    cases hh : c.handle with
    | none => exact Or.inl rfl
    | some handle => exact Or.inr (by simpa [hh] using hfree)

/-- A socket that is held for a connect has not been connected before. -/
theorem openHandle_dialable (h : Sound calls c) (hs : c.state = .init)
    (hfree : c.handle = none ∨ c.fresh = true) :
    c.openHandle.Leaves Observer.calls calls fun res s =>
      Sound s res.2 ∧
        match res.1 with
        | .ok handle => res.2.handle = some handle ∧ Dialable s handle
        | .error _ => res.2.handle = none := by
  refine (openHandle_opens.and (openHandle_sound h hs)).imp fun res s hres => ⟨hres.2, ?_⟩
  cases hres.1 with
  | held hh =>
    refine ⟨hh, ?_⟩
    obtain ⟨handle, hh', hdialable⟩ := h.dialable (Or.inl (hfree.resolve_left (by simp [hh])))
    rw [hh] at hh'
    cases hh'
    exact hdialable
  | opened => exact ⟨rfl, dialable_opened⟩
  | refused hnone => exact hnone

theorem connect_sound (h : Sound calls c) :
    (c.connect now).Leaves Observer.calls calls fun d s => Sound s d := by
  simp only [connect]
  split
  next =>
    rw [Act.leaves_bind]
    refine log_leaves.imp ?_
    rintro _ _ rfl
    exact Act.leaves_pure.2 h
  next hs =>
    split
    next => exact Act.leaves_pure.2 h
    next endpoint _ =>
      have hinit : c.state = .init := Classical.not_not.1 hs
      rw [Act.leaves_bind]
      refine (dropUsedHandle_sound h hinit).imp ?_
      rintro c₁ s₁ ⟨h₁, hs₁, hfree⟩
      rw [Act.leaves_bind]
      refine (openHandle_dialable h₁ hs₁ hfree).imp ?_
      rintro ⟨result, c₂⟩ s₂ ⟨h₂, hresult⟩
      cases result with
      | error e =>
        rw [Act.leaves_bind]
        refine log_leaves.imp ?_
        rintro _ _ rfl
        rw [Act.leaves_bind]
        refine (Act.leaves_offline (by simp)).imp ?_
        rintro _ _ rfl
        refine h₂.leaves (setState_kinds (List.Subset.refl _)) (by decide) (fun d => d)
          fun d hd => ?_
        cases setState_gives hd
        have hused : c₂.fresh = false := by
          refine Bool.eq_false_iff.2 fun hfresh => ?_
          have hheld := (h₂.consistent.fresh hfresh).2
          rw [show c₂.handle = none from hresult] at hheld
          cases hheld
        exact keeps_used hused (by simp) (fun _ => Or.inr rfl) (fun _ => hresult) (by simp)
      | ok handle =>
        obtain ⟨hh, hdialable⟩ : c₂.handle = some handle ∧ Dialable s₂ handle := hresult
        rw [Act.leaves_bind]
        refine log_leaves.imp ?_
        rintro _ _ rfl
        rw [Act.leaves_bind]
        refine setState_leaves.imp ?_
        rintro _ _ ⟨rfl, rfl⟩
        rw [Act.leaves_bind]
        refine (Act.leaves_offline (by simp)).imp ?_
        rintro _ _ rfl
        refine lookUp_sound ?_ rfl
        refine ⟨?_, h₂.once, fun _ => ⟨handle, hh, hdialable⟩⟩
        exact
          { wired := wired_of_held (by simp [hh])
            error := by simp
            fresh := by simp
            replied := by simp }

/-! ## Operations -/

theorem handleEvent_sound {kind : EventKind} (h : Sound calls c) :
    (c.handleEvent kind now).Leaves Observer.calls calls fun res s => Sound s res.2 := by
  by_cases hlooked : ∃ address, kind = .dnsFound address ∧ c.state = .dns
  · obtain ⟨address, rfl, hs⟩ := hlooked
    simp only [handleEvent, hs, ne_eq, not_true_eq_false, if_false, Act.leaves_bind,
      Act.leaves_pure]
    exact foundAddress_sound h hs
  · have hkinds : Prog.Asks (Effect.Of [.note, .socket]) (c.handleEvent kind now) :=
      handleEvent_kinds_of (List.Subset.refl _)
        fun address hkind hs => absurd ⟨address, hkind, hs⟩ hlooked
    refine h.leaves hkinds (by decide) Prod.snd fun res hres => ?_
    obtain ⟨⟨started, hafter⟩, -⟩ := handleEvent_gives hres
    rw [hafter]
    exact after_keeps h.consistent

theorem applyEvent_sound {source : Option Handle} {kind : EventKind} (h : Sound calls c) :
    (c.applyEvent source kind now).Leaves Observer.calls calls fun res s => Sound s res.2 := by
  by_cases hhears : c.Hears source
  · rw [applyEvent_of_hears hhears]
    exact handleEvent_sound h
  · obtain ⟨text, hdeaf⟩ := applyEvent_of_deaf hhears kind now
    rw [hdeaf, Act.leaves_bind]
    refine log_leaves.imp ?_
    rintro _ _ rfl
    exact Act.leaves_pure.2 h

theorem abandon_sound {reason : String} (h : Sound calls c) :
    (c.abandon reason).Leaves Observer.calls calls fun d s => Sound s d := by
  refine h.leaves (abandon_kinds (List.Subset.refl _)) (by decide) (fun d => d) fun d hd => ?_
  rw [abandon_gives hd]
  exact keeps_dropped rfl h.consistent.released_fresh

theorem reconnect_sound (h : Sound calls c) :
    (c.reconnect now).Leaves Observer.calls calls fun d s => Sound s d := by
  rw [reconnect, Act.leaves_bind]
  refine log_leaves.imp ?_
  rintro _ _ rfl
  rw [Act.leaves_bind]
  exact (abandon_sound h).imp fun _ _ => connect_sound

theorem act_sound (op : Operation) (h : Sound calls c) :
    (op.act c now).Leaves Observer.calls calls fun d s => Sound s d := by
  cases op with
  | connect => exact connect_sound h
  | abandon reason => exact abandon_sound h
  | post resource payload =>
    refine h.leaves (post_kinds (List.Subset.refl _)) (by decide) (fun d => d) fun d hd => ?_
    exact (post_gives_posted hd).keeps h.consistent
  | resume =>
    simp only [Operation.act, Act.leaves_bind, Act.leaves_pure]
    refine h.leaves (resume_kinds (List.Subset.refl _)) (by decide) Prod.snd fun r hr => ?_
    rw [resume_gives hr]
    split
    next hs =>
      exact h.consistent.keeps_held (by simp [hs]) (by simp [hs]) rfl rfl (by simp) (by simp)
        (by simp)
    next => exact h.consistent.keeps
  | finishReply =>
    simp only [Operation.act, Act.leaves_bind, Act.leaves_pure]
    refine h.leaves (finishReply_kinds (List.Subset.refl _)) (by decide) Prod.snd fun r hr => ?_
    have htaken := finishReply_gives hr
    split at htaken
    next =>
      rw [htaken.2]
      exact keeps_dropped rfl h.consistent.released_fresh
    next =>
      rw [htaken]
      exact h.consistent.keeps
  | checkTimeout =>
    simp only [Operation.act, Act.leaves_bind, Act.leaves_pure]
    refine h.leaves (checkTimeout_kinds (List.Subset.refl _)) (by decide) Prod.snd fun r hr => ?_
    rw [checkTimeout_gives hr]
    exact after_keeps h.consistent
  | event source kind =>
    simp only [Operation.act, Act.leaves_bind, Act.leaves_pure]
    exact applyEvent_sound h

theorem respond_sound {reply : String} (h : Sound calls c) :
    (c.respond reply).Leaves Observer.calls calls fun _ s => Sound s c := by
  have hkinds : Prog.Asks (Effect.Of [.note, .send]) (c.respond reply) := by
    simp only [respond]
    split
    next => exact Act.asks_pure
    next =>
      simp only [Act.asks_bind, Act.asks_net]
      refine ⟨by simp, ?_⟩
      rintro answer -
      cases answer <;> simp
  exact h.leaves hkinds (by decide) (fun _ => c) fun _ _ => h.consistent.keeps

end Sound

/-! ## Runs -/

/-- The connections of all runs, with everything they called.  A run begins with a connection that
has not been used, and while the connection does nothing a socket may be opened in advance.  A
report that names no socket is handled without a look at the socket. -/
inductive Lived : List NetCall.Done → Connection → Prop where
  | unused {c : Connection} : c.state = .init → c.handle = none → c.fresh = false → Lived [] c
  | opened {calls : List NetCall.Done} {c : Connection} {t : Trace Node}
      {res : Except NetError Handle × Connection} : Lived calls c → c.state = .init →
      c.openHandle.Ends t res → Lived (calls ++ t.calls) res.2
  | act {calls : List NetCall.Done} {c d : Connection} {t : Trace Node} {now : Instant}
      (op : Operation) : Lived calls c → (op.act c now).Ends t d → Lived (calls ++ t.calls) d
  | reconnect {calls : List NetCall.Done} {c d : Connection} {t : Trace Node} {now : Instant} :
      Lived calls c → (c.reconnect now).Ends t d → Lived (calls ++ t.calls) d
  | respond {calls : List NetCall.Done} {c : Connection} {t : Trace Node} {reply : String}
      {result : Except NetError Unit} : Lived calls c → (c.respond reply).Ends t result →
      Lived (calls ++ t.calls) c

theorem Lived.sound (h : Lived calls c) : Sound calls c := by
  -- the calls that an observer has seen behind a program are those of its trace
  have hseen {α : Type} {p : Act α} {t : Trace Node} {a : α} {calls : List NetCall.Done}
      (left : α → Connection)
      (hp : p.Leaves Observer.calls calls fun a s => Sound s (left a)) (hends : p.Ends t a) :
      Sound (calls ++ t.calls) (left a) := by
    rw [← Observer.calls_behind]
    exact hp t a hends
  induction h with
  | unused hs hh hfresh =>
    refine ⟨?_, dialledOnce_nil, fun hd => ?_⟩
    · exact
        { wired := wired_init hs
          error := fun _ => hh
          fresh := fun hmarked => by simp [hfresh] at hmarked
          replied := fun hreplied => by simp [hs] at hreplied }
    · rcases hd with hd | hd
      · simp [hfresh] at hd
      · simp [hs] at hd
  | opened _ hs hends ih => exact hseen _ (openHandle_sound ih hs) hends
  | act op _ hends ih => exact hseen (fun d => d) (act_sound op ih) hends
  | reconnect _ hends ih => exact hseen (fun d => d) (reconnect_sound ih) hends
  | respond _ hends ih => exact hseen _ (respond_sound ih) hends

/-- While an exchange is under way a socket is held, and in `Error` none is; a socket is marked as
unused only in `Init`.  A connection in `Replied` has a reply that is not empty, and gives it to
whoever takes it.  No socket is connected twice without having been opened again in between. -/
theorem Lived.coherent (h : Lived calls c) :
    (c.state ∈ [.dns, .connecting, .ready, .sending, .retry, .replied, .server] →
      c.handle.isSome) ∧
    (c.state = .error → c.handle = none) ∧
    (c.fresh = true → c.state = .init) ∧
    (c.state = .replied → ∃ chunk, c.response = some chunk ∧ chunk ≠ []) ∧
    (∀ t res, c.state = .replied → c.finishReply.Ends t res → ∃ chunk, res.1 = some chunk ∧
      chunk ≠ []) ∧
    DialledOnce calls := by
  obtain ⟨hconsistent, honce, -⟩ := h.sound
  refine ⟨fun hs => ?_, hconsistent.error, fun hfresh => (hconsistent.fresh hfresh).1,
    hconsistent.replied, fun t res hs hends => ?_, honce⟩
  · refine hconsistent.held ?_ ?_
    all_goals
      intro heq
      simp [heq] at hs
  · have htaken := finishReply_gives hends.gives
    rw [if_pos hs] at htaken
    rw [htaken.1]
    exact hconsistent.replied hs

/-! ## On the bench -/

/-- A connection on a bench, with everything it called so far. -/
structure Play where
  calls : List NetCall.Done
  conn : Connection
  world : Bench.World

/-- Let an operation happen. -/
def Play.next (x : Play) (op : Operation × Instant) : Play :=
  let act := op.1.act x.conn op.2
  let (conn, world) := x.world.run act
  ⟨x.calls ++ (act.transcript (fun op w => w.answer op) x.world).calls, conn, world⟩

theorem Play.lived {x : Play} (h : Lived x.calls x.conn) (ops : List (Operation × Instant)) :
    Lived (ops.foldl Play.next x).calls (ops.foldl Play.next x).conn := by
  induction ops generalizing x with
  | nil => exact h
  | cons op ops ih =>
    exact ih (x := x.next op) (h.act op.1 (Prog.run_ends _ _ _))

/-- A collector that has not been used. -/
def collector : Connection where
  id := ⟨0⟩
  label := "lwi0"
  role := .client ⟨.http, "coll.example", 8080, ""⟩
  timeout := Instant.ofSeconds 30

/-- The first connect cannot be started; the second one leads to a reply. -/
def answeredAtLast : Play :=
  [(.connect, 0), (.event (some ⟨1⟩) (.connected (.error .timeout)), 1000), (.connect, 2000),
    (.event (some ⟨2⟩) (.connected (.ok ())), 3000), (.post "/data" "x", 4000),
    (.event (some ⟨2⟩) (.received [72, 84, 84, 80]), 5000)].foldl Play.next ⟨[], collector, {}⟩

theorem answeredAtLast_coherent :
    Lived answeredAtLast.calls answeredAtLast.conn ∧ answeredAtLast.conn.state = .replied ∧
      answeredAtLast.conn.handle = some ⟨2⟩ ∧ DialledOnce answeredAtLast.calls :=
  have h : Lived answeredAtLast.calls answeredAtLast.conn := Play.lived (.unused rfl rfl rfl) _
  ⟨h, by decide +kernel, by decide +kernel, (Lived.coherent h).2.2.2.2.2⟩

end Connection

end MeterNode
