import MeterNode.Proofs.Connection.Deeds
import MeterNode.Proofs.Connection.Sockets

/-!
# Borrowed sockets

A connection makes no sockets.  It holds one because the transport lent it: the connection asked
for a new socket, or a visitor came with one (`Trace.Lends`).  It closes and aborts only what it
holds.  `Trace.Borrows` says so of a trace that leads from some sockets held to others, and every
operation of the registry has such traces.

The socket that the transport listens on is not lent to anybody, so nobody ever gives it back.
-/

namespace MeterNode

open Connection

/-- The socket that a call opened. -/
def NetCall.opened? : NetCall.Done → Option Handle
  | ⟨.openSocket _, .ok handle⟩ => some handle
  | _ => none

/-- The socket that a call gives back. -/
def NetCall.freed? : NetCall.Done → Option Handle
  | ⟨.close handle, _⟩ | ⟨.abort handle, _⟩ => some handle
  | _ => none

/-- The socket of the visitor that a report lets in. -/
def TransportEvent.visitor? (event : TransportEvent) : Option Handle :=
  match event.kind with
  | .accepted (.ok handle) => some handle
  | _ => none

namespace Trace

variable {t t₁ t₂ : Trace Node} {handle : Handle} {P P' Q Q' R : Handle → Prop}
  {kinds : List Effect.Kind}

/-- A connection gets a socket: it is opened, or it comes with a visitor. -/
def Lends (t : Trace Node) (handle : Handle) : Prop :=
  handle ∈ t.calls.filterMap NetCall.opened? ∨ handle ∈ t.reports.filterMap TransportEvent.visitor?

instance (t : Trace Node) (handle : Handle) : Decidable (Lends t handle) :=
  inferInstanceAs (Decidable (_ ∨ _))

/-- A socket is closed or aborted. -/
def Frees (t : Trace Node) (handle : Handle) : Prop :=
  handle ∈ t.calls.filterMap NetCall.freed?

theorem lends_append : Lends (t₁ ++ t₂) handle ↔ Lends t₁ handle ∨ Lends t₂ handle := by
  simp only [Lends, calls_append, reports_append, List.filterMap_append, List.mem_append]
  exact or_or_or_comm

theorem frees_append : Frees (t₁ ++ t₂) handle ↔ Frees t₁ handle ∨ Frees t₂ handle := by
  rw [Frees, calls_append, List.filterMap_append, List.mem_append]
  exact Iff.rfl

theorem not_frees_of_calls (h : t.calls = []) : ¬ Frees t handle := by
  rw [Frees, h]
  exact List.not_mem_nil

/-- Only calls of one kind give sockets back. -/
theorem Of.not_frees (h : Of kinds t) (hsocket : .socket ∉ kinds) : ¬ Frees t handle := by
  intro hfrees
  obtain ⟨⟨call, answer⟩, hcall, hfreed⟩ := List.mem_filterMap.1 hfrees
  obtain ⟨⟨op, result⟩, hstep, heq⟩ := List.mem_filterMap.1 hcall
  have hof := h _ hstep
  cases op with
  | net call' =>
    cases heq
    cases call with
    | close | abort => exact absurd hof hsocket
    | openSocket | register | unregister | resolve | connect | write | listen => cases hfreed
  | log | count | counters | now | takeEvents | radio | cpu | meter | pause | utc => cases heq

/-- The sockets that are held behind the trace were held before it or lent in it, and so were those
that are given back in it. -/
structure Borrows (t : Trace Node) (before after : Handle → Prop) : Prop where
  held : ∀ handle, after handle → before handle ∨ t.Lends handle
  freed : ∀ handle, t.Frees handle → before handle ∨ t.Lends handle

theorem Borrows.append (h₁ : Borrows t₁ P Q) (h₂ : Borrows t₂ Q R) : Borrows (t₁ ++ t₂) P R := by
  have hfrom (handle : Handle) (hlater : Q handle ∨ Lends t₂ handle) :
      P handle ∨ Lends (t₁ ++ t₂) handle := by
    rw [lends_append]
    rcases hlater with hheld | hlent
    · exact (h₁.held handle hheld).imp_right Or.inl
    · exact Or.inr (Or.inr hlent)
  refine ⟨fun handle hheld => hfrom handle (h₂.held handle hheld), fun handle hfreed => ?_⟩
  rcases frees_append.1 hfreed with hfreed | hfreed
  · rw [lends_append]
    exact (h₁.freed handle hfreed).imp_right Or.inl
  · exact hfrom handle (h₂.freed handle hfreed)

theorem Borrows.widen (h : Borrows t P Q) (hbefore : ∀ handle, P handle → P' handle) :
    Borrows t P' Q where
  held handle hheld := (h.held handle hheld).imp_left (hbefore handle)
  freed handle hfreed := (h.freed handle hfreed).imp_left (hbefore handle)

theorem Borrows.narrow (h : Borrows t P Q) (hafter : ∀ handle, Q' handle → Q handle) :
    Borrows t P Q' where
  held handle hheld := h.held handle (hafter handle hheld)
  freed := h.freed

/-- A trace with the same calls. -/
theorem Borrows.of_calls (h : Borrows t₁ P Q) (hcalls : t.calls = t₁.calls)
    (hreports : t₁.reports = []) : Borrows t P Q := by
  have hlends {handle : Handle} (hlent : Lends t₁ handle) : Lends t handle := by
    rw [Lends, hreports, ← hcalls] at hlent
    exact Or.inl (hlent.resolve_right List.not_mem_nil)
  refine ⟨fun handle hheld => (h.held handle hheld).imp_right hlends, fun handle hfreed => ?_⟩
  rw [Frees, hcalls] at hfreed
  exact (h.freed handle hfreed).imp_right hlends

/-- What others hold stays with them. -/
theorem Borrows.beside (h : Borrows t P Q) (others : Handle → Prop) :
    Borrows t (fun handle => P handle ∨ others handle) fun handle => Q handle ∨ others handle where
  held handle hheld := by
    rcases hheld with hheld | hothers
    · exact (h.held handle hheld).imp_left Or.inl
    · exact Or.inl (Or.inr hothers)
  freed handle hfreed := (h.freed handle hfreed).imp_left Or.inl

/-- Nothing is given back, and nobody gets a socket. -/
theorem borrows_of_not_frees (h : ∀ handle, ¬ Frees t handle) : Borrows t P P where
  held _ := Or.inl
  freed handle hfreed := absurd hfreed (h handle)

theorem borrows_rest (h : t.calls = []) : Borrows t P P :=
  borrows_of_not_frees fun _ => not_frees_of_calls h

theorem Of.borrows (h : Of kinds t) (hsocket : .socket ∉ kinds) : Borrows t P P :=
  borrows_of_not_frees fun _ => h.not_frees hsocket

end Trace

/-! ## One connection -/

namespace Connection

variable {c d : Connection} {id : ConnId} {held last : Option Handle} {handle : Handle}
  {now : Instant} {t : Trace Node} {calls : List NetCall.Done}

/-- A socket that is held or given back was held before or opened. -/
theorem Moves.lent (h : Moves id held calls last)
    (hhandle : last = some handle ∨ handle ∈ calls.filterMap NetCall.freed?) :
    held = some handle ∨ handle ∈ calls.filterMap NetCall.opened? := by
  induction h with
  | nil held => simpa using hhandle
  | returned hreturned _ ih =>
    cases hreturned
    all_goals
      simp only [List.cons_append, List.nil_append, List.filterMap_cons, NetCall.freed?,
        NetCall.opened?, List.mem_cons] at hhandle ⊢
      grind
  | opened _ ih | refused _ ih | resolved _ ih | dialled _ ih | written _ ih =>
    simp only [List.filterMap_cons, NetCall.freed?, NetCall.opened?, List.mem_cons] at hhandle ⊢
    grind

theorem Moves.borrows (h : Moves id held t.calls last) :
    t.Borrows (held = some ·) (last = some ·) where
  held _ hheld := (h.lent (Or.inl hheld)).imp_right Or.inl
  freed _ hfreed := (h.lent (Or.inr hfreed)).imp_right Or.inl

/-- A connection that is called nothing about holds the same socket. -/
theorem borrows_same (hcalls : t.calls = []) (hsame : d.handle = c.handle) :
    t.Borrows (c.handle = some ·) (d.handle = some ·) := by
  rw [hsame]
  exact Trace.borrows_rest hcalls

/-- A report brings the socket of a visitor and no other. -/
theorem applyEvent_borrows {event : TransportEvent} {res : EventOutcome × Connection}
    (h : (c.applyEvent event.source event.kind now).Ends t res) :
    t.Borrows (fun handle => c.handle = some handle ∨ event.visitor? = some handle)
      (res.2.handle = some ·) := by
  by_cases hhears : c.Hears event.source
  · rw [applyEvent_of_hears hhears] at h
    by_cases hover : event.kind.takesOver = true
    · cases hkind : event.kind with
      | error cause =>
        obtain ⟨hcalls, hnone⟩ := error_ends (hkind ▸ h)
        refine ⟨fun handle hheld => ?_, fun handle hfreed => ?_⟩
        · rw [hnone] at hheld
          cases hheld
        · exact absurd hfreed (Trace.not_frees_of_calls hcalls)
      | accepted result =>
        cases result with
        | error cause =>
          rw [hkind] at hover
          cases hover
        | ok visitor =>
          obtain ⟨calls, hmoves, hcalls, hheld⟩ := accepted_ends c.id (hkind ▸ h)
          refine ⟨fun handle hhandle => ?_, fun handle hfreed => ?_⟩
          · rw [hheld] at hhandle
            rw [← hhandle, TransportEvent.visitor?, hkind]
            exact Or.inl (Or.inr rfl)
          · rw [Trace.Frees, hcalls, List.filterMap_append, List.mem_append] at hfreed
            rcases hmoves.lent (Or.inr (hfreed.resolve_right List.not_mem_nil)) with hold | hopened
            · exact Or.inl (Or.inl hold)
            · refine Or.inr (Or.inl ?_)
              rw [hcalls, List.filterMap_append]
              exact List.mem_append_left _ hopened
      | dnsFound | connected | received | peerClosed | sent | poll =>
        rw [hkind] at hover
        cases hover
    · have hmoves : Moves c.id c.handle t.calls res.2.handle :=
        handleEvent_moves (Bool.not_eq_true _ ▸ hover) h
      exact hmoves.borrows.widen fun _ => Or.inl
  · obtain ⟨hcalls, rfl⟩ := applyEvent_ends_of_deaf hhears h
    exact (borrows_same hcalls rfl).widen fun _ => Or.inl

/-- One of some connections holds a socket. -/
def Held (cs : List Connection) (handle : Handle) : Prop := ∃ c ∈ cs, c.handle = some handle

theorem held_nil : ¬ Held [] handle := by
  rintro ⟨c, hc, -⟩
  cases hc

theorem held_cons {cs : List Connection} : Held (c :: cs) handle ↔
    c.handle = some handle ∨ Held cs handle := by
  simp [Held]

theorem held_append {cs ds : List Connection} : Held (cs ++ ds) handle ↔
    Held cs handle ∨ Held ds handle := by
  simp only [Held, List.mem_append, or_and_right, exists_or]

end Connection

/-! ## All connections -/

namespace Registry

variable {r r' : Registry} {c d : Connection} {id : ConnId} {now : Instant} {t : Trace Node}
  {P : Handle → Prop}

/-- One connection changes, and the others hold what they held. -/
theorem borrows_set (h : t.Borrows P (d.handle = some ·))
    (hheld : ∀ handle, Held r.connections handle → P handle) :
    t.Borrows P (Held (r.set d).connections) := by
  have hbeside := (h.beside (Held r.connections)).widen fun handle hbefore =>
    hbefore.elim (fun hold => hold) (hheld handle)
  refine hbeside.narrow fun handle => ?_
  rintro ⟨e, he, hhandle⟩
  rcases List.mem_or_eq_of_mem_set he with he | rfl
  · exact Or.inr ⟨e, he, hhandle⟩
  · exact Or.inl hhandle

theorem held_get? (hget : r.get? id = some c) {handle : Handle} (hheld : c.handle = some handle) :
    Held r.connections handle :=
  ⟨c, List.mem_of_getElem? hget, hheld⟩

/-- A connection that is there changes. -/
theorem borrows_change (hget : r.get? id = some c)
    (h : t.Borrows (c.handle = some ·) (d.handle = some ·)) :
    t.Borrows (Held r.connections) (Held (r.set d).connections) :=
  borrows_set (h.widen fun _ => held_get? hget) fun _ hheld => hheld

/-! ### Reports -/

theorem dispatch_borrows {event : TransportEvent} (h : (r.dispatch event now).Ends t r') :
    t.Borrows (fun handle => Held r.connections handle ∨ event.visitor? = some handle)
      (Held r'.connections) := by
  obtain ⟨-, ⟨-, rfl, hcalls⟩ | ⟨c, t₁, res, hget, happly, hcalls, hr⟩⟩ := dispatch_ends h
  · exact (Trace.borrows_rest hcalls).widen fun _ => Or.inl
  · rw [hr]
    have hone := (applyEvent_borrows happly).of_calls hcalls
      (happly.reports_eq_nil applyEvent_quiet.deaf)
    exact borrows_set (hone.widen fun _ => Or.imp_left (held_get? hget)) fun _ => Or.inl

/-- The visitors of the reports are let in. -/
theorem dispatchAll_borrows {events : List TransportEvent}
    (h : (r.dispatchAll events now).Ends t r') :
    t.Borrows
      (fun handle => Held r.connections handle ∨ handle ∈ events.filterMap TransportEvent.visitor?)
      (Held r'.connections) := by
  induction events generalizing r t with
  | nil =>
    obtain ⟨rfl, rfl⟩ := Prog.ends_pure.1 h
    exact (Trace.borrows_rest rfl).widen fun _ => Or.inl
  | cons event rest ih =>
    obtain ⟨t₁, r₁, t₂, h₁, h₂, rfl⟩ := Prog.ends_bind.1 h
    -- the visitors of the later reports are outside while the first report is applied
    have hfirst := (dispatch_borrows h₁).beside fun handle =>
      handle ∈ rest.filterMap TransportEvent.visitor?
    refine (hfirst.append (ih h₂)).widen fun handle hbefore => ?_
    simpa only [List.mem_filterMap, List.mem_cons, or_and_right, exists_or, exists_eq_left,
      or_assoc] using hbefore

theorem pump_borrows {res : Nat × Registry} (h : (r.pump now).Ends t res) :
    t.Borrows (Held r.connections) (Held res.2.connections) := by
  obtain ⟨t₁, events, t₂, h₁, h₂, rfl⟩ := Prog.ends_bind.1 h
  obtain ⟨r₁, hr₁, rfl⟩ := Prog.ends_bind_pure.1 h₂
  rw [Prog.ends_perform.1 h₁]
  refine Trace.Borrows.append ⟨fun handle hheld => ?_, fun handle hfreed => ?_⟩
    (dispatchAll_borrows hr₁)
  · refine hheld.imp_right fun hvisitor => Or.inr ?_
    simpa [Trace.reports, Effect.taken] using hvisitor
  · exact absurd hfreed (Trace.not_frees_of_calls rfl)

/-! ### Housekeeping -/

theorem eachConnection_borrows {f : Connection → Act Connection} {cs ds : List Connection}
    (hf : ∀ c t d, (f c).Ends t d → t.Borrows (c.handle = some ·) (d.handle = some ·))
    (h : (eachConnection f cs).Ends t ds) : t.Borrows (Held cs) (Held ds) := by
  induction cs generalizing t ds with
  | nil =>
    obtain ⟨rfl, rfl⟩ := Prog.ends_pure.1 h
    exact Trace.borrows_rest rfl
  | cons c rest ih =>
    obtain ⟨t₁, d, t₂, h₁, h₂, rfl⟩ := Prog.ends_bind.1 h
    obtain ⟨ds', hrest, rfl⟩ := Prog.ends_bind_pure.1 h₂
    have hfirst := (hf c t₁ d h₁).beside (Held rest)
    have hlater := ((ih hrest).beside (d.handle = some ·)).widen fun handle => Or.symm
    refine ((hfirst.append hlater).widen fun handle => held_cons.2).narrow fun handle hheld => ?_
    exact (held_cons.1 hheld).symm

theorem pollAll_borrows (h : (r.pollAll now).Ends t r') :
    t.Borrows (Held r.connections) (Held r'.connections) := by
  obtain ⟨ds, heach, rfl⟩ := Prog.ends_bind_pure.1 h
  refine eachConnection_borrows (fun c t d hd => ?_) heach
  obtain ⟨res, hcheck, rfl⟩ := Prog.ends_bind_pure.1 hd
  have hmoves : Moves c.id c.handle t.calls res.2.handle := checkTimeout_moves hcheck
  exact hmoves.borrows

theorem releaseAll_borrows (h : r.releaseAll.Ends t r') :
    t.Borrows (Held r.connections) (Held r'.connections) := by
  obtain ⟨ds, heach, rfl⟩ := Prog.ends_bind_pure.1 h
  refine eachConnection_borrows (fun c t d hd => ?_) heach
  split at hd
  next =>
    have hmoves : Moves c.id c.handle t.calls d.handle := abandon_moves hd
    exact hmoves.borrows
  next =>
    obtain ⟨rfl, rfl⟩ := Prog.ends_pure.1 hd
    exact borrows_same rfl rfl

/-! ### Waiting for a lookup -/

theorem giveUpDns_borrows {waitedMs : Nat} {res : ConnState × Registry}
    (h : (r.giveUpDns id waitedMs).Ends t res) :
    t.Borrows (Held r.connections) (Held res.2.connections) := by
  simp only [giveUpDns] at h
  split at h
  next =>
    obtain ⟨rfl, rfl⟩ := Prog.ends_pure.1 h
    exact Trace.borrows_rest rfl
  next c hget =>
    split at h
    next =>
      obtain ⟨rfl, rfl⟩ := Prog.ends_pure.1 h
      exact Trace.borrows_rest rfl
    next =>
      obtain ⟨t₁, _, t₂, h₁, h₂, rfl⟩ := Prog.ends_bind.1 h
      obtain ⟨d, hd, rfl⟩ := Prog.ends_bind_pure.1 h₂
      refine (Trace.borrows_rest (h₁.calls_eq_nil (by simp))).append ?_
      have hmoves : Moves c.id c.handle t₂.calls d.handle := abandon_moves hd
      exact borrows_change hget hmoves.borrows

theorem awaitSlices_borrows {start : Instant} {slices waitedMs : Nat} {res : ConnState × Registry}
    (h : (awaitSlices id start slices waitedMs r).Ends t res) :
    t.Borrows (Held r.connections) (Held res.2.connections) := by
  induction slices generalizing r waitedMs t with
  | zero => exact giveUpDns_borrows h
  | succ slices ih =>
    simp only [awaitSlices] at h
    split at h
    next =>
      obtain ⟨rfl, rfl⟩ := Prog.ends_pure.1 h
      exact Trace.borrows_rest rfl
    next =>
      obtain ⟨t₁, _, t₂, h₁, h₂, rfl⟩ := Prog.ends_bind.1 h
      obtain ⟨t₃, ⟨n, r₁⟩, t₄, h₃, h₄, rfl⟩ := Prog.ends_bind.1 h₂
      have hpause : t₁.Borrows (Held r.connections) (Held r.connections) :=
        Trace.borrows_rest (h₁.calls_eq_nil (by simp))
      exact hpause.append ((pump_borrows h₃).append (ih h₄))
    next =>
      obtain ⟨rfl, rfl⟩ := Prog.ends_pure.1 h
      exact Trace.borrows_rest rfl

/-! ### New connections -/

theorem getOrCreate_borrows {url : String} {res : Except RegistryError ConnId × Registry}
    (h : (r.getOrCreate url).Ends t res) :
    t.Borrows (Held r.connections) (Held res.2.connections) := by
  rcases getOrCreate_ends h with ⟨hr, hmoves⟩ | ⟨c, hadded, -, hmoves⟩
  · rw [hr]
    refine ((hmoves.borrows.beside (Held r.connections)).widen fun handle => ?_).narrow
      fun handle => Or.inr
    exact fun hbefore => hbefore.resolve_left nofun
  · rw [hadded.connections]
    refine ((hmoves.borrows.beside (Held r.connections)).widen fun handle => ?_).narrow
      fun handle hheld => ?_
    · exact fun hbefore => hbefore.resolve_left nofun
    · rw [held_append, held_cons] at hheld
      exact hheld.symm.imp_left fun hnew => hnew.resolve_right held_nil

/-- The server holds no socket, and the one that is listened on is not lent. -/
theorem startServer_borrows {port : Nat} {res : Except RegistryError ConnId × Registry}
    (h : (r.startServer port).Ends t res) :
    t.Borrows (Held r.connections) (Held res.2.connections) := by
  rcases startServer_ends h with ⟨hr, hcalls⟩ | ⟨c, listener, hadded, hnone, -, -, hcalls⟩
  · rw [hr]
    refine Trace.borrows_of_not_frees fun handle hfreed => ?_
    rcases hcalls with hcalls | ⟨id, cause, hcalls⟩
    · exact Trace.not_frees_of_calls hcalls hfreed
    · rw [Trace.Frees, hcalls] at hfreed
      cases hfreed
  · have hrest : t.Borrows (Held r.connections) (Held r.connections) := by
      refine Trace.borrows_of_not_frees fun handle hfreed => ?_
      rw [Trace.Frees, hcalls] at hfreed
      cases hfreed
    refine hrest.narrow fun handle hheld => ?_
    rw [hadded.connections, held_append, held_cons, hnone] at hheld
    exact hheld.resolve_right fun hnew => hnew.elim nofun held_nil

end Registry

end MeterNode
