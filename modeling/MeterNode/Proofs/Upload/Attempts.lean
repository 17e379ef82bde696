import MeterNode.Proofs.Connection.Timeouts
import MeterNode.Proofs.Upload.Failures
import MeterNode.Proofs.Upload.Outcomes
import MeterNode.Proofs.Upload.Postings

/-!
# How often a batch is tried

A batch is tried by connecting for it, and by writing it again after a write that met a full send
buffer.  An `Effort` counts both from the calls of the transport, and an uploader counts them in
`Batch.attempts`, up to `attemptsMax`.

The two counts differ.  A connection that met a full send buffer becomes ready again in two ways: by
the owner, who counts this as an attempt, and by the report that bytes were handed to the network.
In the second case the owner finds a connection that is ready, and writes without counting.  So an
effort also counts these reports.

A `Pursuit` follows an uploader through a run, together with the effort made for the batch that it
prepared last.  `Spent` says how the effort and the attempts of a batch are related while the batch
is out: every attempt that was counted was made, and what was done beyond that is covered by the
reports of a drained buffer (`Reached.attempts_bounded`).  Without such a report no batch is tried
more than `attemptsMax` times.  With them there is no limit (`repeats_unlimited`).
-/

namespace MeterNode

/-! ## Efforts -/

/-- What was done for a batch, as the transport sees it. -/
structure Effort where
  /-- The connects that were started. -/
  connects : Nat := 0
  /-- The writes that followed a write that met a full send buffer, without a connect between. -/
  repeats : Nat := 0
  /-- The last write met a full send buffer, and no connect was started since. -/
  full : Bool := false
  /-- The reports that a send buffer which was met full has drained. -/
  drains : Nat := 0
deriving DecidableEq

namespace Effort

/-- A connect is started. -/
def connect (e : Effort) : Effort := { e with connects := e.connects + 1, full := false }

/-- A write meets a send buffer that is full or not. -/
def write (e : Effort) (full : Bool) : Effort :=
  { e with repeats := e.repeats + e.full.toNat, full }

end Effort

/-- The answer to a write says that the send buffer is full. -/
def NetError.metFull : Except NetError Unit → Bool
  | .ok _ => false
  | .error e => e.isBackpressure

/-- The observer who counts connects and repeated writes.  A connect asks for a lookup, unless it
cannot have a socket. -/
def Observer.effort : Observer Effort
  | e, .net (.openSocket _), .error _ => e.connect
  | e, .net (.resolve ..), _ => e.connect
  | e, .net (.write ..), answer => e.write (NetError.metFull answer)
  | e, _, _ => e

/-- The operation neither starts a connect nor writes. -/
@[simp] def Effect.Effortless : Effect → Prop
  | .net (.openSocket _) | .net (.resolve ..) | .net (.write ..) => False
  | _ => True

theorem Effect.Effortless.misses {op : Effect} (h : op.Effortless) :
    Observer.effort.Misses op := by
  intro e answer
  cases op with
  | net call =>
    cases call with
    | openSocket | resolve | write => exact absurd h id
    | register | unregister | close | abort | connect | listen => rfl
  | log | count | counters | now | takeEvents | radio | cpu | meter | pause | utc => rfl

theorem Effect.Of.effortless {kinds : List Effect.Kind} {op : Effect} (h : op.Of kinds)
    (hdial : .dial ∉ kinds) (hsend : .send ∉ kinds) : op.Effortless := by
  cases op with
  | net call =>
    cases call with
    | openSocket secure | resolve host owner => exact absurd h hdial
    | write handle bytes => exact absurd h hsend
    | register | unregister | close | abort | connect | listen => trivial
  | log | count | counters | now | takeEvents | radio | cpu | meter | pause | utc => trivial

section Leaving

variable {α : Type} {p : Act α} {kinds : List Effect.Kind} {e : Effort}

/-- A program without connects and writes leaves the effort as it is. -/
theorem leaves_effortless (h : Prog.Asks Effect.Effortless p) :
    p.Leaves Observer.effort e fun a e' => p.Gives a ∧ e' = e :=
  (Act.leaves_misses (h.mono fun _ => Effect.Effortless.misses)).gives

theorem leaves_idle (h : Prog.Asks (Effect.Of kinds) p) (hdial : .dial ∉ kinds)
    (hsend : .send ∉ kinds) : p.Leaves Observer.effort e fun a e' => p.Gives a ∧ e' = e :=
  leaves_effortless (h.mono fun _ hop => hop.effortless hdial hsend)

end Leaving

/-! ## The effort of a connection -/

namespace Connection

variable {c : Connection} {endpoint : Endpoint} {handle : Handle} {now : Instant} {e : Effort}

theorem foundAddress_effortless {address : Option Address} :
    Prog.Asks Effect.Effortless (c.foundAddress address now) := by
  have hfail {c : Connection} {text reason : String} :
      Prog.Asks Effect.Effortless (c.fail text reason) :=
    (fail_kinds (List.Subset.refl _)).mono fun _ hop => hop.effortless (by decide) (by decide)
  have hset {c : Connection} {next : ConnState} {reason : String} :
      Prog.Asks Effect.Effortless (c.setState next reason) :=
    (setState_kinds (List.Subset.refl _)).mono fun _ hop => hop.effortless (by decide) (by decide)
  simp only [foundAddress]
  split
  next => exact hfail
  next =>
    split
    next =>
      simp only [Act.asks_bind, hset, Act.asks_net, Effect.Effortless, true_and]
      rintro _ - answer -
      cases answer <;> simp [hfail]
    next => exact hset

/-- No report makes a connection try again by itself. -/
theorem applyEvent_effortless {source : Option Handle} {kind : EventKind} :
    Prog.Asks Effect.Effortless (c.applyEvent source kind now) := by
  by_cases hhears : c.Hears source
  · rw [applyEvent_of_hears hhears]
    by_cases hfound : ∃ address, kind = .dnsFound address
    · obtain ⟨address, rfl⟩ := hfound
      simp only [handleEvent]
      split
      next => exact Act.asks_pure
      next => simp [foundAddress_effortless]
    · have hkinds : Prog.Asks (Effect.Of [.note, .socket]) (c.handleEvent kind now) :=
        handleEvent_kinds_of (List.Subset.refl _) fun address hkind =>
          absurd ⟨address, hkind⟩ hfound
      exact hkinds.mono fun _ hop => hop.effortless (by decide) (by decide)
  · obtain ⟨text, hdeaf⟩ := applyEvent_of_deaf hhears kind now
    simp [hdeaf]

theorem openHandle_effort :
    c.openHandle.Leaves Observer.effort e fun res e' =>
      e' = match res.1 with
        | .ok _ => e
        | .error _ => e.connect := by
  simp only [openHandle]
  split
  next => exact Act.leaves_pure.2 rfl
  next =>
    simp only [Act.leaves_bind, Act.leaves_net]
    intro answer
    cases answer with
    | error cause => exact Act.leaves_pure.2 rfl
    | ok handle =>
      simp only [Act.leaves_bind, Act.leaves_pure]
      refine (leaves_idle (attach_kinds (List.Subset.refl _)) (by decide) (by decide)).imp ?_
      rintro d _ ⟨-, rfl⟩
      rfl

theorem lookUp_effort :
    (c.lookUp endpoint now).Leaves Observer.effort e fun _ e' => e' = e.connect := by
  simp only [lookUp, Act.leaves_bind, Act.leaves_net]
  intro answer
  cases answer with
  | error cause =>
    refine (leaves_idle (fail_kinds (List.Subset.refl _)) (by decide) (by decide)).imp ?_
    exact fun _ _ h => h.2
  | ok found =>
    cases found with
    | resolved address => exact (leaves_effortless foundAddress_effortless).imp fun _ _ h => h.2
    | pending =>
      simp only [Act.leaves_bind, Act.leaves_pure]
      exact Act.leaves_log.2 rfl

/-- A connect is started once. -/
theorem connect_effort (hs : c.state = .init) (he : c.endpoint.isSome) :
    (c.connect now).Leaves Observer.effort e fun d e' =>
      (c.connect now).Gives d ∧ e' = e.connect := by
  refine Act.Leaves.gives ?_
  obtain ⟨endpoint, he⟩ := Option.isSome_iff_exists.1 he
  simp only [connect, hs, he, ne_eq, not_true_eq_false, if_false, Act.leaves_bind]
  refine (leaves_idle (dropUsedHandle_kinds (List.Subset.refl _)) (by decide) (by decide)).imp ?_
  rintro c₁ _ ⟨-, rfl⟩
  refine openHandle_effort.imp ?_
  rintro ⟨result, c₂⟩ _ rfl
  cases result with
  | error cause =>
    have hrest : Prog.Asks (Effect.Of [.note]) (do
        c₂.log .error ("handle alloc failed " ++ cause.shown)
        Act.count .connFailure
        c₂.setState .error "handle_alloc") := by
      simp [setState_kinds, Tally.isFailure]
    exact (leaves_idle hrest (by decide) (by decide)).imp fun _ _ h => h.2
  | ok handle =>
    simp only [Act.leaves_bind, Act.leaves_count]
    refine Act.leaves_log.2 ?_
    refine (leaves_idle (setState_kinds (List.Subset.refl _)) (by decide) (by decide)).imp ?_
    rintro c₃ _ ⟨-, rfl⟩
    exact lookUp_effort

/-- A post on a connection that is ready writes once, and leaves it to be retried if the send buffer
was full. -/
theorem post_effort {resource payload : String} (hs : c.state = .ready) (hh : c.handle.isSome)
    (he : c.endpoint.isSome) :
    (c.post resource payload now).Leaves Observer.effort e fun d e' =>
      (c.post resource payload now).Gives d ∧
        ∃ full, e' = e.write full ∧ (d.state = .retry → full = true) ∧
          (d.state = .init ∨ d.state = .sending ∨ d.state = .retry) := by
  refine Act.Leaves.gives ?_
  obtain ⟨endpoint, he⟩ := Option.isSome_iff_exists.1 he
  obtain ⟨handle, hh⟩ := Option.isSome_iff_exists.1 hh
  simp only [post, hs, he, hh, ne_eq, not_true_eq_false, if_false, Act.leaves_bind]
  refine Act.leaves_log.2 ?_
  rw [Act.leaves_net]
  intro answer
  have hset {c : Connection} {next : ConnState} {reason : String} :
      Prog.Asks (Effect.Of [.note]) (c.setState next reason) := setState_kinds (List.Subset.refl _)
  cases answer with
  | ok u =>
    simp only [Act.leaves_bind, Act.leaves_pure]
    refine (leaves_idle hset (by decide) (by decide)).imp ?_
    rintro d _ ⟨hd, rfl⟩
    rw [setState_gives hd]
    exact ⟨false, rfl, by simp, by simp⟩
  | error cause =>
    simp only
    split
    next hfull =>
      simp only [Act.leaves_bind, Act.leaves_count]
      refine Act.leaves_log.2 ?_
      refine (leaves_idle hset (by decide) (by decide)).imp ?_
      rintro d _ ⟨hd, rfl⟩
      rw [setState_gives hd]
      exact ⟨cause.isBackpressure, rfl, fun _ => hfull, by simp⟩
    next =>
      refine (leaves_idle (fail_kinds (List.Subset.refl _)) (by decide) (by decide)).imp ?_
      rintro d _ ⟨hd, rfl⟩
      rw [fail_gives hd]
      exact ⟨cause.isBackpressure, rfl, by simp, by simp⟩

/-- A post may meet a full send buffer. -/
theorem post_deferred {resource payload : String} (hs : c.state = .ready) (hh : c.handle.isSome)
    (he : c.endpoint.isSome) :
    (c.post resource payload now).Gives { c with response := none, state := .retry } := by
  obtain ⟨endpoint, he⟩ := Option.isSome_iff_exists.1 he
  obtain ⟨handle, hh⟩ := Option.isSome_iff_exists.1 hh
  simp only [post, hs, he, hh, ne_eq, not_true_eq_false, if_false, Act.gives_bind]
  refine ⟨(), gives_log, .error .mem, Act.gives_net, ?_⟩
  simp [NetError.isBackpressure, setState]

/-- The report that a send buffer has drained which the connection met full, as a number. -/
def drained (c : Connection) (source : Option Handle) : EventKind → Nat
  | .sent _ => if c.Hears source ∧ c.state = .retry then 1 else 0
  | _ => 0

/-- A write that a drained send buffer has made possible, which will not be counted. -/
def due (c : Connection) (e : Effort) : Nat := if c.state = .ready then e.full.toNat else 0

theorem due_eq_zero (hs : c.state ≠ .ready) : c.due e = 0 := if_neg hs

theorem due_of_empty (hfull : e.full = false) : c.due e = 0 := by simp [due, hfull]

end Connection

/-! ## The effort of a batch -/

/-- The effort made for a batch that is out, and its attempts.  Every attempt was made.  What was
done beyond the attempts is covered by reports of a drained buffer, of which one is left over while
a write is due. -/
structure Spent (b : Batch) (c : Connection) (e : Effort) : Prop where
  bound : b.attempts ≤ attemptsMax
  made : b.attempts ≤ e.connects + e.repeats
  covered : e.connects + e.repeats + c.due e ≤ b.attempts + e.drains
  /-- Only a full send buffer makes the connection retry. -/
  full : c.state = .retry → e.full = true
  /-- While an exchange is begun, nothing was written. -/
  unwritten : c.state = .dns ∨ c.state = .connecting → e.full = false

theorem Spent.limit {b : Batch} {c : Connection} {e : Effort} (h : Spent b c e) :
    e.connects + e.repeats ≤ attemptsMax + e.drains := by
  have hbound := h.bound
  have hcovered := h.covered
  omega

/-- A batch that was just framed. -/
theorem Spent.framed {b : Batch} {c : Connection} (hb : b.attempts = 0) (hs : c.state ≠ .retry) :
    Spent b c {} where
  bound := by simp [hb]
  made := by simp [hb]
  covered := by simp [Connection.due_of_empty]
  full hretry := absurd hretry hs
  unwritten _ := rfl

/-- The effort made for the batch that is out, or for the last one if none is. -/
structure Balanced (u : Uploader) (c : Connection) (e : Effort) : Prop where
  out : ∀ b, u.batch = some b → Spent b c e
  ended : u.batch = none → c.state ≠ .retry ∧ e.connects + e.repeats ≤ attemptsMax + e.drains

namespace Balanced

variable {u : Uploader} {b : Batch} {c d : Connection} {e : Effort}

theorem of_out (hb : u.batch = some b) (h : Spent b c e) : Balanced u c e where
  out b' hb' := by
    cases hb.symm.trans hb'
    exact h
  ended hnone := by
    rw [hb] at hnone
    cases hnone

theorem of_ended (hb : u.batch = none) (hs : c.state ≠ .retry)
    (hlimit : e.connects + e.repeats ≤ attemptsMax + e.drains) : Balanced u c e where
  out b' hb' := by
    rw [hb] at hb'
    cases hb'
  ended _ := ⟨hs, hlimit⟩

theorem limit (h : Balanced u c e) : e.connects + e.repeats ≤ attemptsMax + e.drains := by
  cases hb : u.batch with
  | none => exact (h.ended hb).2
  | some b => exact (h.out b hb).limit

/-- The connection starts over. -/
theorem init (h : Balanced u c e) (hs : d.state = .init) : Balanced u d e where
  out b hb := by
    obtain ⟨hbound, hmade, hcovered, -, -⟩ := h.out b hb
    refine ⟨hbound, hmade, ?_, by simp [hs], by simp [hs]⟩
    rw [Connection.due_eq_zero (by simp [hs])]
    omega
  ended hb := ⟨by simp [hs], (h.ended hb).2⟩

end Balanced

namespace Uploader

variable {u : Uploader} {b : Batch} {c conn : Connection} {channels : List MeterChannel}
  {now : Instant} {e : Effort} {r : Serviced}

theorem giveUp_balanced {cause : UploadError} (hs : c.state ≠ .retry)
    (hlimit : e.connects + e.repeats ≤ attemptsMax + e.drains) :
    (u.giveUp cause c channels).Leaves Observer.effort e fun r e' =>
      Balanced r.uploader r.conn e' := by
  rw [giveUp, Act.leaves_bind, Act.leaves_count]
  exact Act.leaves_pure.2 (.of_ended rfl hs hlimit)

theorem connectFor_balanced (hs : c.state = .init) (he : c.endpoint.isSome) (h : Spent b c e) :
    (u.connectFor b c channels now).Leaves Observer.effort e fun r e' =>
      Balanced r.uploader r.conn e' := by
  simp only [connectFor]
  split
  next =>
    simp only [Act.leaves_bind]
    exact Act.leaves_log.2 (giveUp_balanced (by simp [hs]) h.limit)
  next hattempts =>
    simp only [Act.leaves_bind, Act.leaves_pure]
    refine (Connection.connect_effort hs he).imp ?_
    rintro d _ ⟨hd, rfl⟩
    have hstate : d.state ≠ .ready ∧ d.state ≠ .retry := by
      rcases Connection.connect_gives hd with rfl | ⟨-, hdialled⟩
      · simp [hs]
      · rcases hdialled.outcome with hs | hs | ⟨hs | hs, -⟩ <;> simp [hs]
    have hmade := h.made
    have hcovered := h.covered
    refine Balanced.of_out (b := { b with attempts := b.attempts + 1 }) rfl ?_
    exact {
      bound := Nat.lt_of_not_le hattempts
      made := by
        simp only [Effort.connect]
        omega
      covered := by
        rw [Connection.due_eq_zero hstate.1]
        simp only [Effort.connect]
        omega
      full := fun hretry => absurd hretry hstate.2
      unwritten := fun _ => rfl }

/-- A batch that is written on a connection that is ready stays out. -/
theorem write_effort (hs : c.state = .ready) (hh : c.handle.isSome) (he : c.endpoint.isSome) :
    (u.write b c channels now).Leaves Observer.effort e fun r e' =>
      r.uploader.batch = some b ∧ ∃ full, e' = e.write full ∧
        (r.conn.state = .retry → full = true) ∧
        (r.conn.state = .init ∨ r.conn.state = .sending ∨ r.conn.state = .retry) := by
  rw [write, Act.leaves_bind]
  refine (Connection.post_effort hs hh he).imp ?_
  rintro d _ ⟨hd, full, rfl, hfull, hstate⟩
  rw [if_neg ((Connection.post_gives hd).2 hs)]
  exact Act.leaves_pure.2 ⟨rfl, full, rfl, hfull, hstate⟩

theorem write_balanced (hs : c.state = .ready) (hh : c.handle.isSome) (he : c.endpoint.isSome)
    (hbound : b.attempts ≤ attemptsMax)
    (hmade : b.attempts ≤ e.connects + e.repeats + e.full.toNat)
    (hcovered : e.connects + e.repeats + e.full.toNat ≤ b.attempts + e.drains) :
    (u.write b c channels now).Leaves Observer.effort e fun r e' =>
      Balanced r.uploader r.conn e' := by
  refine (write_effort hs hh he).imp ?_
  rintro r _ ⟨hb, full, rfl, hfull, hstate⟩
  have hready : r.conn.state ≠ .ready := by rcases hstate with hs | hs | hs <;> simp [hs]
  refine .of_out hb {
    bound := hbound
    made := ?_
    covered := ?_
    full := hfull
    unwritten := by rcases hstate with hs | hs | hs <;> simp [hs] }
  · simp only [Effort.write]
    omega
  · rw [Connection.due_eq_zero hready]
    simp only [Effort.write]
    omega

theorem writeAgain_balanced (hs : c.state = .retry) (hh : c.handle.isSome) (he : c.endpoint.isSome)
    (h : Spent b c e) : (u.writeAgain b c channels now).Leaves Observer.effort e fun r e' =>
      Balanced r.uploader r.conn e' := by
  simp only [writeAgain]
  split
  next =>
    rw [Act.leaves_bind]
    refine (leaves_idle (Connection.abandon_kinds (List.Subset.refl _)) (by decide)
      (by decide)).imp ?_
    rintro d _ ⟨hd, rfl⟩
    exact giveUp_balanced (by simp [Connection.abandon_gives hd]) h.limit
  next hattempts =>
    rw [Act.leaves_bind]
    refine (leaves_idle (Connection.resume_kinds (List.Subset.refl _)) (by decide)
      (by decide)).imp ?_
    rintro ⟨resumed, d⟩ _ ⟨hd, rfl⟩
    have hready := Connection.resume_gives hd
    rw [if_pos hs] at hready
    obtain rfl : d = { c with state := .ready } := hready
    have hmade := h.made
    have hcovered := h.covered
    refine write_balanced rfl hh he (Nat.lt_of_not_le hattempts) ?_ ?_
    · rw [h.full hs, Bool.toNat_true]
      exact Nat.succ_le_succ hmade
    · rw [h.full hs, Bool.toNat_true]
      simp only
      omega

theorem proceed_balanced (hs : Free c) (hwired : c.Wired) (he : c.endpoint.isSome)
    (h : Spent b c e) : (u.proceed b c channels now).Leaves Observer.effort e fun r e' =>
      Balanced r.uploader r.conn e' := by
  have hheld (hinit : c.state ≠ .init) (herror : c.state ≠ .error) := hwired.held hinit herror
  rcases hs with hs | hs | hs
  all_goals simp only [proceed, hs]
  · exact connectFor_balanced hs he h
  · have hmade := h.made
    have hcovered := h.covered
    rw [Connection.due, if_pos hs] at hcovered
    refine write_balanced hs (hheld (by simp [hs]) (by simp [hs])) he h.bound ?_ hcovered
    omega
  · exact writeAgain_balanced hs (hheld (by simp [hs]) (by simp [hs])) he h

/-- The effort with which a step begins: none, if it prepares a batch. -/
def outset (u : Uploader) (conn : Connection) (channels : List MeterChannel) (now : Instant)
    (e : Effort) : Effort :=
  if (u.prepared conn channels now).isSome then {} else e

theorem advance_balanced (hs : Free c) (hwired : c.Wired) (he : c.endpoint.isSome)
    (h : Balanced u c e) :
    (u.advance c channels now).Leaves Observer.effort (u.outset c channels now e) fun r e' =>
      Balanced r.uploader r.conn e' := by
  cases hb : u.batch with
  | some b =>
    have hkept : u.outset c channels now e = e := by simp [outset, prepared, hb]
    rw [hkept]
    simp only [advance, hb]
    exact proceed_balanced hs hwired he (h.out b hb)
  | none =>
    have hfound : u.prepared c channels now = (u.framed now 0 channels).1 := by
      rcases hs with hs | hs | hs <;> simp [prepared, hb, hs]
    rw [outset, hfound]
    simp only [advance, hb, Act.leaves_bind]
    refine (leaves_idle (frame_kinds (List.Subset.refl _)) (by decide) (by decide)).imp ?_
    rintro ⟨found, rest⟩ _ ⟨hframe, rfl⟩
    have hframed := frame_gives hframe
    cases found with
    | none =>
      rw [← hframed]
      exact Act.leaves_pure.2 h
    | some b =>
      have hattempts : b.attempts = 0 := framed_attempts (congrArg Prod.fst hframed.symm)
      rw [← hframed]
      exact proceed_balanced hs hwired he (.framed hattempts (h.ended hb).1)

theorem complete_balanced (hs : conn.state = .replied) (h : Balanced u conn e) :
    (u.complete conn channels now).Leaves Observer.effort e fun r e' =>
      Balanced r.uploader r.conn e' := by
  rw [complete, Act.leaves_bind]
  refine (leaves_idle (Connection.finishReply_kinds (List.Subset.refl _)) (by decide)
    (by decide)).imp ?_
  rintro ⟨reply, d⟩ _ ⟨hreply, rfl⟩
  have htaken := Connection.finishReply_gives hreply
  rw [if_pos hs] at htaken
  have hinit : d.state = .init := congrArg Connection.state htaken.2
  have hended : d.state ≠ .retry := by simp [hinit]
  cases hb : u.batch with
  | none =>
    simp only [Act.leaves_bind, Act.leaves_log]
    exact Act.leaves_pure.2 (.of_ended hb hended h.limit)
  | some b =>
    simp only [evaluate]
    split
    all_goals
      simp only [Act.leaves_bind, Act.leaves_log, Act.leaves_count]
      exact Act.leaves_pure.2 (.of_ended rfl hended h.limit)

/-- Every step keeps the balance. -/
theorem service_balanced (hwired : conn.Wired) (he : conn.endpoint.isSome)
    (h : Balanced u conn e) :
    (u.service conn channels now).Leaves Observer.effort (u.outset conn channels now e) fun r e' =>
      Balanced r.uploader r.conn e' := by
  cases hs : conn.state with
  | init | ready | retry =>
    simp only [service, hs]
    exact advance_balanced (by simp [Free, hs]) hwired he h
  | error =>
    simp only [service, hs, Act.leaves_bind]
    refine (leaves_idle (Connection.abandon_kinds (List.Subset.refl _)) (by decide)
      (by decide)).imp ?_
    rintro d _ ⟨hd, rfl⟩
    have hact : ((Connection.Operation.abandon "upload_recover").act conn now).Gives d := hd
    have hinit : d.state = .init := by rw [Connection.abandon_gives hd]
    have houtset : u.outset conn channels now e = u.outset d channels now e := by
      cases hb : u.batch <;> simp [outset, prepared, hs, hinit, hb]
    rw [houtset]
    refine advance_balanced (Or.inl hinit) (Connection.wired_init hinit) ?_ (h.init hinit)
    rwa [(Connection.act_alike hact).endpoint]
  | server | dns | connecting | sending | replied =>
    have hkept : u.outset conn channels now e = e := by
      cases hb : u.batch <;> simp [outset, prepared, hs, hb]
    rw [hkept]
    simp only [service, hs]
    first
      | exact Act.leaves_pure.2 h
      | exact complete_balanced hs h

end Uploader

/-! ## Reports -/

namespace Connection

/-- No report makes a connection retry or begin an exchange, and one that is ready behind it was so
before, had just been connected, or had its send buffer drained. -/
theorem after_origins (c : Connection) (kind : EventKind) (now : Instant) (started : Bool) :
    ((c.after kind now started).state = .retry → c.state = .retry) ∧
      ((c.after kind now started).state = .dns ∨ (c.after kind now started).state = .connecting →
        c.state = .dns ∨ c.state = .connecting) ∧
      ((c.after kind now started).state = .ready →
        c.state = .ready ∨ c.state = .connecting ∨
          c.state = .retry ∧ ∃ length, kind = .sent length) := by
  have hsame {d : Connection} (hd : d = c) :
      (d.state = .retry → c.state = .retry) ∧
        (d.state = .dns ∨ d.state = .connecting → c.state = .dns ∨ c.state = .connecting) ∧
        (d.state = .ready → c.state = .ready ∨ c.state = .connecting ∨
          c.state = .retry ∧ ∃ length, kind = .sent length) := by
    rw [hd]
    exact ⟨fun h => h, fun h => h, Or.inl⟩
  cases kind with
  | dnsFound address =>
    simp only [after, afterLookup]
    split
    next hs =>
      split
      next => cases started <;> simp [hs]
      next => simp
    next => exact hsame rfl
  | connected result =>
    cases result with
    | ok u =>
      simp only [after]
      split
      next hs => simp [hs]
      next => exact hsame rfl
    | error e => simp [after]
  | received chunk =>
    simp only [after]
    split
    next => exact hsame rfl
    next =>
      split
      case h_5 => exact hsame rfl
      all_goals simp
  | sent length =>
    simp only [after]
    split
    next => simp
    next hs => simp [hs]
    next => exact hsame rfl
  | poll =>
    simp only [after]
    split
    next => simp
    next => exact hsame rfl
  | peerClosed | error e => simp [after]
  | accepted result => cases result <;> simp [after]

end Connection

/-- A report that drains the send buffer makes a write possible that will not be counted, and is
counted itself. -/
theorem Spent.event {b : Batch} {c : Connection} {e : Effort} {source : Option Handle}
    {kind : EventKind} {now : Instant} {res : EventOutcome × Connection} (h : Spent b c e)
    (hgives : (c.applyEvent source kind now).Gives res) :
    Spent b res.2 { e with drains := e.drains + c.drained source kind } := by
  have hmade := h.made
  have hcovered := h.covered
  rcases Connection.applyEvent_gives hgives with ⟨hhears, ⟨started, hafter⟩, -⟩ | ⟨-, hsame, -⟩
  · obtain ⟨hretry, hbegun, hready⟩ := c.after_origins kind now started
    rw [← hafter] at hretry hbegun hready
    refine ⟨h.bound, hmade, ?_, fun hs => h.full (hretry hs), fun hs => h.unwritten (hbegun hs)⟩
    have hdue : res.2.due e ≤ c.due e + c.drained source kind := by
      by_cases hs : res.2.state = .ready
      · rcases hready hs with hbefore | hconnecting | ⟨hbefore, length, rfl⟩
        · simp [Connection.due, hs, hbefore]
        · rw [Connection.due_of_empty (h.unwritten (Or.inr hconnecting))]
          exact Nat.zero_le _
        · rw [Connection.drained, if_pos ⟨hhears, hbefore⟩, Connection.due, if_pos hs]
          exact Nat.le_trans (Bool.toNat_le _) (Nat.le_add_left 1 _)
      · rw [Connection.due_eq_zero hs]
        exact Nat.zero_le _
    calc e.connects + e.repeats + res.2.due e
        ≤ e.connects + e.repeats + c.due e + c.drained source kind := by omega
      _ ≤ b.attempts + (e.drains + c.drained source kind) := by omega
  · rw [hsame]
    refine ⟨h.bound, hmade, ?_, h.full, h.unwritten⟩
    exact Nat.le_trans hcovered (Nat.add_le_add_left (Nat.le_add_right _ _) _)

theorem Balanced.event {u : Uploader} {c : Connection} {e : Effort} {source : Option Handle}
    {kind : EventKind} {now : Instant} {res : EventOutcome × Connection} (h : Balanced u c e)
    (hgives : (c.applyEvent source kind now).Gives res) :
    Balanced u res.2 { e with drains := e.drains + c.drained source kind } := by
  refine ⟨fun b hb => (h.out b hb).event hgives, fun hb => ⟨fun hs => ?_, ?_⟩⟩
  · have hbefore : c.state = .retry := by
      rcases Connection.applyEvent_gives hgives with ⟨-, ⟨started, hafter⟩, -⟩ | ⟨-, hsame, -⟩
      · rw [hafter] at hs
        exact (c.after_origins kind now started).1 hs
      · rwa [hsame] at hs
    exact (h.ended hb).1 hbefore
  · have hlimit := (h.ended hb).2
    simp only
    omega

/-! ## Pursuits -/

/-- An uploader at work, and the effort made for the batch that it prepared last. -/
structure Pursuit where
  uploader : Uploader
  conn : Connection
  channels : List MeterChannel
  effort : Effort := {}

namespace Pursuit

open Uploader

variable {x x' : Pursuit} {now : Instant} {t : Trace Node} {r : Serviced}

/-- The pursuit after a report. -/
def heard (x : Pursuit) (source : Option Handle) (kind : EventKind) (t : Trace Node)
    (c : Connection) : Pursuit :=
  let effort := Observer.effort.behind x.effort t
  { x with
    conn := c
    effort := { effort with drains := effort.drains + x.conn.drained source kind } }

/-- The pursuit after a step of the uploader. -/
def serviced (x : Pursuit) (now : Instant) (t : Trace Node) (r : Serviced) : Pursuit where
  uploader := r.uploader
  conn := r.conn
  channels := r.channels
  effort := Observer.effort.behind (x.uploader.outset x.conn x.channels now x.effort) t

/-- A push to some channel, a report of the transport, or a step of the uploader. -/
inductive Step : Pursuit → Pursuit → Prop where
  | push {x : Pursuit} (i : Nat) (s : Sample) :
      Step x { x with channels := x.channels.modify i (·.push s) }
  | event {x : Pursuit} (source : Option Handle) (kind : EventKind) (now : Instant)
      {t : Trace Node} {res : EventOutcome × Connection} :
      (x.conn.applyEvent source kind now).Ends t res → Step x (x.heard source kind t res.2)
  | service {x : Pursuit} (now : Instant) {t : Trace Node} {r : Serviced} :
      (x.uploader.service x.conn x.channels now).Ends t r → Step x (x.serviced now t r)

/-- Nothing has happened yet, and the connection is one to a collector. -/
structure Fresh (x : Pursuit) : Prop where
  batch : x.uploader.batch = none
  state : x.conn.state = .init
  client : x.conn.endpoint.isSome
  effort : x.effort = {}

/-- The pursuits of all runs. -/
inductive Reached : Pursuit → Prop where
  | start {x : Pursuit} : x.Fresh → Reached x
  | step {x x' : Pursuit} : Reached x → Step x x' → Reached x'

/-- What all runs have in common. -/
structure Sound (x : Pursuit) : Prop where
  wired : x.conn.Wired
  client : x.conn.endpoint.isSome
  balanced : Balanced x.uploader x.conn x.effort

theorem Fresh.sound (h : x.Fresh) : x.Sound where
  wired := Connection.wired_init h.state
  client := h.client
  balanced := .of_ended h.batch (by simp [h.state]) (by simp [h.effort])

theorem Sound.event {source : Option Handle} {kind : EventKind} {res : EventOutcome × Connection}
    (h : x.Sound) (hends : (x.conn.applyEvent source kind now).Ends t res) :
    Sound (x.heard source kind t res.2) := by
  have hact : ((Connection.Operation.event source kind).act x.conn now).Ends t res.2 :=
    Prog.ends_bind_pure.2 ⟨res, hends, rfl⟩
  have heffort : Observer.effort.behind x.effort t = x.effort :=
    (leaves_effortless Connection.applyEvent_effortless t res hends).2
  have halike := Connection.act_alike hact.gives
  refine ⟨(Connection.act_change h.wired hact.gives).wired h.wired, ?_, ?_⟩
  · rw [heard, halike.endpoint]
    exact h.client
  · simp only [heard, heffort]
    exact h.balanced.event hends.gives

theorem Sound.service (h : x.Sound) (hends : (x.uploader.service x.conn x.channels now).Ends t r) :
    Sound (x.serviced now t r) := by
  have hops := service_operated hends
  refine ⟨hops.wired h.wired, ?_, service_balanced h.wired h.client h.balanced t r hends⟩
  rw [serviced, hops.alike.endpoint]
  exact h.client

theorem Step.sound (hstep : Step x x') (h : x.Sound) : x'.Sound := by
  cases hstep with
  | push i s => exact ⟨h.wired, h.client, h.balanced⟩
  | event source kind now hends => exact h.event hends
  | service now hends => exact h.service hends

theorem Reached.sound (h : Reached x) : x.Sound := by
  induction h with
  | start hfresh => exact hfresh.sound
  | step _ hstep ih => exact hstep.sound ih

/-- The connects and repeated writes of a batch exceed `attemptsMax` at most by the reports that a
send buffer has drained which the connection met full.  While the batch is out they are at least the
attempts that were counted, and exceed these at most by such reports. -/
theorem Reached.attempts_bounded (h : Reached x) :
    x.effort.connects + x.effort.repeats ≤ attemptsMax + x.effort.drains ∧
      ∀ b, x.uploader.batch = some b → b.attempts ≤ attemptsMax ∧
        b.attempts ≤ x.effort.connects + x.effort.repeats ∧
        x.effort.connects + x.effort.repeats ≤ b.attempts + x.effort.drains := by
  have hbalanced := h.sound.balanced
  refine ⟨hbalanced.limit, fun b hb => ?_⟩
  have hspent := hbalanced.out b hb
  exact ⟨hspent.bound, hspent.made, Nat.le_trans (Nat.le_add_right _ _) hspent.covered⟩

/-! ## Runs on the bench -/

/-- Let it happen, with the answers of a bench. -/
def happen : Pursuit × Bench.World → Account.Happening → Pursuit × Bench.World
  | (x, w), .push i s => ({ x with channels := x.channels.modify i (·.push s) }, w)
  | (x, w), .event source kind now =>
      let p := x.conn.applyEvent source kind now
      let (res, w') := w.run p
      (x.heard source kind (p.transcript (fun op w => w.answer op) w) res.2, w')
  | (x, w), .service now =>
      let p := x.uploader.service x.conn x.channels now
      let (r, w') := w.run p
      (x.serviced now (p.transcript (fun op w => w.answer op) w) r, w')

/-- The pursuit after some happenings, on a bench whose send buffers are full for some writes. -/
def play (x : Pursuit) (fullFor : Nat) (happenings : List Account.Happening) : Pursuit :=
  let transport : Bench.Transport := { writeResults := List.replicate fullFor (some .mem) }
  (happenings.foldl happen (x, { transport })).1

theorem happen_reached {xw : Pursuit × Bench.World} (h : Reached xw.1) (e : Account.Happening) :
    Reached (happen xw e).1 := by
  obtain ⟨x, w⟩ := xw
  cases e with
  | push i s => exact h.step (.push i s)
  | event source kind now => exact h.step (.event source kind now (Prog.run_ends _ _ w))
  | service now => exact h.step (.service now (Prog.run_ends _ _ w))

theorem play_reached (h : Reached x) (fullFor : Nat) (es : List Account.Happening) :
    Reached (x.play fullFor es) := by
  have hfold : ∀ xw : Pursuit × Bench.World, Reached xw.1 → Reached (es.foldl happen xw).1 := by
    induction es with
    | nil => exact fun xw h => h
    | cons e es ih => exact fun xw h => ih _ (happen_reached h e)
  exact hfold (x, _) h

/-- One empty channel, whose samples go to a collector. -/
def single : Pursuit where
  uploader := Account.single.uploader
  conn := Account.single.conn
  channels := Account.single.channels

theorem single_reached : Reached single := .start ⟨rfl, rfl, rfl, rfl⟩

/-- A sample is pushed, and its batch is connected for and written. -/
def written : List Account.Happening := Account.pushes 0 1 ++ Account.written

/-- The batch met a full send buffer three times, and each time the uploader has tried again. -/
def retried : Pursuit := single.play 3 (written ++ [.service 0, .service 0])

/-- All attempts are made, and the batch is given up in the next step. -/
theorem attempts_bounded_of_retried :
    retried.effort = { connects := 1, repeats := 2, full := true } ∧
      retried.effort.connects + retried.effort.repeats ≤ attemptsMax + retried.effort.drains ∧
      ∃ b, retried.uploader.batch = some b ∧ b.attempts = attemptsMax ∧
        retried.effort.connects + retried.effort.repeats ≤ b.attempts + retried.effort.drains := by
  have hreached : Reached retried := play_reached single_reached 3 _
  have hout : retried.uploader.batch.map Batch.attempts = some attemptsMax := by decide +kernel
  obtain ⟨hlimit, hcounted⟩ := hreached.attempts_bounded
  obtain ⟨b, hb, hattempts⟩ := Option.map_eq_some_iff.1 hout
  exact ⟨by decide +kernel, hlimit, b, hb, hattempts, (hcounted b hb).2.2⟩

/-- The network takes what the send buffer holds, which is then full again. -/
def drained : List Account.Happening := [.event (some ⟨1⟩) (.sent 0) 0, .service 0]

/-- The batch met a full send buffer four times, which drained after the first three. -/
def pressed : Pursuit := single.play 4 (written ++ drained ++ drained ++ drained)

/-- After one connect and three repeated writes, one attempt is counted and the batch is still
out. -/
theorem tried_beyond_limit :
    Reached pressed ∧ attemptsMax < pressed.effort.connects + pressed.effort.repeats ∧
      pressed.effort = { connects := 1, repeats := 3, full := true, drains := 3 } ∧
      pressed.uploader.batch.map Batch.attempts = some 1 := by
  have hreached : Reached pressed := play_reached single_reached 4 _
  exact ⟨hreached, by decide +kernel, by decide +kernel, by decide +kernel⟩

/-! ## No limit -/

/-- A batch is out that met a full send buffer and was written again `n` times. -/
structure Holds (x : Pursuit) (b : Batch) (s : ConnState) (n : Nat) : Prop where
  reached : Reached x
  out : x.uploader.batch = some b
  state : x.conn.state = s
  full : x.effort.full = true
  repeats : x.effort.repeats = n

/-- The send buffer may drain. -/
theorem Holds.drain {b : Batch} {n : Nat} (h : x.Holds b .retry n) : ∃ x', Holds x' b .ready n := by
  obtain ⟨t, hends⟩ : (x.conn.applyEvent none (.sent 0) 0).Gives
      (.handled, { x.conn with state := .ready }) := by
    simp [Connection.applyEvent, Connection.handleEvent, Connection.noteSent, Connection.setState,
      h.state]
  have heffort : Observer.effort.behind x.effort t = x.effort :=
    (leaves_effortless Connection.applyEvent_effortless t _ hends).2
  refine ⟨_, h.reached.step (.event none (.sent 0) 0 hends), h.out, rfl, ?_, ?_⟩
  · simpa only [heard, heffort] using h.full
  · simpa only [heard, heffort] using h.repeats

/-- The next write may meet the send buffer full again, and no attempt is counted for it. -/
theorem Holds.refill {b : Batch} {n : Nat} (h : x.Holds b .ready n) :
    ∃ x', Holds x' b .retry (n + 1) := by
  have hsound := h.reached.sound
  have hheld := hsound.wired.held (by simp [h.state]) (by simp [h.state])
  have hpost : (x.conn.post b.resource b.payload 0).Gives
      { x.conn with response := none, state := .retry } :=
    Connection.post_deferred h.state hheld hsound.client
  obtain ⟨t, hends⟩ : (x.uploader.write b x.conn x.channels 0).Gives
      ⟨.inFlight, { x.uploader with batch := some b },
        { x.conn with response := none, state := .retry }, x.channels⟩ :=
    Act.gives_bind.2 ⟨_, hpost, by simp⟩
  obtain ⟨-, full, heffort, hfull, -⟩ :=
    write_effort h.state hheld hsound.client (e := x.effort) t _ hends
  have hservice : x.uploader.service x.conn x.channels 0 =
      x.uploader.write b x.conn x.channels 0 := by
    simp only [service, advance, proceed, h.state, h.out]
  have houtset : x.uploader.outset x.conn x.channels 0 x.effort = x.effort := by
    simp [outset, prepared, h.out]
  refine ⟨_, h.reached.step (.service 0 (hservice ▸ hends)), rfl, rfl, ?_, ?_⟩
  · rw [serviced, houtset, heffort]
    exact hfull rfl
  · rw [serviced, houtset, heffort]
    simp [Effort.write, h.full, h.repeats]

/-- The batch met a full send buffer once. -/
def deferred : Pursuit := single.play 1 written

/-- The repeated writes of a batch have no limit, although only its connect is counted. -/
theorem repeats_unlimited (n : Nat) : ∃ x b, Holds x b .retry n ∧ b.attempts = 1 := by
  induction n with
  | zero =>
    have hreached : Reached deferred := play_reached single_reached 1 _
    have hout : deferred.uploader.batch.map Batch.attempts = some 1 := by decide +kernel
    obtain ⟨b, hb, hattempts⟩ := Option.map_eq_some_iff.1 hout
    have hstate : deferred.conn.state = .retry := by decide +kernel
    have heffort : deferred.effort = { connects := 1, full := true } := by decide +kernel
    exact ⟨deferred, b, ⟨hreached, hb, hstate, by rw [heffort], by rw [heffort]⟩, hattempts⟩
  | succ n ih =>
    obtain ⟨x, b, hholds, hattempts⟩ := ih
    obtain ⟨y, hready⟩ := hholds.drain
    obtain ⟨z, hretry⟩ := hready.refill
    exact ⟨z, b, hretry, hattempts⟩

end Pursuit

end MeterNode
