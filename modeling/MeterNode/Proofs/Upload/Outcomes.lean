import MeterNode.Proofs.Connection.Registry
import MeterNode.Proofs.Observers
import MeterNode.Proofs.Upload.Stream

/-!
# What becomes of a batch

A batch is prepared once, goes on from step to step, and ends once: it is accepted, refused or given
up.  Each of the three is counted.  `Concluded` says of a step with a batch on hand that either the
batch is in flight behind it and nothing was counted, or no batch is left and one ending was counted
(`Uploader.service_concluded`).  A connection counts nothing of this (`Effect.OfConnection`).

A `Docket` follows an uploader through a run and keeps the number of batches prepared, what was
counted, and the batches that were delivered.  The batches prepared are those that ended and the one
that is held, and so are the counters, as far as they reach (`Docket.Reached.outcomes`).
-/

namespace MeterNode

open MeterNode.Text

/-! ## What a connection counts -/

/-- The operation is one that a connection asks for: it writes to the log, calls the transport, or
counts something about connections. -/
@[simp] def Effect.OfConnection : Effect → Prop
  | .log .. | .net _ => True
  | .count .connAttempt | .count .connFailure => True
  | .count .connBackpressure | .count .connTimeout => True
  | _ => False

namespace Connection

variable {c : Connection} {now : Instant}

@[simp] theorem setState_own {next : ConnState} {reason : String} :
    Prog.Asks Effect.OfConnection (c.setState next reason) := by
  simp only [setState]
  split <;> simp

@[simp] theorem release_own : Prog.Asks Effect.OfConnection c.release := by
  simp only [release]
  split
  next => exact Act.asks_pure
  next =>
    simp only [Act.asks_bind, Act.asks_net, Effect.OfConnection, true_and]
    rintro - - answer -
    cases answer <;> simp

@[simp] theorem attach_own {handle : Handle} : Prog.Asks Effect.OfConnection (c.attach handle) := by
  simp [attach]

@[simp] theorem abandon_own {reason : String} :
    Prog.Asks Effect.OfConnection (c.abandon reason) := by
  simp [abandon]

@[simp] theorem fail_own {text reason : String} :
    Prog.Asks Effect.OfConnection (c.fail text reason) := by
  simp [fail]

@[simp] theorem foundAddress_own {address : Option Address} :
    Prog.Asks Effect.OfConnection (c.foundAddress address now) := by
  simp only [foundAddress]
  split
  next => exact fail_own
  next =>
    split
    next =>
      simp only [Act.asks_bind, setState_own, Act.asks_net, Effect.OfConnection, true_and]
      rintro _ - answer -
      cases answer <;> simp
    next => exact setState_own

@[simp] theorem openHandle_own : Prog.Asks Effect.OfConnection c.openHandle := by
  simp only [openHandle]
  split
  next => exact Act.asks_pure
  next =>
    simp only [Act.asks_bind, Act.asks_net, Effect.OfConnection, true_and]
    rintro answer -
    cases answer <;> simp

@[simp] theorem lookUp_own {endpoint : Endpoint} :
    Prog.Asks Effect.OfConnection (c.lookUp endpoint now) := by
  simp only [lookUp, Act.asks_bind, Act.asks_net, Effect.OfConnection, true_and]
  rintro answer -
  cases answer with
  | ok found => cases found <;> simp
  | error e => simp

@[simp] theorem connect_own : Prog.Asks Effect.OfConnection (c.connect now) := by
  simp only [connect]
  split
  next => simp
  next =>
    split
    next => exact Act.asks_pure
    next endpoint =>
      have hused : Prog.Asks Effect.OfConnection c.dropUsedHandle := by
        simp only [dropUsedHandle]
        split <;> simp
      simp only [Act.asks_bind, hused, openHandle_own, true_and]
      rintro d - ⟨result, e⟩ -
      cases result <;> simp

@[simp] theorem post_own {resource payload : String} :
    Prog.Asks Effect.OfConnection (c.post resource payload now) := by
  simp only [post]
  split
  next => simp
  next =>
    split
    next => exact Act.asks_pure
    next =>
      split
      next => exact setState_own
      next =>
        simp only [Act.asks_bind, asks_log, Act.asks_net, Effect.OfConnection, true_and]
        rintro - - answer -
        cases answer with
        | ok u => simp
        | error e =>
          simp only
          split <;> simp

@[simp] theorem resume_own : Prog.Asks Effect.OfConnection c.resume := by
  simp only [resume]
  split <;> simp

@[simp] theorem finishReply_own : Prog.Asks Effect.OfConnection c.finishReply := by
  simp only [finishReply]
  split <;> simp

@[simp] theorem checkTimeout_own : Prog.Asks Effect.OfConnection (c.checkTimeout now) := by
  simp only [checkTimeout]
  split <;> simp

@[simp] theorem handleEvent_own {kind : EventKind} :
    Prog.Asks Effect.OfConnection (c.handleEvent kind now) := by
  cases kind with
  | dnsFound address =>
    simp only [handleEvent]
    split <;> simp
  | connected result =>
    cases result with
    | ok u =>
      simp only [handleEvent]
      split <;> simp
    | error e => simp [handleEvent]
  | received chunk =>
    simp only [handleEvent, receive]
    split
    · simp
    · split <;> simp
  | sent length =>
    simp only [handleEvent, noteSent, Act.asks_bind, asks_log, Effect.OfConnection, true_and]
    rintro - -
    split <;> simp
  | peerClosed | poll | error e => simp [handleEvent]
  | accepted result => cases result <;> simp [handleEvent]

@[simp] theorem applyEvent_own {source : Option Handle} {kind : EventKind} :
    Prog.Asks Effect.OfConnection (c.applyEvent source kind now) := by
  by_cases hhears : c.Hears source
  · rw [applyEvent_of_hears hhears]
    exact handleEvent_own
  · obtain ⟨text, hdeaf⟩ := applyEvent_of_deaf hhears kind now
    simp [hdeaf]

theorem connect_client {d : Connection} (hs : c.state ≠ .server) (h : (c.connect now).Gives d) :
    d.state ≠ .server := by
  rcases connect_gives h with rfl | ⟨-, hdialled⟩
  · exact hs
  · rcases hdialled.outcome with hd | hd | ⟨hd | hd, -⟩ <;> simp [hd]

theorem post_client {d : Connection} {resource payload : String} (hs : c.state ≠ .server)
    (h : (c.post resource payload now).Gives d) : d.state ≠ .server := by
  cases post_gives_posted h with
  | skipped => exact hs
  | lost | written | deferred => simp

end Connection

/-! ## Endings -/

/-- The tally counts the end of a batch. -/
def Tally.endsBatch : Tally → Bool
  | .uploadAccepted .. | .uploadRejected _ | .uploadAbandoned => true
  | _ => false

/-- The endings among some tallies. -/
def Tally.endings (tallies : List Tally) : Nat := tallies.countP Tally.endsBatch

/-- The observer who counts the batches that end. -/
def Observer.endings : Observer Nat := fun n op _ => n + Tally.endings op.tally?.toList

@[simp] theorem Observer.endings_log {n : Nat} {level : Level} {text : String} {done : Unit} :
    Observer.endings n (.log level text) done = n := rfl

@[simp] theorem Observer.endings_count {n : Nat} {tally : Tally} {done : Unit} :
    Observer.endings n (.count tally) done = n + if tally.endsBatch then 1 else 0 := by
  simp [Observer.endings, Effect.tally?, Tally.endings, List.countP_cons]

theorem Effect.OfConnection.misses {op : Effect} (h : op.OfConnection) :
    Observer.endings.Misses op := by
  intro n answer
  cases op with
  | count tally => cases tally <;> first | rfl | exact absurd h id
  | _ => rfl

theorem Observer.endings_behind {n : Nat} {t : Trace Node} :
    Observer.endings.behind n t = n + Tally.endings t.tallies := by
  induction t generalizing n with
  | nil => rfl
  | cons step t ih =>
    have htallies :
        Trace.tallies (step :: t) = (Effect.tally? step.1).toList ++ Trace.tallies t := by
      simp only [Trace.tallies, List.filterMap_cons]
      cases Effect.tally? step.1 <;> rfl
    calc Observer.endings.behind n (step :: t)
        = n + Tally.endings (Effect.tally? step.1).toList + Tally.endings (Trace.tallies t) := ih
      _ = n + Tally.endings (Trace.tallies (step :: t)) := by
        rw [htallies, Tally.endings, Tally.endings, Tally.endings, List.countP_append,
          Nat.add_assoc]

/-- The batches that were counted as ended. -/
def Telemetry.ended (t : Telemetry) : UInt32 := t.uploadsOk + t.uploadsRejected + t.uploadsAbandoned

theorem Telemetry.ended_record (t : Telemetry) (tally : Tally) :
    (t.record tally).ended = t.ended + if tally.endsBatch then 1 else 0 := by
  cases tally with
  | uploadAccepted | uploadRejected | uploadAbandoned =>
    simp only [record, ended, Tally.endsBatch, if_true]
    grind
  | resync ok => cases ok <;> simp [record, ended, Tally.endsBatch]
  | _ => simp [record, ended, Tally.endsBatch]

theorem Telemetry.ended_foldl (t : Telemetry) (tallies : List Tally) :
    (tallies.foldl Telemetry.record t).ended = t.ended + UInt32.ofNat (Tally.endings tallies) := by
  induction tallies generalizing t with
  | nil => simp [Tally.endings]
  | cons tally tallies ih =>
    rw [List.foldl_cons, ih, ended_record, Tally.endings, Tally.endings, List.countP_cons,
      UInt32.ofNat_add, UInt32.add_assoc, UInt32.add_comm (UInt32.ofNat _)]
    split <;> rfl

/-! ## Steps -/

namespace Uploader

variable {u : Uploader} {b : Batch} {c conn : Connection} {channels : List MeterChannel}
  {now : Instant} {n : Nat} {r : Serviced}

/-- The batch that a step prepares: without one out, what framing gives, unless the step only looks
at the connection. -/
def prepared (u : Uploader) (conn : Connection) (channels : List MeterChannel) (now : Instant) :
    Option Batch :=
  match u.batch, conn.state with
  | none, .init | none, .ready | none, .retry | none, .error => (u.framed now 0 channels).1
  | _, _ => none

/-- What becomes of the batch that a step has on hand, if there is one.  It is in flight behind the
step, or it has ended and was counted as ended, once. -/
inductive Concluded (onHand : Bool) (n : Nat) (r : Serviced) : Nat → Prop where
  | inFlight : onHand = true → r.progress = .inFlight → r.uploader.batch.isSome →
      Concluded onHand n r n
  | delivered (samples : Nat) : onHand = true → r.progress = .delivered samples →
      r.uploader.batch = none → Concluded onHand n r (n + 1)
  | failed (cause : UploadError) : onHand = true → r.progress = .failed cause →
      r.uploader.batch = none → Concluded onHand n r (n + 1)
  | idle : onHand = false → r.progress = .idle → r.uploader.batch = none → Concluded onHand n r n

theorem leaves_own {α : Type} {p : Act α} (h : Prog.Asks Effect.OfConnection p) :
    p.Leaves Observer.endings n fun a n' => p.Gives a ∧ n' = n :=
  (Act.leaves_misses (h.mono fun _ => Effect.OfConnection.misses)).gives

theorem giveUp_concluded {cause : UploadError} :
    (u.giveUp cause c channels).Leaves Observer.endings n fun r n' =>
      Concluded true n r n' ∧ r.conn = c := by
  simp only [giveUp, Act.leaves_bind, Act.leaves_pure, Act.leaves_count]
  exact ⟨.failed cause rfl rfl rfl, trivial⟩

theorem connectFor_concluded (hs : c.state ≠ .server) :
    (u.connectFor b c channels now).Leaves Observer.endings n fun r n' =>
      Concluded true n r n' ∧ r.conn.state ≠ .server := by
  simp only [connectFor]
  split
  next =>
    simp only [Act.leaves_bind, Act.leaves_log, Observer.endings_log]
    exact giveUp_concluded.imp fun r n' hr => ⟨hr.1, hr.2 ▸ hs⟩
  next =>
    simp only [Act.leaves_bind, Act.leaves_pure]
    refine (leaves_own Connection.connect_own).imp ?_
    rintro d _ ⟨hd, rfl⟩
    exact ⟨.inFlight rfl rfl rfl, Connection.connect_client hs hd⟩

theorem write_concluded (hs : c.state ≠ .server) :
    (u.write b c channels now).Leaves Observer.endings n fun r n' =>
      Concluded true n r n' ∧ r.conn.state ≠ .server := by
  rw [write, Act.leaves_bind]
  refine (leaves_own Connection.post_own).imp ?_
  rintro d _ ⟨hd, rfl⟩
  have hclient : d.state ≠ .server := Connection.post_client hs hd
  split
  next => exact giveUp_concluded.imp fun r n' hr => ⟨hr.1, hr.2 ▸ hclient⟩
  next => exact Act.leaves_pure.2 ⟨.inFlight rfl rfl rfl, hclient⟩

theorem writeAgain_concluded (hs : c.state = .retry) :
    (u.writeAgain b c channels now).Leaves Observer.endings n fun r n' =>
      Concluded true n r n' ∧ r.conn.state ≠ .server := by
  simp only [writeAgain]
  split
  next =>
    rw [Act.leaves_bind]
    refine (leaves_own Connection.abandon_own).imp ?_
    rintro d _ ⟨hd, rfl⟩
    have hinit : d.state = .init := by rw [Connection.abandon_gives hd]
    exact giveUp_concluded.imp fun r n' hr => ⟨hr.1, by simp [hr.2, hinit]⟩
  next =>
    rw [Act.leaves_bind]
    refine (leaves_own Connection.resume_own).imp ?_
    rintro res _ ⟨hres, rfl⟩
    have hready := Connection.resume_gives hres
    rw [if_pos hs] at hready
    exact write_concluded (by simp [hready])

/-- The connection is free for the next step of a batch. -/
def Free (c : Connection) : Prop := c.state = .init ∨ c.state = .ready ∨ c.state = .retry

theorem proceed_concluded (hs : Free c) :
    (u.proceed b c channels now).Leaves Observer.endings n fun r n' =>
      Concluded true n r n' ∧ r.conn.state ≠ .server := by
  rcases hs with hs | hs | hs
  all_goals simp only [proceed, hs]
  · exact connectFor_concluded (by simp [hs])
  · exact write_concluded (by simp [hs])
  · exact writeAgain_concluded hs

theorem frame_own {i : Nat} : Prog.Asks Effect.OfConnection (u.frame now i channels) := by
  induction channels generalizing i with
  | nil => exact Act.asks_pure
  | cons c rest ih =>
    simp only [frame]
    split
    · simp [ih]
    · split <;> simp [ih]

theorem advance_concluded (hs : Free c) :
    (u.advance c channels now).Leaves Observer.endings n fun r n' =>
      Concluded (u.taken now channels).1.isSome n r n' ∧ r.conn.state ≠ .server := by
  cases hb : u.batch with
  | some b =>
    simp only [advance, taken, hb]
    exact proceed_concluded hs
  | none =>
    simp only [advance, taken, hb, Act.leaves_bind]
    refine (leaves_own frame_own).imp ?_
    rintro ⟨found, rest⟩ _ ⟨hgives, rfl⟩
    rw [← frame_gives hgives]
    cases found with
    | some b => exact proceed_concluded hs
    | none =>
      refine Act.leaves_pure.2 ⟨.idle rfl rfl hb, ?_⟩
      rcases hs with hs | hs | hs <;> simp [hs]

theorem evaluate_concluded {reply : Bytes} :
    (u.evaluate b reply c channels now).Leaves Observer.endings n fun r n' =>
      Concluded true n r n' ∧ r.conn = c := by
  simp only [evaluate]
  split
  all_goals
    simp only [Act.leaves_bind, Act.leaves_pure, Act.leaves_log, Act.leaves_count,
      Observer.endings_log, Observer.endings_count]
  next => exact ⟨.delivered _ rfl rfl rfl, trivial⟩
  next => exact ⟨.failed _ rfl rfl rfl, trivial⟩
  next => exact ⟨.failed _ rfl rfl rfl, trivial⟩

theorem complete_concluded (hs : conn.state = .replied) :
    (u.complete conn channels now).Leaves Observer.endings n fun r n' =>
      Concluded u.batch.isSome n r n' ∧ r.conn.state ≠ .server := by
  rw [complete, Act.leaves_bind]
  refine (leaves_own Connection.finishReply_own).imp ?_
  rintro ⟨reply, d⟩ _ ⟨hreply, rfl⟩
  have htaken := Connection.finishReply_gives hreply
  rw [if_pos hs] at htaken
  have hinit : d.state = .init := congrArg Connection.state htaken.2
  cases hb : u.batch with
  | none =>
    simp only [Act.leaves_bind, Act.leaves_log, Act.leaves_pure]
    exact ⟨.idle rfl rfl hb, by simp [hinit]⟩
  | some b => exact evaluate_concluded.imp fun r n' hr => ⟨hr.1, by simp [hr.2, hinit]⟩

/-- A step that goes on with a batch has it on hand. -/
theorem onHand_taken (hs : Free conn ∨ conn.state = .error) :
    u.batch.or (u.prepared conn channels now) = (u.taken now channels).1 := by
  cases hb : u.batch with
  | some b => simp [taken, hb]
  | none => rcases hs with (hs | hs | hs) | hs <;> simp [prepared, taken, hb, hs]

/-- A step that only looks at the connection prepares nothing. -/
theorem onHand_held (hs : ¬ Free conn) (herror : conn.state ≠ .error) :
    u.batch.or (u.prepared conn channels now) = u.batch := by
  cases hb : u.batch with
  | some b => rfl
  | none =>
    simp only [prepared, hb, Option.none_or]
    split
    case h_5 => rfl
    all_goals
      rename_i hstate
      simp [Free, hstate] at hs herror

/-- A step on a connection of a collector brings the batch that it has on hand to an end, or has it
in flight. -/
theorem service_concluded (hs : conn.state ≠ .server) :
    (u.service conn channels now).Leaves Observer.endings n fun r n' =>
      Concluded (u.batch.or (u.prepared conn channels now)).isSome n r n' ∧
        r.conn.state ≠ .server := by
  cases hstate : conn.state with
  | server => exact absurd hstate hs
  | init | ready | retry =>
    have hfree : Free conn := by simp [Free, hstate]
    rw [onHand_taken (Or.inl hfree)]
    simp only [service, hstate]
    exact advance_concluded hfree
  | error =>
    rw [onHand_taken (Or.inr hstate)]
    simp only [service, hstate, Act.leaves_bind]
    refine (leaves_own Connection.abandon_own).imp ?_
    rintro d _ ⟨hd, rfl⟩
    exact advance_concluded (Or.inl (by rw [Connection.abandon_gives hd]))
  | dns | connecting | sending =>
    rw [onHand_held (by simp [Free, hstate]) (by simp [hstate])]
    simp only [service, hstate]
    refine Act.leaves_pure.2 ⟨?_, hs⟩
    cases hb : u.batch with
    | none => exact .idle rfl (by simp [isBusy, hb]) hb
    | some b => exact .inFlight rfl (by simp [isBusy, hb]) (by simp [hb])
  | replied =>
    rw [onHand_held (by simp [Free, hstate]) (by simp [hstate])]
    simp only [service, hstate]
    exact complete_concluded hstate

/-- A step is in flight exactly while a batch is out. -/
theorem Concluded.inFlight_iff {onHand : Bool} {n' : Nat} (h : Concluded onHand n r n') :
    r.progress = .inFlight ↔ r.uploader.batch.isSome = true := by
  cases h with
  | inFlight _ hp hb => simp [hp, hb]
  | delivered _ _ hp hb | failed _ _ hp hb | idle _ hp hb => simp [hp, hb]

/-- A batch that was on hand is still out, or it was counted. -/
theorem Concluded.balance {onHand : Bool} {n' : Nat} (h : Concluded onHand n r n') :
    n + onHand.toNat = n' + r.uploader.batch.isSome.toNat := by
  cases h with
  | inFlight hhand _ hb | idle hhand _ hb | delivered _ hhand _ hb | failed _ hhand _ hb =>
    simp [hhand, hb]

/-! ### The channels of a step -/

theorem framed_length {i : Nat} : (u.framed now i channels).2.length = channels.length := by
  induction channels generalizing i with
  | nil => rfl
  | cons c rest ih =>
    simp only [framed]
    split <;> simp [ih]

/-- Samples of which none is kept repeat one timestamp. -/
theorem dropRepeats_eq_nil {previous : Option Nat} {samples : List Sample}
    (h : dropRepeats previous samples = []) : ∀ s ∈ samples, previous = some s.ts := by
  induction samples with
  | nil => simp
  | cons d rest ih =>
    simp only [dropRepeats] at h
    split at h
    next hd => exact List.forall_mem_cons.2 ⟨hd, ih h⟩
    next => cases h

/-- A step that does not deliver removes samples from the front of a channel, each of which repeats
the timestamp that was delivered last. -/
theorem service_removes {i : Nat} {ch : MeterChannel}
    (h : (u.service conn channels now).Gives r) (hp : ∀ samples, r.progress ≠ .delivered samples)
    (hget : channels[i]? = some ch) :
    ∃ count, r.channels[i]? = some (ch.acknowledge count) ∧
      ∀ s ∈ ch.pending.take count, u.lastSentOf i = some s.ts := by
  have hsame : ∃ count, channels[i]? = some (ch.acknowledge count) ∧
      ∀ s ∈ ch.pending.take count, u.lastSentOf i = some s.ts :=
    ⟨0, by simpa [MeterChannel.acknowledge] using hget, by simp⟩
  have hframed {found : Option Batch} {rest : List MeterChannel}
      (htaken : u.taken now channels = (found, rest)) :
      ∃ count, rest[i]? = some (ch.acknowledge count) ∧
        ∀ s ∈ ch.pending.take count, u.lastSentOf i = some s.ts := by
    rcases taken_cases htaken with ⟨-, -, rfl⟩ | ⟨-, hframe⟩
    · exact hsame
    · rcases framed_of_get u now 0 hget with hkept | ⟨hskipped, hrepeats, -⟩
      · rw [hframe] at hkept
        exact ⟨0, by simpa [MeterChannel.acknowledge] using hkept, by simp⟩
      · rw [hframe, Nat.zero_add] at hskipped
        rw [Nat.zero_add] at hrepeats
        refine ⟨_, hskipped, fun s hs => dropRepeats_eq_nil hrepeats s ?_⟩
        rw [batchOf, List.length_take] at hs
        exact List.take_subset_take_left _ (Nat.min_le_left _ _) hs
  have hstep := service_gives h
  generalize r.progress = p at hstep hp
  generalize r.uploader = u' at hstep
  generalize r.channels = rest at hstep ⊢
  cases hstep with
  | rested | givenUp | refused => exact hsame
  | idle htaken | carried _ htaken => exact hframed htaken
  | delivered => exact absurd rfl (hp _)

theorem service_length (h : (u.service conn channels now).Gives r) :
    r.channels.length = channels.length := by
  have hframed {found : Option Batch} {rest : List MeterChannel}
      (htaken : u.taken now channels = (found, rest)) : rest.length = channels.length := by
    rcases taken_cases htaken with ⟨-, -, rfl⟩ | ⟨-, hframe⟩
    · rfl
    · have hlength : (u.framed now 0 channels).2.length = channels.length := framed_length
      rwa [hframe] at hlength
  have hstep := service_gives h
  generalize r.progress = p at hstep
  generalize r.uploader = u' at hstep
  generalize r.channels = rest at hstep ⊢
  cases hstep with
  | rested | givenUp | refused => rfl
  | idle htaken | carried _ htaken => exact hframed htaken
  | delivered => simp [acknowledgeBatch]

/-- A step that fails leaves the channels alone. -/
theorem service_failed_channels {cause : UploadError} (hs : conn.state ≠ .server)
    (h : (u.service conn channels now).Gives r) (hp : r.progress = .failed cause) :
    r.channels = channels := by
  obtain ⟨t, hends⟩ := h
  have hnone : r.uploader.batch.isSome ≠ true := fun hb => by
    rw [((service_concluded (n := 0) hs t r hends).1.inFlight_iff).2 hb] at hp
    cases hp
  have hstep := service_gives hends.gives
  rw [hp] at hstep
  generalize hfailed : UploadProgress.failed cause = p at hstep
  generalize r.uploader = u' at hstep hnone
  generalize r.channels = rest at hstep ⊢
  cases hstep with
  | rested | givenUp | refused => rfl
  | idle | delivered => cases hfailed
  | carried => exact absurd rfl hnone

/-! ### The memory of a step -/

/-- A step that delivers remembers the last timestamp of the batch. -/
theorem service_marks {samples : Nat} (h : (u.service conn channels now).Gives r)
    (hp : r.progress = .delivered samples) :
    ∃ b, u.batch = some b ∧ r.uploader = { u with batch := none }.markSent b.channel b.lastTs := by
  have hstep := service_gives h
  rw [hp] at hstep
  generalize hdelivered : UploadProgress.delivered samples = p at hstep
  generalize r.uploader = u' at hstep ⊢
  generalize r.channels = rest at hstep
  cases hstep with
  | rested hp | carried _ _ hp | givenUp _ hp =>
    rw [← hdelivered] at hp
    cases hp
  | idle => cases hdelivered
  | refused _ _ hcode => exact absurd (verdict_delivered.1 ⟨samples, hdelivered.symm⟩) hcode
  | delivered hb => exact ⟨_, hb, rfl⟩

theorem service_remembers (h : (u.service conn channels now).Gives r)
    (hp : ∀ samples, r.progress ≠ .delivered samples) (i : Nat) :
    r.uploader.lastSentOf i = u.lastSentOf i := by
  have hstep := service_gives h
  generalize r.progress = p at hstep hp
  generalize r.uploader = u' at hstep ⊢
  generalize r.channels = rest at hstep
  cases hstep with
  | rested | idle | carried | givenUp | refused => rfl
  | delivered => exact absurd rfl (hp _)

/-- A batch carries something. -/
theorem service_carries (h : (u.service conn channels now).Gives r)
    (hcarry : ∀ b, u.batch = some b → b.tuples ≠ []) :
    ∀ b, r.uploader.batch = some b → b.tuples ≠ [] := by
  intro b' hb'
  have hstep := service_gives h
  generalize r.progress = p at hstep
  generalize r.uploader = u' at hstep hb'
  generalize r.channels = rest at hstep
  cases hstep with
  | rested | idle => exact hcarry b' hb'
  | carried _ htaken =>
    cases hb'
    rcases taken_cases htaken with ⟨-, hb, -⟩ | ⟨-, hframe⟩
    · have hne := hcarry _ hb
      exact hne
    · obtain ⟨_, _, _, _, hne, _⟩ := framed_batch (congrArg Prod.fst hframe)
      exact hne
  | givenUp | refused | delivered => cases hb'

end Uploader

/-! ## Dockets -/

/-- An uploader at work, what it prepared and counted, and what it delivered, latest first. -/
structure Docket where
  uploader : Uploader
  conn : Connection
  channels : List MeterChannel
  prepared : Nat := 0
  tallies : List Tally := []
  delivered : List Batch := []

namespace Docket

open Uploader

variable {x x' : Docket} {now : Instant} {t : Trace Node} {r : Serviced}

/-- The docket after a step of the uploader. -/
def serviced (x : Docket) (now : Instant) (t : Trace Node) (r : Serviced) : Docket where
  uploader := r.uploader
  conn := r.conn
  channels := r.channels
  prepared := x.prepared + (x.uploader.prepared x.conn x.channels now).isSome.toNat
  tallies := x.tallies ++ t.tallies
  delivered :=
    match r.progress with
    | .delivered _ => x.uploader.batch.toList ++ x.delivered
    | _ => x.delivered

/-- A push to some channel, a report of the transport other than a visitor, or a step of the
uploader. -/
inductive Step : Docket → Docket → Prop where
  | push {x : Docket} (i : Nat) (s : Sample) :
      Step x { x with channels := x.channels.modify i (·.push s) }
  | event {x : Docket} (source : Option Handle) (kind : EventKind) (now : Instant)
      {t : Trace Node} {res : EventOutcome × Connection} :
      (∀ handle, kind ≠ .accepted (.ok handle)) → (x.conn.applyEvent source kind now).Ends t res →
      Step x { x with conn := res.2, tallies := x.tallies ++ t.tallies }
  | service {x : Docket} (now : Instant) {t : Trace Node} {r : Serviced} :
      (x.uploader.service x.conn x.channels now).Ends t r → Step x (x.serviced now t r)

/-- Nothing has happened yet, and the connection is one to a collector. -/
structure Fresh (x : Docket) : Prop where
  batch : x.uploader.batch = none
  lastSent : ∀ i, x.uploader.lastSentOf i = none
  client : x.conn.state ≠ .server
  unused : x.prepared = 0 ∧ x.tallies = [] ∧ x.delivered = []

/-- The dockets of all runs. -/
inductive Reached : Docket → Prop where
  | start {x : Docket} : x.Fresh → Reached x
  | step {x x' : Docket} : Reached x → Step x x' → Reached x'

/-- What all runs have in common. -/
structure Sound (x : Docket) : Prop where
  client : x.conn.state ≠ .server
  balance : x.prepared = Tally.endings x.tallies + x.uploader.batch.isSome.toNat
  remembered : ∀ i, x.uploader.lastSentOf i =
    (x.delivered.find? (·.channel = i)).map Batch.lastTs
  carry : ∀ b ∈ x.uploader.batch.toList ++ x.delivered, b.tuples ≠ []

theorem Fresh.sound (h : x.Fresh) : x.Sound := by
  obtain ⟨hprepared, htallies, hdelivered⟩ := h.unused
  exact {
    client := h.client
    balance := by simp [hprepared, htallies, h.batch, Tally.endings]
    remembered := by simp [h.lastSent, hdelivered]
    carry := by simp [h.batch, hdelivered] }

theorem Sound.event {source : Option Handle} {kind : EventKind} {res : EventOutcome × Connection}
    (h : x.Sound) (hkind : ∀ handle, kind ≠ .accepted (.ok handle))
    (hends : (x.conn.applyEvent source kind now).Ends t res) :
    Sound { x with conn := res.2, tallies := x.tallies ++ t.tallies } := by
  have huncounted := (leaves_own Connection.applyEvent_own (n := 0) t res hends).2
  rw [Observer.endings_behind, Nat.zero_add] at huncounted
  refine { h with client := ?_, balance := ?_ }
  · rcases Connection.applyEvent_gives hends.gives with ⟨-, ⟨started, hafter⟩, -⟩ | ⟨-, hsame, -⟩
    · intro hserving
      rw [hafter] at hserving
      rcases Connection.after_serving hserving with ⟨handle, hvisitor⟩ | ⟨hs, -⟩
      · exact hkind handle hvisitor
      · exact h.client hs
    · rw [hsame]
      exact h.client
  · rw [Tally.endings, List.countP_append, ← Tally.endings, ← Tally.endings, huncounted]
    exact h.balance

/-- A batch is on hand in a step if it was out before or is prepared in the step, and it is never
both. -/
theorem onHand_count {u : Uploader} {c : Connection} {channels : List MeterChannel} :
    (u.batch.or (u.prepared c channels now)).isSome.toNat =
      u.batch.isSome.toNat + (u.prepared c channels now).isSome.toNat := by
  cases hb : u.batch with
  | some b => simp [Uploader.prepared, hb]
  | none => simp

theorem Sound.service (h : x.Sound) (hends : (x.uploader.service x.conn x.channels now).Ends t r) :
    Sound (x.serviced now t r) := by
  obtain ⟨hconcluded, hclient⟩ :=
    service_concluded (n := Tally.endings x.tallies) h.client t r hends
  rw [Observer.endings_behind] at hconcluded
  have hcarry : ∀ b, r.uploader.batch = some b → b.tuples ≠ [] :=
    service_carries hends.gives fun b hb => h.carry b (by simp [hb])
  have hbalance : (x.serviced now t r).prepared =
      Tally.endings (x.tallies ++ t.tallies) + r.uploader.batch.isSome.toNat := by
    have hstep := hconcluded.balance
    rw [onHand_count, ← Nat.add_assoc, ← h.balance] at hstep
    rw [Tally.endings, List.countP_append]
    exact hstep
  by_cases hp : ∃ samples, r.progress = .delivered samples
  · obtain ⟨samples, hp⟩ := hp
    obtain ⟨b, hb, hmarked⟩ := service_marks hends.gives hp
    have hlog : (x.serviced now t r).delivered = b :: x.delivered := by simp [serviced, hp, hb]
    refine ⟨hclient, hbalance, fun i => ?_, fun b' hb' => ?_⟩
    · have hbefore : ({ x.uploader with batch := none } : Uploader).lastSentOf i =
          (x.delivered.find? (·.channel = i)).map Batch.lastTs := h.remembered i
      rw [hlog, List.find?_cons, serviced, hmarked, Uploader.lastSentOf_markSent]
      by_cases hi : b.channel = i
      · simp [hi]
      · simp [hi, Ne.symm hi, hbefore]
    · rw [hlog] at hb'
      rcases List.mem_append.1 hb' with hb' | hb'
      · exact hcarry b' (by simpa [serviced] using hb')
      · refine h.carry b' ?_
        simpa [hb] using hb'
  · have hlog : (x.serviced now t r).delivered = x.delivered := by
      simp only [serviced]
      split
      next samples heq => exact absurd ⟨samples, heq⟩ hp
      next => rfl
    refine ⟨hclient, hbalance, fun i => ?_, fun b' hb' => ?_⟩
    · rw [hlog, ← h.remembered i]
      exact service_remembers hends.gives (fun samples heq => hp ⟨samples, heq⟩) i
    · rw [hlog] at hb'
      rcases List.mem_append.1 hb' with hb' | hb'
      · exact hcarry b' (by simpa [serviced] using hb')
      · exact h.carry b' (List.mem_append_right _ hb')

theorem Step.sound (hstep : Step x x') (h : x.Sound) : x'.Sound := by
  cases hstep with
  | push i s => exact ⟨h.client, h.balance, h.remembered, h.carry⟩
  | event source kind now hkind hends => exact h.event hkind hends
  | service now hends => exact h.service hends

theorem Reached.sound (h : Reached x) : x.Sound := by
  induction h with
  | start hfresh => exact hfresh.sound
  | step _ hstep ih => exact hstep.sound ih

/-- The batches prepared so far are those that were counted as accepted, refused or given up, and
the one that is held.  A step is in flight exactly if it leaves a batch.  If it fails, the channels
stay as they are, and unless it delivers, it removes only samples with the timestamp of the last
sample that was delivered from their channel. -/
theorem Reached.outcomes (h : Reached x) :
    (∀ start : Telemetry,
      UInt32.ofNat x.prepared =
        (x.tallies.foldl Telemetry.record start).ended - start.ended +
          if x.uploader.batch.isSome then 1 else 0) ∧
    ∀ now t r, (x.uploader.service x.conn x.channels now).Ends t r →
      (r.progress = .inFlight ↔ r.uploader.batch.isSome = true) ∧
      (∀ cause, r.progress = .failed cause → r.channels = x.channels) ∧
      ((∀ samples, r.progress ≠ .delivered samples) →
        r.channels.length = x.channels.length ∧
        ∀ i ch, x.channels[i]? = some ch → ∃ count,
          r.channels[i]? = some (ch.acknowledge count) ∧
          ∀ s ∈ ch.pending.take count, ∃ b last, x.delivered.find? (·.channel = i) = some b ∧
            b.tuples.getLast? = some last ∧ s.ts = last.ts) := by
  have hsound := h.sound
  refine ⟨fun start => ?_, fun now t r hends => ⟨?_, ?_, ?_⟩⟩
  · rw [Telemetry.ended_foldl, UInt32.add_comm start.ended, UInt32.add_sub_cancel, hsound.balance,
      UInt32.ofNat_add]
    cases x.uploader.batch <;> rfl
  · exact (service_concluded (n := 0) hsound.client t r hends).1.inFlight_iff
  · exact fun cause => service_failed_channels hsound.client hends.gives
  · refine fun hp => ⟨service_length hends.gives, fun i ch hget => ?_⟩
    obtain ⟨count, hkept, hrepeats⟩ := service_removes hends.gives hp hget
    refine ⟨count, hkept, fun s hs => ?_⟩
    have hlast := hrepeats s hs
    rw [hsound.remembered i] at hlast
    obtain ⟨b, hb, hts⟩ := Option.map_eq_some_iff.1 hlast
    have hmem : b ∈ x.delivered := List.mem_of_find?_eq_some hb
    have hne : b.tuples ≠ [] := hsound.carry b (List.mem_append_right _ hmem)
    obtain ⟨last, hlast⟩ := Option.isSome_iff_exists.1 (List.getLast?_isSome.2 hne)
    refine ⟨b, last, hb, hlast, ?_⟩
    simpa [Batch.lastTs, hlast] using hts.symm

/-! ## Runs on the bench -/

/-- Let it happen, with the answers of a bench; visitors are left out. -/
def happen : Docket × Bench.World → Account.Happening → Docket × Bench.World
  | (x, w), .push i s => ({ x with channels := x.channels.modify i (·.push s) }, w)
  | (x, w), .event _ (.accepted _) _ => (x, w)
  | (x, w), .event source kind now =>
      let p := x.conn.applyEvent source kind now
      let (res, w') := w.run p
      ({ x with
        conn := res.2
        tallies := x.tallies ++ (p.transcript (fun op w => w.answer op) w).tallies }, w')
  | (x, w), .service now =>
      let p := x.uploader.service x.conn x.channels now
      let (r, w') := w.run p
      (x.serviced now (p.transcript (fun op w => w.answer op) w) r, w')

/-- The docket after some happenings, on a bench. -/
def play (x : Docket) (w : Bench.World) (happenings : List Account.Happening) : Docket :=
  (happenings.foldl happen (x, w)).1

theorem happen_reached {xw : Docket × Bench.World} (h : Reached xw.1) (e : Account.Happening) :
    Reached (happen xw e).1 := by
  obtain ⟨x, w⟩ := xw
  cases e with
  | push i s => exact h.step (.push i s)
  | event source kind now =>
    cases kind with
    | accepted => exact h
    | dnsFound | connected | received | peerClosed | sent | poll | error =>
      exact h.step (.event source _ now (fun _ hvisitor => by cases hvisitor)
        (Prog.run_ends _ _ w))
  | service now => exact h.step (.service now (Prog.run_ends _ _ w))

theorem play_reached (h : Reached x) (w : Bench.World) (es : List Account.Happening) :
    Reached (x.play w es) := by
  have hfold : ∀ xw : Docket × Bench.World, Reached xw.1 → Reached (es.foldl happen xw).1 := by
    induction es with
    | nil => exact fun xw h => h
    | cons e es ih => exact fun xw h => ih _ (happen_reached h e)
  exact hfold (x, w) h

/-- One empty channel, whose samples go to a collector. -/
def single : Docket where
  uploader := Account.single.uploader
  conn := Account.single.conn
  channels := Account.single.channels

theorem single_reached : Reached single :=
  .start ⟨rfl, fun i => rfl, by decide, rfl, rfl, rfl⟩

/-- A batch was accepted.  Of the two samples that came then, the first one repeats the timestamp of
the batch; the second one was written, and the collector has refused it. -/
def refused : Docket :=
  single.play {} (Account.pushes 5 1 ++ Account.written ++ Account.accepted ++ Account.pushes 5 2 ++
    [.service 0, .event (some ⟨2⟩) (.connected (.ok ())) 0, .service 0,
      .event (some ⟨2⟩) (.received (bytesOf "HTTP/1.1 500 No\r\n\r\n")) 0])

theorem refused_reached : Reached refused := play_reached single_reached _ _

/-- Two batches were prepared, of which one has ended and one is held; it fails in the next step. -/
theorem outcomes_of_refused :
    refused.prepared = 2 ∧
      UInt32.ofNat refused.prepared =
        (refused.tallies.foldl Telemetry.record {}).ended - Telemetry.ended {} +
          (if refused.uploader.batch.isSome then 1 else 0) ∧
      ∃ t r, (refused.uploader.service refused.conn refused.channels 0).Ends t r ∧
        r.progress = .failed (.rejected 500) ∧ r.channels = refused.channels := by
  have hends := Prog.run_ends (fun op w => Bench.World.answer w op)
    (refused.uploader.service refused.conn refused.channels 0) {}
  obtain ⟨hcounted, hsteps⟩ := Reached.outcomes refused_reached
  have hp : ((Bench.World.run {}
      (refused.uploader.service refused.conn refused.channels 0)).1).progress =
      .failed (.rejected 500) := by decide +kernel
  exact ⟨by decide +kernel, hcounted {}, _, _, hends, hp, (hsteps 0 _ _ hends).2.1 _ hp⟩

end Docket

end MeterNode
