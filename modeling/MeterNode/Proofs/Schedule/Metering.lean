import MeterNode.Proofs.Schedule.Stamps
import MeterNode.Proofs.Upload.Outcomes

/-!
# What is counted as a read

The node counts every attempt to read a source, whether it works or not (`Tally.isRead`), so the
attempts of a run can be read off its trace (`Trace.attempts`).

Only `Entry.read` counts them, and only it asks a source.  The lemmas `..._unmetered` say so of
everything else that a tick does; all it may ask an input for is the memory, which the report at its
end looks at.  The effects of a connection are known well enough to tell
(`Effect.OfConnection.unmetered`); for the other parts the lemmas go through what they ask for.
-/

namespace MeterNode

/-- The tally counts an attempt to read a source. -/
def Tally.isRead : Tally → Bool
  | .meterRead _ => true
  | _ => false

namespace Trace

variable {t t₁ t₂ : Trace Node}

/-- The attempts to read a source that were counted. -/
def attempts (t : Trace Node) : Nat := t.tallies.countP Tally.isRead

@[simp] theorem attempts_append : attempts (t₁ ++ t₂) = attempts t₁ + attempts t₂ := by
  simp [attempts]

/-- Nothing counts as an attempt, and no input is asked but for the memory. -/
def Unmetered (t : Trace Node) : Prop :=
  t.attempts = 0 ∧ ∀ question ∈ t.questions, question.2 = .memory

theorem Unmetered.append (h₁ : t₁.Unmetered) (h₂ : t₂.Unmetered) : (t₁ ++ t₂).Unmetered := by
  refine ⟨by rw [attempts_append, h₁.1, h₂.1], ?_⟩
  rw [questions_append]
  exact List.forall_mem_append.2 ⟨h₁.2, h₂.2⟩

end Trace

theorem attempts_count {tally : Tally} {t : Trace Node} {a : Unit}
    (h : (Act.count tally).Ends t a) : t.attempts = if tally.isRead then 1 else 0 := by
  cases Prog.ends_perform.1 h
  simp [Trace.attempts, Trace.tallies, Effect.tally?, List.countP_cons]

/-- The operation counts no attempt to read a source, and asks no input but for the memory. -/
@[simp] def Effect.Unmetered : Effect → Prop
  | .count (.meterRead _) => False
  | .meter _ .memory => True
  | .meter .. => False
  | _ => True

theorem Effect.OfConnection.unmetered {op : Effect} (h : op.OfConnection) : op.Unmetered := by
  cases op with
  | count tally => cases tally <;> trivial
  | meter device call => cases h
  | log | counters | now | net | takeEvents | radio | cpu | pause | utc => trivial

/-- A connection counts no reads. -/
theorem Prog.Asks.unmetered {α : Type} {p : Act α} (h : Prog.Asks Effect.OfConnection p) :
    Prog.Asks Effect.Unmetered p := h.mono fun _ => Effect.OfConnection.unmetered

theorem Prog.Ends.unmetered {α : Type} {p : Act α} {t : Trace Node} {a : α} (h : Prog.Ends p t a)
    (hp : Prog.Asks Effect.Unmetered p) : t.Unmetered := by
  refine ⟨List.countP_eq_zero.2 fun tally htally hread => ?_, fun question hquestion => ?_⟩
  · obtain ⟨⟨op, answer⟩, hstep, hcount⟩ := List.mem_filterMap.1 htally
    have hunmetered := hp.of_mem h _ hstep
    cases op with
    | count tally' =>
      cases hcount
      cases tally with
      | meterRead ok => exact hunmetered
      | _ => cases hread
    | log | counters | now | net | takeEvents | radio | cpu | meter | pause | utc => cases hcount
  · obtain ⟨⟨op, answer⟩, hstep, hasked⟩ := List.mem_filterMap.1 hquestion
    have hunmetered := hp.of_mem h _ hstep
    cases op with
    | meter device call =>
      cases hasked
      cases call with
      | memory => rfl
      | convert | drive | settle | openSource | closeSource | readSource => cases hunmetered
    | log | count | counters | now | net | takeEvents | radio | cpu | pause | utc => cases hasked

variable {now : Instant}

/-! ## The network -/

namespace Registry

variable {r : Registry}

theorem eachConnection_unmetered {f : Connection → Act Connection} {cs : List Connection}
    (hf : ∀ c, Prog.Asks Effect.OfConnection (f c)) :
    Prog.Asks Effect.Unmetered (eachConnection f cs) := by
  induction cs with
  | nil => exact Act.asks_pure
  | cons c rest ih => simp [eachConnection, (hf c).unmetered, ih]

@[simp] theorem pollAll_unmetered : Prog.Asks Effect.Unmetered (r.pollAll now) := by
  simp [pollAll, eachConnection_unmetered]

@[simp] theorem releaseAll_unmetered : Prog.Asks Effect.Unmetered r.releaseAll := by
  have hone (c : Connection) : Prog.Asks Effect.OfConnection
      (if c.handle.isSome || c.state ≠ .init then c.abandon "radio_off" else return c) := by
    split <;> simp
  simp only [releaseAll, Act.asks_bind, Act.asks_pure, implies_true, and_true]
  exact eachConnection_unmetered hone

@[simp] theorem dispatch_unmetered {event : TransportEvent} :
    Prog.Asks Effect.Unmetered (r.dispatch event now) := by
  simp only [dispatch]
  split
  next => simp
  next c _ =>
    simp only [Act.asks_bind, Connection.applyEvent_own.unmetered, true_and]
    rintro ⟨outcome, d⟩ -
    cases outcome with
    | handled | ignored => exact Act.asks_pure
    | request chunk =>
      simp only [enqueue]
      split <;> simp

@[simp] theorem dispatchAll_unmetered {events : List TransportEvent} :
    Prog.Asks Effect.Unmetered (r.dispatchAll events now) := by
  induction events generalizing r with
  | nil => exact Act.asks_pure
  | cons event rest ih => simp [dispatchAll, ih]

@[simp] theorem pump_unmetered : Prog.Asks Effect.Unmetered (r.pump now) := by
  simp [pump]

theorem answerRequests_unmetered {handler : String → Act (Option String)}
    (hhandler : ∀ request, Prog.Asks Effect.Unmetered (handler request)) :
    Prog.Asks Effect.Unmetered (r.answerRequests handler) := by
  have hrespond (c : Connection) (reply : String) :
      Prog.Asks Effect.Unmetered (c.respond reply) := by
    simp only [Connection.respond]
    split
    next => exact Act.asks_pure
    next =>
      simp only [Act.asks_bind, Act.asks_net, Effect.Unmetered, true_and]
      rintro answer -
      cases answer <;> simp
  have hone (id : ConnId) (request : String) :
      Prog.Asks Effect.Unmetered (r.answerOne handler id request) := by
    simp only [answerOne]
    split
    next => exact Act.asks_pure
    next =>
      split
      next => simp
      next =>
        simp only [Act.asks_bind, Act.asks_count, Effect.Unmetered, hhandler, true_and]
        rintro - - reply -
        cases reply <;> simp [hrespond]
  have heach (requests : List (ConnId × String)) :
      Prog.Asks Effect.Unmetered (r.answerEach handler requests) := by
    induction requests with
    | nil => exact Act.asks_pure
    | cons pair rest ih => simp [answerEach, hone, ih]
  simp [answerRequests, heach]

@[simp] theorem awaitDns_unmetered {id : ConnId} :
    Prog.Asks Effect.Unmetered (r.awaitDns id now) := by
  have hgiveUp (r : Registry) (waitedMs : Nat) :
      Prog.Asks Effect.Unmetered (r.giveUpDns id waitedMs) := by
    simp only [giveUpDns]
    split
    next => exact Act.asks_pure
    next => split <;> simp [Connection.abandon_own.unmetered]
  have hslices (slices waitedMs : Nat) (r : Registry) :
      Prog.Asks Effect.Unmetered (awaitSlices id now slices waitedMs r) := by
    induction slices generalizing waitedMs r with
    | zero => exact hgiveUp r waitedMs
    | succ slices ih =>
      simp only [awaitSlices]
      split <;> simp [ih]
  exact hslices _ _ _

end Registry

/-! ## Uploads -/

namespace Uploader

variable {u : Uploader} {b : Batch} {c : Connection} {channels : List MeterChannel}

@[simp] theorem giveUp_unmetered {cause : UploadError} :
    Prog.Asks Effect.Unmetered (u.giveUp cause c channels) := by
  simp [giveUp]

@[simp] theorem write_unmetered : Prog.Asks Effect.Unmetered (u.write b c channels now) := by
  simp only [write, Act.asks_bind, Connection.post_own.unmetered, true_and]
  rintro d -
  split <;> simp

@[simp] theorem proceed_unmetered : Prog.Asks Effect.Unmetered (u.proceed b c channels now) := by
  simp only [proceed]
  split
  next =>
    simp only [connectFor]
    split <;> simp [Connection.connect_own.unmetered]
  next => exact write_unmetered
  next =>
    simp only [writeAgain]
    split <;> simp [Connection.abandon_own.unmetered, Connection.resume_own.unmetered]
  next => exact Act.asks_pure

@[simp] theorem frame_unmetered {i : Nat} :
    Prog.Asks Effect.Unmetered (u.frame now i channels) := by
  induction channels generalizing i with
  | nil => exact Act.asks_pure
  | cons c rest ih =>
    simp only [frame]
    split
    · simp [ih]
    · split <;> simp [ih]

@[simp] theorem advance_unmetered : Prog.Asks Effect.Unmetered (u.advance c channels now) := by
  simp only [advance]
  split
  next => exact proceed_unmetered
  next =>
    simp only [Act.asks_bind, frame_unmetered, true_and]
    rintro ⟨found, rest⟩ -
    cases found <;> simp

@[simp] theorem service_unmetered : Prog.Asks Effect.Unmetered (u.service c channels now) := by
  have hcomplete : Prog.Asks Effect.Unmetered (u.complete c channels now) := by
    simp only [complete, evaluate, Act.asks_bind, Connection.finishReply_own.unmetered, true_and]
    rintro ⟨reply, d⟩ -
    split
    · simp
    · split <;> simp
  simp only [service]
  split <;> simp [hcomplete, Connection.abandon_own.unmetered]

end Uploader

/-! ## Devices -/

/-- A source leaves the counting to its entry. -/
theorem Source.read_tallies {source : Source} {supply : Option SupplyReading} {most utcMs : Nat}
    {t : Trace Node} {outcome : ReadOutcome} (h : (source.read supply most utcMs).Ends t outcome) :
    t.tallies = [] :=
  have hasks : Prog.Asks (fun op : Effect => op.tally? = none) (source.read supply most utcMs) :=
    read_asks (fun _ _ => rfl) fun _ _ => rfl
  List.filterMap_eq_nil_iff.2 (hasks.of_mem h)

namespace SpeedController

variable {speed : SpeedController}

@[simp] theorem isDefault_unmetered : Prog.Asks Effect.Unmetered speed.isDefault := by
  simp [isDefault]

@[simp] theorem switchTo_unmetered {mhz : Nat} :
    Prog.Asks Effect.Unmetered (speed.switchTo mhz now) := by
  have haccount : Prog.Asks Effect.Unmetered (speed.account now) := by simp [account]
  simp only [switchTo, Act.asks_bind, Act.asks_cpu, haccount, Effect.Unmetered, true_and]
  rintro source - c - changed -
  split <;> simp

@[simp] theorem setDefault_unmetered : Prog.Asks Effect.Unmetered (speed.setDefault now) := by
  simp only [setDefault, Act.asks_bind, isDefault_unmetered, true_and]
  rintro answer -
  split <;> simp

@[simp] theorem setLow_unmetered {divisor : Nat} :
    Prog.Asks Effect.Unmetered (speed.setLow divisor now) := by
  have htarget : Prog.Asks Effect.Unmetered (speed.lowTarget divisor) := by
    simp only [lowTarget]
    split <;> simp
  simp only [setLow, Act.asks_bind, htarget, true_and]
  rintro target -
  cases target with
  | none => exact Act.asks_pure
  | some target =>
    simp only [Act.asks_bind, Act.asks_cpu, Effect.Unmetered, true_and]
    rintro mhz -
    split <;> simp

end SpeedController

namespace RadioController

variable {r : RadioController}

@[simp] theorem note_unmetered {event : LinkEvent} :
    Prog.Asks Effect.Unmetered (r.note event) := by
  simp only [note]
  split <;> simp

@[simp] theorem isConnected_unmetered : Prog.Asks Effect.Unmetered r.isConnected := by
  have hstatus : Prog.Asks Effect.Unmetered r.linkStatus := by
    simp only [linkStatus]
    split <;> simp
  simp only [isConnected, Act.asks_bind, Act.asks_log, Effect.Unmetered, hstatus, true_and]
  rintro status - - -
  split <;> simp

@[simp] theorem disable_unmetered : Prog.Asks Effect.Unmetered r.disable := by
  simp only [disable]
  split <;> simp

@[simp] theorem joinTries_unmetered {tries left : Nat} {cause : RadioError} :
    Prog.Asks Effect.Unmetered (joinTries tries left cause r) := by
  induction left generalizing r cause with
  | zero => simp [joinTries, giveUp]
  | succ left ih =>
    simp only [joinTries, joinOnce, Act.asks_bind, Act.asks_count, Act.asks_log, Act.asks_radio,
      Act.asks_pure, Effect.Unmetered, implies_true, true_and]
    rintro answer -
    cases answer with
    | ok u => simp
    | error cause =>
      simp only [Act.asks_bind, note_unmetered, Act.asks_log, Effect.Unmetered, true_and]
      rintro r' - - -
      split <;> simp [ih]

@[simp] theorem enable_unmetered {retries : Nat} :
    Prog.Asks Effect.Unmetered (r.enable retries) := by
  have halready : Prog.Asks Effect.Unmetered r.alreadyUp := by
    simp only [alreadyUp]
    split <;> simp
  have hpower (r : RadioController) : Prog.Asks Effect.Unmetered r.powerUp := by
    simp only [powerUp]
    split
    next => simp
    next =>
      simp only [Act.asks_bind, Act.asks_radio, Effect.Unmetered, true_and]
      rintro answer -
      cases answer <;> simp
  simp only [enable, Act.asks_bind, halready, true_and]
  rintro ⟨up, r₁⟩ -
  split
  next => simp
  next =>
    simp only [Act.asks_bind, Act.asks_log, Effect.Unmetered, hpower, true_and]
    rintro - - ⟨powered, r₂⟩ -
    split <;> simp

@[simp] theorem blink_unmetered : Prog.Asks Effect.Unmetered r.blink := by
  simp only [blink]
  split <;> simp

@[simp] theorem measure_unmetered {utcMs : Nat} :
    Prog.Asks Effect.Unmetered (r.measure utcMs) := by
  simp only [measure]
  split
  next => exact Act.asks_pure
  next =>
    simp only [Act.asks_bind, Act.asks_radio, Effect.Unmetered, true_and]
    rintro level -
    cases level <;> simp

@[simp] theorem logStatistics_unmetered : Prog.Asks Effect.Unmetered r.logStatistics := by
  simp [logStatistics]

end RadioController

/-! ## The phases of a tick -/

namespace Scheduler

variable {s : Scheduler} {index : Nat} {atDefault : Bool}

theorem countTick_unmetered : Prog.Asks Effect.Unmetered s.countTick := by
  simp [countTick]

theorem serviceNetwork_unmetered : Prog.Asks Effect.Unmetered (s.serviceNetwork now) := by
  have hserve (indexEnabled : Bool) (request : String) :
      Prog.Asks Effect.Unmetered (Status.serve indexEnabled s.views request) := by
    simp only [Status.serve]
    split <;> simp
  have hanswer (r : Registry) : Prog.Asks Effect.Unmetered (s.answerVisitors r) := by
    simp only [answerVisitors]
    split
    next => exact Act.asks_pure
    next => exact Registry.answerRequests_unmetered fun _ => by simp [hserve]
  rw [serviceNetwork_eq]
  simp [hanswer]

theorem raiseClock_unmetered : Prog.Asks Effect.Unmetered (s.raiseClock now atDefault) := by
  simp only [raiseClock]
  split <;> simp

theorem serviceEntry_unmetered : Prog.Asks Effect.Unmetered (s.serviceEntry index now) := by
  simp only [serviceEntry]
  split
  next => exact Act.asks_pure
  next e _ =>
    split
    next => simp
    next =>
      split
      next => simp
      next c _ =>
        simp only [stepUpload, Entry.service, Act.asks_bind, Uploader.service_unmetered, true_and]
        refine ⟨fun _ _ => Act.asks_pure, ?_⟩
        rintro ⟨progress, e', d⟩ -
        cases progress <;> simp

/-- The second half of a turn counts no reads. -/
theorem sendIfReady_unmetered :
    Prog.Asks Effect.Unmetered (s.sendIfReady index now atDefault) := by
  have hradio (s : Scheduler) : Prog.Asks Effect.Unmetered s.raiseRadio := by
    simp only [raiseRadio, Act.asks_bind, RadioController.isConnected_unmetered, true_and]
    rintro ⟨up, radio⟩ -
    split <;> simp
  have hbegin (s : Scheduler) (conn : ConnId) :
      Prog.Asks Effect.Unmetered (s.beginUpload index conn) := by
    simp only [beginUpload, Act.asks_bind, Act.asks_now, Effect.Unmetered, serviceEntry_unmetered,
      true_and]
    rintro now - s₁ -
    split <;> simp
  simp only [sendIfReady]
  split
  next => exact Act.asks_pure
  next =>
    split
    next => simp [serviceEntry_unmetered]
    next =>
      split
      next => exact Act.asks_pure
      next =>
        simp only [Act.asks_bind, raiseClock_unmetered, hradio, true_and]
        rintro ⟨atDefault', s₁⟩ - ⟨up, s₂⟩ -
        split <;> simp [hbegin]

theorem completeWindow_unmetered : Prog.Asks Effect.Unmetered (s.completeWindow now) := by
  simp only [completeWindow]
  split <;> simp

theorem askRadio_unmetered : Prog.Asks Effect.Unmetered s.askRadio := by
  simp [askRadio]

theorem radioOff_unmetered : Prog.Asks Effect.Unmetered s.radioOff := by
  simp only [radioOff, Act.asks_bind, Registry.releaseAll_unmetered,
    RadioController.disable_unmetered, RadioController.logStatistics_unmetered, Act.asks_now,
    Effect.Unmetered, true_and]
  rintro r - radio - now - - -
  cases s.supply <;> simp

theorem whileUp_unmetered {keep statusTick : Bool} {due : Instant} :
    Prog.Asks Effect.Unmetered (s.whileUp keep statusTick due) := by
  have hmeasure : Prog.Asks Effect.Unmetered (s.measureSupply statusTick) := by
    simp only [measureSupply, Act.asks_bind, Act.asks_now, Effect.Unmetered,
      RadioController.measure_unmetered, true_and]
    rintro now - reading -
    cases reading with
    | none => exact Act.asks_pure
    | some reading =>
      simp only
      split <;> simp
  have hresync (s : Scheduler) : Prog.Asks Effect.Unmetered s.resyncTime := by
    have hlog (utc : Nat) (now : Instant) :
        Prog.Asks Effect.Unmetered (s.time.logComparison utc now) := by
      simp only [TimeSync.logComparison]
      split
      · simp
      · split <;> simp
    simp only [resyncTime, TimeSync.compare, Act.asks_bind, Act.asks_utc, Act.asks_now, hlog,
      Act.asks_pure, Effect.Unmetered, implies_true, true_and]
    rintro utc - now - ⟨correction, time⟩ -
    cases correction <;> simp
  simp only [whileUp, Act.asks_bind, RadioController.blink_unmetered, hmeasure, true_and]
  rintro _ - s₁ -
  split
  all_goals
    simp only [Act.asks_bind, Act.asks_pure, hresync, true_and]
    rintro s₂ -
    split <;> simp [radioOff_unmetered]

theorem tendRadio_unmetered {keep statusTick : Bool} {due : Instant} :
    Prog.Asks Effect.Unmetered (s.tendRadio keep atDefault statusTick due) := by
  simp only [tendRadio]
  split
  next => exact Act.asks_pure
  next =>
    simp only [Act.asks_bind, askRadio_unmetered, true_and]
    rintro ⟨up, s₁⟩ -
    simp only
    split <;> simp [whileUp_unmetered]

theorem lowerClock_unmetered : Prog.Asks Effect.Unmetered (s.lowerClock atDefault) := by
  simp only [lowerClock]
  split
  next => exact Act.asks_pure
  next =>
    simp only [Act.asks_bind, askRadio_unmetered, true_and]
    rintro ⟨up, s₁⟩ -
    simp only
    split <;> simp

theorem report_unmetered {due : Instant} {up : Bool} :
    Prog.Asks Effect.Unmetered (s.report due up) := by
  have hheap {s : Scheduler} : Prog.Asks Effect.Unmetered s.logHeap := by
    simp only [logHeap]
    split <;> simp
  have hchannels (protocol : String) (cs : List MeterChannel) :
      Prog.Asks Effect.Unmetered (logChannels protocol cs) := by
    induction cs with
    | nil => exact Act.asks_pure
    | cons c rest ih => simp [logChannels, ih]
  have hentries (es : List Entry) : Prog.Asks Effect.Unmetered (logEntries es) := by
    induction es with
    | nil => exact Act.asks_pure
    | cons e rest ih => simp [logEntries, hchannels, ih]
  simp only [report]
  split
  next => simp [logStatus, SpeedController.account, logUploads, hheap, hentries]
  next => exact Act.asks_pure

end Scheduler

end MeterNode
