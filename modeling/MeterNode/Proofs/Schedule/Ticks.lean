import MeterNode.Proofs.Schedule.Runs
import MeterNode.Proofs.Upload.Failures

/-!
# Ticks, phase by phase

`Scheduler.Passed` takes a tick apart: it has the states between the phases and what was asked for
in each of them, with one trace for every turn (`Scheduler.Turns`).  Every tick has such a passage
(`tick_passed`), and every passage is a tick (`Passed.ends`).

A `Course` is a run of a node from the moment it was put together: its whole trace and a log of its
ticks, the latest first.  The radio is off at first, or has joined the network already.

The lemmas `..._kinds` say what the phases ask for.
-/

namespace MeterNode

/-! ## What the phases ask for -/

section Kinds

variable {kinds : List Effect.Kind} {now : Instant}

namespace Registry

variable {r : Registry}

theorem eachConnection_kinds {f : Connection → Act Connection} {cs : List Connection}
    (hf : ∀ c, Prog.Asks (Effect.Of kinds) (f c)) :
    Prog.Asks (Effect.Of kinds) (eachConnection f cs) := by
  induction cs with
  | nil => exact Act.asks_pure
  | cons c rest ih => simp [eachConnection, hf, ih]

theorem pollAll_kinds (h : [.note, .socket] ⊆ kinds) :
    Prog.Asks (Effect.Of kinds) (r.pollAll now) := by
  simp only [pollAll, Act.asks_bind, Act.asks_pure, implies_true, and_true]
  exact eachConnection_kinds fun c => by simp [Connection.checkTimeout_kinds h]

theorem releaseAll_kinds (h : [.note, .socket] ⊆ kinds) :
    Prog.Asks (Effect.Of kinds) r.releaseAll := by
  simp only [releaseAll, Act.asks_bind, Act.asks_pure, implies_true, and_true]
  refine eachConnection_kinds fun c => ?_
  split <;> simp [Connection.abandon_kinds h]

theorem answerRequests_kinds {handler : String → Act (Option String)} (h : [.note, .send] ⊆ kinds)
    (hhandler : ∀ request, Prog.Asks (Effect.Of kinds) (handler request)) :
    Prog.Asks (Effect.Of kinds) (r.answerRequests handler) := by
  obtain ⟨hnote, hsend⟩ : .note ∈ kinds ∧ .send ∈ kinds := by simpa using h
  have hrespond (c : Connection) (reply : String) :
      Prog.Asks (Effect.Of kinds) (c.respond reply) := by
    simp only [Connection.respond]
    split
    next => exact Act.asks_pure
    next =>
      simp only [Act.asks_bind, Act.asks_net, Effect.Of, Effect.kind, hsend, true_and]
      rintro answer -
      cases answer <;> simp [hnote]
  have hone (id : ConnId) (request : String) :
      Prog.Asks (Effect.Of kinds) (r.answerOne handler id request) := by
    simp only [answerOne]
    split
    next => exact Act.asks_pure
    next c _ =>
      split
      next => simp [hnote]
      next =>
        simp only [Act.asks_bind, Act.asks_count, Effect.Of, Effect.kind, Tally.isFailure, hnote,
          Bool.false_eq_true, if_false, hhandler, true_and]
        rintro - - reply -
        cases reply <;> simp [hrespond]
  have heach (requests : List (ConnId × String)) :
      Prog.Asks (Effect.Of kinds) (r.answerEach handler requests) := by
    induction requests with
    | nil => exact Act.asks_pure
    | cons pair rest ih => simp [answerEach, hone, ih]
  simp [answerRequests, heach]

theorem getOrCreate_kinds {url : String} (h : [.note, .socket, .dial] ⊆ kinds) :
    Prog.Asks (Effect.Of kinds) (r.getOrCreate url) := by
  obtain ⟨hnote, -⟩ : .note ∈ kinds ∧ .socket ∈ kinds ∧ .dial ∈ kinds := by simpa using h
  simp only [getOrCreate]
  split
  next => simp [hnote]
  next =>
    split
    next => simp [hnote]
    next =>
      split
      next => exact Act.asks_pure
      next =>
        simp only [Act.asks_bind, Connection.openHandle_kinds h, true_and]
        rintro ⟨result, c⟩ -
        cases result <;> simp [hnote]

theorem addCollector_kinds {url : String} (h : [.note, .socket, .dial] ⊆ kinds) :
    Prog.Asks (Effect.Of kinds) (r.addCollector url) := by
  simp only [addCollector, Act.asks_bind, getOrCreate_kinds h, true_and]
  rintro ⟨result, r⟩ -
  cases result with
  | error cause => exact Act.asks_pure
  | ok id =>
    simp only
    split <;> exact Act.asks_pure

theorem startServer_kinds {port : Nat} (h : [.note, .socket] ⊆ kinds) :
    Prog.Asks (Effect.Of kinds) (r.startServer port) := by
  obtain ⟨hnote, hsocket⟩ : .note ∈ kinds ∧ .socket ∈ kinds := by simpa using h
  simp only [startServer]
  split
  next => exact Act.asks_pure
  next =>
    split
    next => exact Act.asks_pure
    next =>
      simp only [Act.asks_bind, Act.asks_net, Effect.Of, Effect.kind, hsocket, true_and]
      rintro answer -
      cases answer <;> simp [hnote]

end Registry

namespace NodeSetup

theorem connectEach_kinds {sources : List SourceSetup} {r : Registry}
    (h : [.note, .socket, .dial] ⊆ kinds) :
    Prog.Asks (Effect.Of kinds) (connectEach sources r) := by
  induction sources generalizing r with
  | nil => exact Act.asks_pure
  | cons source rest ih =>
    simp only [connectEach, Act.asks_bind, Registry.addCollector_kinds h, true_and]
    rintro ⟨result, r⟩ -
    cases result <;> simp [ih]

theorem startServer_kinds {setup : NodeSetup} {r : Registry} (h : [.note, .socket] ⊆ kinds) :
    Prog.Asks (Effect.Of kinds) (setup.startServer r) := by
  simp only [startServer]
  split <;> simp [Registry.startServer_kinds h]

end NodeSetup

theorem Status.serve_kinds {indexEnabled : Bool} {views : List ChannelView} {request : String}
    (h : [.note] ⊆ kinds) :
    Prog.Asks (Effect.Of kinds) (Status.serve indexEnabled views request) := by
  have hnote : .note ∈ kinds := by simpa using h
  simp only [serve]
  split <;> simp [hnote]

namespace Scheduler

variable {s : Scheduler} {index : Nat} {atDefault : Bool} {e : Entry}

theorem openEntries_kinds {es : List Entry} (h : [.note, .input] ⊆ kinds) :
    Prog.Asks (Effect.Of kinds) (openEntries es) := by
  obtain ⟨hnote, hinput⟩ : .note ∈ kinds ∧ .input ∈ kinds := by simpa using h
  have hopen (e : Entry) : Prog.Asks (Effect.Of kinds) e.openEntry := by
    have hsource : Prog.Asks (Effect.Of kinds) e.source.openSource := by
      cases e.source with
      | adc m =>
        simp only [Source.openSource, AdcMeter.openMeter]
        split <;> simp [hinput]
      | selfMonitor m => exact Act.asks_pure
      | external m => simp [Source.openSource, hinput]
    simp only [Entry.openEntry]
    split
    next => exact Act.asks_pure
    next =>
      simp only [Act.asks_bind, hsource, true_and]
      rintro ⟨result, source⟩ -
      cases result <;> exact Act.asks_pure
  induction es with
  | nil => exact Act.asks_pure
  | cons e rest ih =>
    simp only [openEntries, Act.asks_bind, hopen, true_and]
    rintro ⟨result, e'⟩ -
    cases result <;> simp [hnote, ih]

theorem start_kinds (h : [.note, .time, .input] ⊆ kinds) : Prog.Asks (Effect.Of kinds) s.start := by
  obtain ⟨hnote, htime, hinput⟩ : .note ∈ kinds ∧ .time ∈ kinds ∧ .input ∈ kinds := by
    simpa using h
  simp only [start]
  split
  next => exact Act.asks_pure
  next => simp [openEntries_kinds, hnote, htime, hinput]

theorem countTick_kinds (h : [.note] ⊆ kinds) : Prog.Asks (Effect.Of kinds) s.countTick := by
  simpa [countTick, Tally.isFailure] using h

theorem answerVisitors_kinds {r : Registry} (h : [.note, .send] ⊆ kinds) :
    Prog.Asks (Effect.Of kinds) (s.answerVisitors r) := by
  obtain ⟨hnote, hsend⟩ : .note ∈ kinds ∧ .send ∈ kinds := by simpa using h
  simp only [answerVisitors]
  split
  next => exact Act.asks_pure
  next => exact Registry.answerRequests_kinds h fun _ => by simp [Status.serve_kinds, hnote]

theorem serviceNetwork_kinds (h : [.note, .socket, .dial, .reports, .send] ⊆ kinds) :
    Prog.Asks (Effect.Of kinds) (s.serviceNetwork now) := by
  obtain ⟨hnote, hsocket, hdial, hreports, hsend⟩ : .note ∈ kinds ∧ .socket ∈ kinds ∧
    .dial ∈ kinds ∧ .reports ∈ kinds ∧ .send ∈ kinds := by simpa using h
  have hpump : Prog.Asks (Effect.Of kinds) (s.registry.pump now) :=
    Registry.pump_kinds (by simp [hnote, hsocket, hdial, hreports])
  rw [serviceNetwork_eq]
  simp [hpump, answerVisitors_kinds, Registry.pollAll_kinds, hnote, hsocket, hsend]

theorem serviceEntry_kinds (h : [.note, .failure, .socket, .dial, .send] ⊆ kinds) :
    Prog.Asks (Effect.Of kinds) (s.serviceEntry index now) := by
  obtain ⟨hnote, -⟩ : .note ∈ kinds ∧ .failure ∈ kinds ∧ .socket ∈ kinds ∧ .dial ∈ kinds ∧
    .send ∈ kinds := by simpa using h
  simp only [serviceEntry]
  split
  next => exact Act.asks_pure
  next e _ =>
    split
    next => simp [hnote]
    next =>
      split
      next => simp [hnote]
      next c _ =>
        simp only [stepUpload, Entry.service, Act.asks_bind, Uploader.service_kinds h, true_and]
        refine ⟨fun _ _ => Act.asks_pure, ?_⟩
        rintro ⟨progress, e', d⟩ -
        cases progress <;> simp [hnote]

theorem beginUpload_kinds {conn : ConnId}
    (h : [.note, .failure, .time, .socket, .dial, .send, .reports] ⊆ kinds) :
    Prog.Asks (Effect.Of kinds) (s.beginUpload index conn) := by
  obtain ⟨hnote, hfailure, htime, hsocket, hdial, hsend, hreports⟩ : .note ∈ kinds ∧
    .failure ∈ kinds ∧ .time ∈ kinds ∧ .socket ∈ kinds ∧ .dial ∈ kinds ∧ .send ∈ kinds ∧
    .reports ∈ kinds := by simpa using h
  have hstep {s : Scheduler} {now : Instant} :
      Prog.Asks (Effect.Of kinds) (s.serviceEntry index now) :=
    serviceEntry_kinds (by simp [hnote, hfailure, hsocket, hdial, hsend])
  simp only [beginUpload, Act.asks_bind, Act.asks_now, Effect.Of, Effect.kind, htime, hstep,
    true_and]
  rintro now - s₁ -
  split <;> simp [Registry.awaitDns_kinds, hnote, htime, hsocket, hdial, hreports]

theorem completeWindow_kinds (h : [.note] ⊆ kinds) :
    Prog.Asks (Effect.Of kinds) (s.completeWindow now) := by
  have hnote : .note ∈ kinds := by simpa using h
  simp only [completeWindow]
  split <;> simp [hnote]

theorem askRadio_kinds (h : [.note, .time, .link] ⊆ kinds) :
    Prog.Asks (Effect.Of kinds) s.askRadio := by
  simp [askRadio, RadioController.isConnected_kinds h]

theorem logStatistics_kinds {radio : RadioController} (h : [.note] ⊆ kinds) :
    Prog.Asks (Effect.Of kinds) radio.logStatistics := by
  simpa [RadioController.logStatistics] using h

theorem measureSupply_kinds {logIt : Bool} (h : [.note, .time, .radio] ⊆ kinds) :
    Prog.Asks (Effect.Of kinds) (s.measureSupply logIt) := by
  obtain ⟨hnote, htime, hradio⟩ : .note ∈ kinds ∧ .time ∈ kinds ∧ .radio ∈ kinds := by simpa using h
  have hmeasure {utcMs : Nat} : Prog.Asks (Effect.Of kinds) (s.radio.measure utcMs) :=
    RadioController.measure_kinds (by simp [hnote, hradio])
  simp only [measureSupply, Act.asks_bind, Act.asks_now, Effect.Of, Effect.kind, htime, hmeasure,
    true_and]
  rintro now - reading -
  cases reading with
  | none => exact Act.asks_pure
  | some reading =>
    simp only
    split <;> simp [hnote]

theorem resyncTime_kinds (h : [.note, .time] ⊆ kinds) :
    Prog.Asks (Effect.Of kinds) s.resyncTime := by
  obtain ⟨hnote, htime⟩ : .note ∈ kinds ∧ .time ∈ kinds := by simpa using h
  have hcompare {utc : Nat} {now : Instant} :
      Prog.Asks (Effect.Of kinds) (s.time.compare utc now) := by
    have hlog : Prog.Asks (Effect.Of kinds) (s.time.logComparison utc now) := by
      simp only [TimeSync.logComparison]
      split
      · simp [hnote]
      · split <;> simp [hnote]
    simp [TimeSync.compare, hlog]
  simp only [resyncTime, Act.asks_bind, Act.asks_utc, Act.asks_now, Effect.Of, Effect.kind, htime,
    hcompare, true_and]
  rintro utc - now - ⟨correction, time⟩ -
  cases correction <;> simp [hnote, Tally.isFailure]

theorem radioOff_kinds (h : [.note, .time, .socket, .radio] ⊆ kinds) :
    Prog.Asks (Effect.Of kinds) s.radioOff := by
  obtain ⟨hnote, htime, hsocket, hradio⟩ : .note ∈ kinds ∧ .time ∈ kinds ∧ .socket ∈ kinds ∧
    .radio ∈ kinds := by simpa using h
  have hrelease : Prog.Asks (Effect.Of kinds) s.registry.releaseAll :=
    Registry.releaseAll_kinds (by simp [hnote, hsocket])
  have hdisable : Prog.Asks (Effect.Of kinds) s.radio.disable :=
    RadioController.disable_kinds (by simp [hnote, htime, hradio])
  simp only [radioOff, Act.asks_bind, hrelease, hdisable, Act.asks_now, Effect.Of, Effect.kind,
    htime, true_and]
  rintro r - radio - now -
  refine ⟨logStatistics_kinds (by simpa using hnote), fun _ _ => ?_⟩
  cases s.supply <;> simp [hnote]

theorem whileUp_kinds {keep statusTick : Bool} {due : Instant}
    (h : [.note, .time, .socket, .radio] ⊆ kinds) :
    Prog.Asks (Effect.Of kinds) (s.whileUp keep statusTick due) := by
  obtain ⟨hnote, htime, -, hradio⟩ : .note ∈ kinds ∧ .time ∈ kinds ∧ .socket ∈ kinds ∧
    .radio ∈ kinds := by simpa using h
  have hblink : Prog.Asks (Effect.Of kinds) s.radio.blink :=
    RadioController.blink_kinds (by simp [htime, hradio])
  have hmeasure : Prog.Asks (Effect.Of kinds) (s.measureSupply statusTick) :=
    measureSupply_kinds (by simp [hnote, htime, hradio])
  have hresync {s : Scheduler} : Prog.Asks (Effect.Of kinds) s.resyncTime :=
    resyncTime_kinds (by simp [hnote, htime])
  simp only [whileUp, Act.asks_bind, hblink, hmeasure, true_and]
  rintro _ - s₁ -
  split
  all_goals
    simp only [Act.asks_bind, Act.asks_pure, hresync, true_and]
    rintro s₂ -
    split <;> simp [radioOff_kinds h]

theorem tendRadio_kinds {keep statusTick : Bool} {due : Instant}
    (h : [.note, .time, .socket, .link, .radio] ⊆ kinds) :
    Prog.Asks (Effect.Of kinds) (s.tendRadio keep atDefault statusTick due) := by
  obtain ⟨hnote, htime, hsocket, hlink, hradio⟩ : .note ∈ kinds ∧ .time ∈ kinds ∧
    .socket ∈ kinds ∧ .link ∈ kinds ∧ .radio ∈ kinds := by simpa using h
  simp only [tendRadio]
  split
  next => exact Act.asks_pure
  next =>
    have hask : Prog.Asks (Effect.Of kinds) s.askRadio :=
      askRadio_kinds (by simp [hnote, htime, hlink])
    simp only [Act.asks_bind, hask, true_and]
    rintro ⟨up, s₁⟩ -
    simp only
    split <;> simp [whileUp_kinds, hnote, htime, hsocket, hradio]

theorem lowerClock_kinds (h : [.note, .time, .link, .clock, .processor] ⊆ kinds) :
    Prog.Asks (Effect.Of kinds) (s.lowerClock atDefault) := by
  obtain ⟨hnote, htime, hlink, hclock, hprocessor⟩ : .note ∈ kinds ∧ .time ∈ kinds ∧
    .link ∈ kinds ∧ .clock ∈ kinds ∧ .processor ∈ kinds := by simpa using h
  simp only [lowerClock]
  split
  next => exact Act.asks_pure
  next =>
    have hask : Prog.Asks (Effect.Of kinds) s.askRadio :=
      askRadio_kinds (by simp [hnote, htime, hlink])
    simp only [Act.asks_bind, hask, true_and]
    rintro ⟨up, s₁⟩ -
    simp only
    split <;> simp [SpeedController.setLow_kinds, hnote, htime, hclock, hprocessor]

theorem logStatus_kinds {due : Instant} {up : Bool}
    (h : [.note, .time, .processor, .input] ⊆ kinds) :
    Prog.Asks (Effect.Of kinds) (s.logStatus due up) := by
  obtain ⟨hnote, htime, hprocessor, hinput⟩ : .note ∈ kinds ∧ .time ∈ kinds ∧ .processor ∈ kinds ∧
    .input ∈ kinds := by simpa using h
  have hheap {s : Scheduler} : Prog.Asks (Effect.Of kinds) s.logHeap := by
    simp only [logHeap]
    split <;> simp [hnote, hinput]
  have hchannels (protocol : String) (cs : List MeterChannel) :
      Prog.Asks (Effect.Of kinds) (logChannels protocol cs) := by
    induction cs with
    | nil => exact Act.asks_pure
    | cons c rest ih => simp [logChannels, hnote, ih]
  have hentries (es : List Entry) : Prog.Asks (Effect.Of kinds) (logEntries es) := by
    induction es with
    | nil => exact Act.asks_pure
    | cons e rest ih => simp [logEntries, hchannels, ih]
  simp [logStatus, SpeedController.account, SpeedController.isDefault, logUploads, hheap, hentries,
    logStatistics_kinds, hnote, htime, hprocessor]

end Scheduler

end Kinds

namespace Scheduler

variable {s s' : Scheduler} {index : Nat} {now : Instant} {atDefault keep : Bool} {t : Trace Node}

/-! ## Taking a tick apart -/

/-- Some entries have their turns, with the trace of each.  The answer says whether any of them
needs the radio and whether the processor runs at its default frequency. -/
inductive Turns (now : Instant) : List Nat → Bool → Bool → Scheduler → List (Trace Node) →
    Bool × Bool × Scheduler → Prop where
  | nil (keep atDefault : Bool) (s : Scheduler) :
      Turns now [] keep atDefault s [] (keep, atDefault, s)
  | cons {index : Nat} {rest : List Nat} {keep atDefault needs atDefault' : Bool} {s s' : Scheduler}
      {t : Trace Node} {ts : List (Trace Node)} {res : Bool × Bool × Scheduler} :
      (s.turn index now atDefault).Ends t (needs, atDefault', s') →
      Turns now rest (keep || needs) atDefault' s' ts res →
      Turns now (index :: rest) keep atDefault s (t :: ts) res

theorem serveEntries_ends {indices : List Nat} {res : Bool × Bool × Scheduler} :
    (serveEntries now indices keep atDefault s).Ends t res ↔
      ∃ ts, Turns now indices keep atDefault s ts res ∧ t = ts.flatten := by
  constructor
  · intro h
    induction indices generalizing s keep atDefault t with
    | nil =>
      obtain ⟨rfl, rfl⟩ := Prog.ends_pure.1 h
      exact ⟨[], .nil keep atDefault s, rfl⟩
    | cons index rest ih =>
      rw [serveEntries_cons] at h
      obtain ⟨t₁, ⟨needs, atDefault', s'⟩, t₂, h₁, h₂, rfl⟩ := Prog.ends_bind.1 h
      obtain ⟨ts, hts, rfl⟩ := ih h₂
      exact ⟨t₁ :: ts, .cons h₁ hts, rfl⟩
  · rintro ⟨ts, hts, rfl⟩
    induction hts with
    | nil => exact Prog.ends_pure.2 ⟨rfl, rfl⟩
    | cons hturn _ ih =>
      rw [serveEntries_cons]
      exact hturn.bind ih

/-- The last phase of a tick: every so many ticks the state of the node is logged. -/
def report (s : Scheduler) (due : Instant) (up : Bool) : Act Scheduler :=
  if s.isStatusTick then s.logStatus due up else pure s

theorem report_gives {due : Instant} {up : Bool} (h : (s.report due up).Gives s') :
    ∃ speed, s' = { s with speed } ∧ speed.defaultMhz = s.speed.defaultMhz := by
  simp only [report] at h
  split at h
  next => exact logStatus_gives h
  next => exact ⟨s.speed, Act.gives_pure.1 h, rfl⟩

theorem report_kinds {kinds : List Effect.Kind} {due : Instant} {up : Bool}
    (h : [.note, .time, .processor, .input] ⊆ kinds) :
    Prog.Asks (Effect.Of kinds) (s.report due up) := by
  simp only [report]
  split
  next => exact logStatus_kinds h
  next => exact Act.asks_pure

/-- A tick ends with its report. -/
theorem report_ends {due : Instant} {up : Bool} {summary summary' : TickReport} :
    Prog.Ends (S := Node) (if s.isStatusTick then
        do return (summary, ← s.logStatus due up)
      else do return (summary, ← pure s)) t (summary', s') ↔
      (s.report due up).Ends t s' ∧ summary' = summary := by
  have hform : (if s.isStatusTick then do return (summary, ← s.logStatus due up)
      else do return (summary, ← pure s) : Act (TickReport × Scheduler)) =
      (do return (summary, ← s.report due up)) := by
    rw [report]
    split <;> rfl
  rw [hform, Prog.ends_bind_pure]
  constructor
  · rintro ⟨s₁, h, heq⟩
    cases heq
    exact ⟨h, rfl⟩
  · rintro ⟨h, rfl⟩
    exact ⟨s', h, rfl⟩

/-- The phases of a tick that began at a time, with the traces of the turns. -/
inductive Passed (s : Scheduler) (now : Instant) :
    List (Trace Node) → Trace Node → TickReport × Scheduler → Prop where
  | intro {s₁ s₂ s₃ s₄ s₅ s₆ s₇ : Scheduler} {atDefault atDefault₁ atDefault₂ keep up : Bool}
      {tcount tnetwork tclock twindow tradio tlower treport : Trace Node}
      {turns : List (Trace Node)} :
      s.countTick.Ends tcount s₁ →
      (s₁.serviceNetwork now).Ends tnetwork s₂ →
      s₂.speed.isDefault.Ends tclock atDefault →
      Turns now (List.range s₂.entries.length) false atDefault s₂ turns (keep, atDefault₁, s₃) →
      (s₃.completeWindow now).Ends twindow s₄ →
      (s₄.tendRadio keep atDefault₁ s₄.isStatusTick (s₄.nextDue now)).Ends tradio (up, s₅) →
      (s₅.lowerClock atDefault₁).Ends tlower (atDefault₂, s₆) →
      (s₆.report (s₄.nextDue now) up).Ends treport s₇ →
      Passed s now turns
        (tcount ++ (tnetwork ++ (tclock ++ (turns.flatten ++
          (twindow ++ (tradio ++ (tlower ++ treport)))))))
        (⟨s₄.nextDue now, up, atDefault₂⟩, s₇)

/-- Every tick passes through its phases. -/
theorem tick_passed {res : TickReport × Scheduler} (h : s.tick.Ends t res) :
    ∃ now turns t', t = ⟨.now, now⟩ :: t' ∧ Passed s now turns t' res := by
  obtain ⟨t₀, now, u₀, h₀, k₀, rfl⟩ := Prog.ends_bind.1 h
  obtain ⟨t₁, s₁, u₁, h₁, k₁, rfl⟩ := Prog.ends_bind.1 k₀
  obtain ⟨t₂, s₂, u₂, h₂, k₂, rfl⟩ := Prog.ends_bind.1 k₁
  obtain ⟨t₃, atDefault, u₃, h₃, k₃, rfl⟩ := Prog.ends_bind.1 k₂
  obtain ⟨t₄, ⟨keep, atDefault₁, s₃⟩, u₄, h₄, k₄, rfl⟩ := Prog.ends_bind.1 k₃
  obtain ⟨t₅, s₄, u₅, h₅, k₅, rfl⟩ := Prog.ends_bind.1 k₄
  obtain ⟨t₆, ⟨up, s₅⟩, u₆, h₆, k₆, rfl⟩ := Prog.ends_bind.1 k₅
  obtain ⟨t₇, ⟨atDefault₂, s₆⟩, u₇, h₇, k₇, rfl⟩ := Prog.ends_bind.1 k₆
  obtain ⟨turns, hturns, rfl⟩ := serveEntries_ends.1 h₄
  obtain ⟨summary, s₇⟩ := res
  obtain ⟨hreport, rfl⟩ := report_ends.1 k₇
  cases Prog.ends_perform.1 h₀
  exact ⟨now, turns, _, rfl, .intro h₁ h₂ h₃ hturns h₅ h₆ h₇ hreport⟩

/-- What passes through the phases is a tick. -/
theorem Passed.ends {turns : List (Trace Node)} {res : TickReport × Scheduler}
    (h : Passed s now turns t res) : s.tick.Ends (⟨.now, now⟩ :: t) res := by
  cases h with
  | @intro s₁ s₂ s₃ s₄ s₅ s₆ s₇ _ _ atDefault₂ _ up _ _ _ _ _ _ treport _ hcount hnetwork hclock
      hturns hwindow hradio hlower hreport =>
    have hserve := serveEntries_ends.2 ⟨_, hturns, rfl⟩
    have hbegun : Act.now.Ends [⟨.now, now⟩] now := Prog.ends_perform.2 rfl
    exact hbegun.bind (hcount.bind (hnetwork.bind (hclock.bind (hserve.bind (hwindow.bind
      (hradio.bind (hlower.bind (report_ends.2 ⟨hreport, rfl⟩))))))))

/-- The phases of a tick ahead of the turns: the reports of the network, and the question whether
the processor runs at its default frequency. -/
inductive Opened (s : Scheduler) (now : Instant) : Trace Node → Bool → Scheduler → Prop where
  | intro {s₁ s₂ : Scheduler} {atDefault : Bool} {tcount tnetwork tclock : Trace Node} :
      s.countTick.Ends tcount s₁ → (s₁.serviceNetwork now).Ends tnetwork s₂ →
      s₂.speed.isDefault.Ends tclock atDefault →
      Opened s now (tcount ++ (tnetwork ++ tclock)) atDefault s₂

theorem Opened.keeps (h : Opened s now t atDefault s') : s'.entries = s.entries ∧
    s'.supply = s.supply ∧ s'.time = s.time ∧ s'.speed = s.speed ∧ s'.radio = s.radio := by
  cases h with
  | intro hcount hnetwork _ =>
    obtain ⟨ticks, resyncDue, rfl⟩ := countTick_gives hcount.gives
    obtain ⟨_, _, registry, -, -, -, rfl⟩ := serviceNetwork_gives hnetwork.gives
    exact ⟨rfl, rfl, rfl, rfl, rfl⟩

theorem Opened.of (h : Opened s now t atDefault s') :
    t.Of [.note, .socket, .dial, .reports, .send, .processor] := by
  cases h with
  | intro hcount hnetwork hclock =>
    rw [Trace.of_append, Trace.of_append]
    exact ⟨hcount.of (countTick_kinds (by decide)),
      hnetwork.of (serviceNetwork_kinds (by decide)),
      hclock.of (SpeedController.isDefault_kinds (by decide))⟩

/-! ## Courses -/

/-- A tick: when it began, the node before and behind it, what was asked for in it and in each of
its turns, and its report. -/
structure TickLog where
  now : Instant
  before : Scheduler
  turns : List (Trace Node)
  trace : Trace Node
  report : TickReport
  after : Scheduler

/-- A run of a node that was put together, with its trace and its ticks, the latest first.  On the
board, the radio joins before the first tick. -/
inductive Course (setup : NodeSetup) : Trace Node → List TickLog → Scheduler → Prop where
  | built {t : Trace Node} {s : Scheduler} : setup.build.Ends t (.ok s) → Course setup t [] s
  | joined {t t' : Trace Node} {s : Scheduler} {retries : Nat} {up : Bool}
      {radio : RadioController} : setup.build.Ends t (.ok s) →
      (s.radio.enable retries).Ends t' (up, radio) → Course setup (t ++ t') [] { s with radio }
  | start {t t' : Trace Node} {logs : List TickLog} {s : Scheduler}
      {res : Except Fault Unit × Scheduler} : Course setup t logs s → s.start.Ends t' res →
      Course setup (t ++ t') logs res.2
  | tick {t t' : Trace Node} {logs : List TickLog} {s : Scheduler} {now : Instant}
      {turns : List (Trace Node)} {res : TickReport × Scheduler} : Course setup t logs s →
      Passed s now turns t' res →
      Course setup (t ++ ⟨.now, now⟩ :: t') (⟨now, s, turns, t', res.1, res.2⟩ :: logs) res.2

variable {setup : NodeSetup} {logs : List TickLog}

theorem Course.reached (h : Course setup t logs s) : Reached s := by
  induction h with
  | built hbuild => exact .fresh (build_fresh hbuild.gives)
  | joined hbuild =>
    obtain ⟨hplaced, hexchanges, hidle⟩ := build_fresh hbuild.gives
    exact .fresh ⟨hplaced, hexchanges, hidle⟩
  | start _ hstart ih => exact ih.phase (.start hstart.gives)
  | tick _ hpassed ih => exact ih.tick hpassed.ends.gives

/-- Every tick goes on with a course. -/
theorem Course.tick_ends {t' : Trace Node} {res : TickReport × Scheduler}
    (h : Course setup t logs s) (htick : s.tick.Ends t' res) :
    ∃ log, log.before = s ∧ log.report = res.1 ∧ log.after = res.2 ∧
      t' = ⟨.now, log.now⟩ :: log.trace ∧ Course setup (t ++ t') (log :: logs) res.2 := by
  obtain ⟨now, turns, t₁, rfl, hpassed⟩ := tick_passed htick
  exact ⟨_, rfl, rfl, rfl, rfl, h.tick hpassed⟩

/-! ## On the bench -/

/-- A course on a bench: its trace so far, the report of its last tick, the node and the bench. -/
structure Play where
  trace : Trace Node
  report : Option TickReport
  node : Scheduler
  world : Bench.World

/-- Run a program of the node on a bench, and keep its trace. -/
def traced {α : Type} (w : Bench.World) (p : Act α) : Trace Node × α × Bench.World :=
  (p.transcript (fun op w => Bench.World.answer w op) w, w.run p)

theorem traced_ends {α : Type} (w : Bench.World) (p : Act α) :
    p.Ends (traced w p).1 (traced w p).2.1 := Prog.run_ends _ p w

/-- Put a node together on a bench, and start it. -/
def Play.begin (setup : NodeSetup) (w : Bench.World) : Option Play :=
  match traced w setup.build with
  | (t, .ok s, w) =>
      let (t', res, w) := traced w s.start
      some ⟨t ++ t', none, res.2, w⟩
  | (_, .error _, _) => none

/-- Let the node tick, after something has happened to the bench. -/
def Play.tick (x : Play) (change : Bench.World → Bench.World) : Play :=
  let (t, res, w) := traced (change x.world) x.node.tick
  ⟨x.trace ++ t, some res.1, res.2, w⟩

/-- A course with some ticks.  Before each of them something happens to the bench. -/
def play (setup : NodeSetup) (w : Bench.World) (changes : List (Bench.World → Bench.World)) :
    Option Play :=
  (Play.begin setup w).map fun x => changes.foldl Play.tick x

theorem begin_course {w : Bench.World} {x : Play} (h : Play.begin setup w = some x) :
    Course setup x.trace [] x.node ∧ x.report = none := by
  have hbuild := traced_ends w setup.build
  unfold Play.begin at h
  split at h
  next t s w' heq =>
    rw [heq] at hbuild
    cases h
    exact ⟨(Course.built hbuild).start (traced_ends w' s.start), rfl⟩
  next => cases h

/-- What is played is a course, and its last tick is the one that was reported last. -/
theorem play_course {w : Bench.World} {changes : List (Bench.World → Bench.World)} {x : Play}
    (h : play setup w changes = some x) :
    ∃ logs, Course setup x.trace logs x.node ∧ logs.head?.map TickLog.report = x.report := by
  obtain ⟨x₀, hbegin, rfl⟩ := Option.map_eq_some_iff.1 h
  obtain ⟨hcourse, hnone⟩ := begin_course hbegin
  have hfold : ∀ (x : Play) (logs : List TickLog), Course setup x.trace logs x.node →
      logs.head?.map TickLog.report = x.report →
      ∃ logs, Course setup (changes.foldl Play.tick x).trace logs (changes.foldl Play.tick x).node ∧
        logs.head?.map TickLog.report = (changes.foldl Play.tick x).report := by
    clear h
    induction changes with
    | nil => exact fun x logs hcourse hlast => ⟨logs, hcourse, hlast⟩
    | cons change changes ih =>
      intro x logs hcourse _
      obtain ⟨log, -, hreport, -, -, hcourse'⟩ :=
        hcourse.tick_ends (traced_ends (change x.world) x.node.tick)
      exact ih (x.tick change) (log :: logs) hcourse' (congrArg some hreport)
  exact hfold x₀ [] hcourse hnone.symm

/-- A course that is played and one more tick, which leads on to what is played with it. -/
theorem play_tick {w : Bench.World} {changes : List (Bench.World → Bench.World)} {x : Play}
    (h : play setup w changes = some x) (change : Bench.World → Bench.World) :
    ∃ logs t res, Course setup x.trace logs x.node ∧ x.node.tick.Ends t res ∧
      x.tick change = ⟨x.trace ++ t, some res.1, res.2, (x.tick change).world⟩ := by
  obtain ⟨logs, hcourse, -⟩ := play_course h
  exact ⟨logs, _, _, hcourse, traced_ends (change x.world) x.node.tick, rfl⟩

end Scheduler

end MeterNode
