import MeterNode.Proofs.Connection.Loans
import MeterNode.Proofs.Schedule.Ticks
import MeterNode.Proofs.Upload.Dealings

/-!
# Borrowed sockets in a run

The connections of a node hold only sockets that were lent to them (`Trace.Borrows`), from the
moment the node is put together on.  Most phases of a tick make no calls that give a socket back.
The others are the network, the turns of the entries, and the end of all connections when the radio
goes off.
-/

namespace MeterNode

open Connection

namespace NodeSetup

variable {setup : NodeSetup} {r : Registry} {t : Trace Node}

theorem addCollector_borrows {url : String}
    {res : Except RegistryError (ConnId × String) × Registry}
    (h : (r.addCollector url).Ends t res) :
    t.Borrows (Held r.connections) (Held res.2.connections) := by
  obtain ⟨t₁, ⟨result, r₁⟩, t₂, h₁, h₂, rfl⟩ := Prog.ends_bind.1 h
  refine (Registry.getOrCreate_borrows h₁).append ?_
  cases result with
  | error cause =>
    obtain ⟨rfl, rfl⟩ := Prog.ends_pure.1 h₂
    exact Trace.borrows_rest rfl
  | ok id =>
    simp only at h₂
    split at h₂
    next =>
      obtain ⟨rfl, rfl⟩ := Prog.ends_pure.1 h₂
      exact Trace.borrows_rest rfl
    next c hget =>
      obtain ⟨rfl, rfl⟩ := Prog.ends_pure.1 h₂
      exact Registry.borrows_change hget (borrows_same rfl rfl)

theorem connectEach_borrows {sources : List SourceSetup}
    {res : Except RegistryError (List Entry) × Registry} (h : (connectEach sources r).Ends t res) :
    t.Borrows (Held r.connections) (Held res.2.connections) := by
  induction sources generalizing r t res with
  | nil =>
    obtain ⟨rfl, rfl⟩ := Prog.ends_pure.1 h
    exact Trace.borrows_rest rfl
  | cons source rest ih =>
    obtain ⟨t₁, ⟨result, r₁⟩, t₂, h₁, h₂, rfl⟩ := Prog.ends_bind.1 h
    refine (addCollector_borrows h₁).append ?_
    cases result with
    | error cause =>
      obtain ⟨rfl, rfl⟩ := Prog.ends_pure.1 h₂
      exact Trace.borrows_rest rfl
    | ok found =>
      obtain ⟨res', hrest, rfl⟩ := Prog.ends_bind_pure.1 h₂
      exact (ih hrest :)

theorem startServer_borrows {res : Except RegistryError Unit × Registry}
    (h : (setup.startServer r).Ends t res) :
    t.Borrows (Held r.connections) (Held res.2.connections) := by
  simp only [startServer] at h
  split at h
  next =>
    obtain ⟨rfl, rfl⟩ := Prog.ends_pure.1 h
    exact Trace.borrows_rest rfl
  next =>
    obtain ⟨res', hserver, rfl⟩ := Prog.ends_bind_pure.1 h
    exact Registry.startServer_borrows hserver

theorem finish_kinds {kinds : List Effect.Kind} {entries : List Entry}
    (h : [.time, .processor] ⊆ kinds) : Prog.Asks (Effect.Of kinds) (setup.finish entries r) := by
  obtain ⟨htime, hprocessor⟩ : .time ∈ kinds ∧ .processor ∈ kinds := by simpa using h
  simp only [finish, Act.asks_bind, Act.asks_now, Effect.Of, Effect.kind, htime, true_and]
  rintro now -
  split
  next => exact Act.asks_pure
  next => simp [RadioController.new, SpeedController.new, htime, hprocessor]

theorem finish_gives {entries : List Entry} {s : Scheduler}
    (h : (setup.finish entries r).Gives (.ok s)) : s.registry = r := by
  obtain ⟨now, -, h⟩ := Act.gives_bind.1 h
  split at h
  next => cases Act.gives_pure.1 h
  next =>
    simp only [Act.gives_bind, Act.gives_pure] at h
    obtain ⟨radio, -, speed, -, hs⟩ := h
    cases hs
    rfl

end NodeSetup

namespace Scheduler

variable {s s' : Scheduler} {index : Nat} {now : Instant} {atDefault keep : Bool} {t : Trace Node}
  {kinds : List Effect.Kind}

/-- One of the connections of the node holds a socket. -/
def Holds (s : Scheduler) : Handle → Prop := Held s.registry.connections

/-- A node that was just put together holds only what was lent to it. -/
theorem build_borrows {setup : NodeSetup} (h : setup.build.Ends t (.ok s)) :
    t.Borrows (fun _ => False) s.Holds := by
  obtain ⟨t₁, ⟨result, r⟩, t₂, h₁, h₂, rfl⟩ := Prog.ends_bind.1 h
  have hconnected := (NodeSetup.connectEach_borrows h₁).widen fun _ => held_nil
  refine hconnected.append ?_
  cases result with
  | error cause => cases (Prog.ends_pure.1 h₂).2
  | ok entries =>
    obtain ⟨t₃, ⟨result, r₁⟩, t₄, h₃, h₄, rfl⟩ := Prog.ends_bind.1 h₂
    refine (NodeSetup.startServer_borrows h₃).append ?_
    cases result with
    | error cause => cases (Prog.ends_pure.1 h₄).2
    | ok u =>
      rw [Holds, NodeSetup.finish_gives h₄.gives]
      exact (h₄.of (NodeSetup.finish_kinds (List.Subset.refl _))).borrows (by decide)

/-- A phase that gives no sockets back and leaves the connections alone. -/
theorem borrows_still (hof : t.Of kinds) (hsocket : .socket ∉ kinds)
    (hregistry : s'.registry = s.registry) : t.Borrows s.Holds s'.Holds := by
  have hholds : s'.Holds = s.Holds := congrArg (fun r : Registry => Held r.connections) hregistry
  rw [hholds]
  exact hof.borrows hsocket

theorem start_borrows {res : Except Fault Unit × Scheduler} (h : s.start.Ends t res) :
    t.Borrows s.Holds res.2.Holds :=
  borrows_still (h.of (start_kinds (List.Subset.refl _))) (by decide) (start_still h.gives).registry

theorem serviceNetwork_borrows (h : (s.serviceNetwork now).Ends t s') :
    t.Borrows s.Holds s'.Holds := by
  rw [serviceNetwork_eq] at h
  obtain ⟨t₁, ⟨n, r₁⟩, t₂, h₁, h₂, rfl⟩ := Prog.ends_bind.1 h
  obtain ⟨t₃, r₂, t₄, h₃, h₄, rfl⟩ := Prog.ends_bind.1 h₂
  obtain ⟨r₃, h₅, rfl⟩ := Prog.ends_bind_pure.1 h₄
  have hanswered : t₃.Borrows (Held r₁.connections) (Held r₂.connections) := by
    rw [answerVisitors_gives h₃.gives]
    exact (h₃.of (answerVisitors_kinds (List.Subset.refl _))).borrows (by decide)
  exact (Registry.pump_borrows h₁).append (hanswered.append (Registry.pollAll_borrows h₅))

/-! ## Turns -/

theorem serviceEntry_borrows (h : (s.serviceEntry index now).Ends t s') :
    t.Borrows s.Holds s'.Holds := by
  cases serviceEntry_ends h with
  | skipped hof => exact borrows_still hof (by decide) rfl
  | unconnected hof => exact borrows_still hof (by decide) rfl
  | @stepped e c r t₁ t₂ _ hget _ hends hof =>
    have hstep := Registry.borrows_change hget (Uploader.service_moves hends).borrows
    exact hstep.append (hof.borrows (by decide))

theorem beginUpload_borrows {conn : ConnId} (h : (s.beginUpload index conn).Ends t s') :
    t.Borrows s.Holds s'.Holds := by
  obtain ⟨t₁, now, t₂, h₁, h₂, rfl⟩ := Prog.ends_bind.1 h
  obtain ⟨t₃, s₁, t₄, h₃, h₄, rfl⟩ := Prog.ends_bind.1 h₂
  have hstep := serviceEntry_borrows h₃
  refine (Trace.borrows_rest (h₁.calls_eq_nil (by simp))).append (hstep.append ?_)
  split at h₄
  next =>
    obtain ⟨res, hawait, rfl⟩ := Prog.ends_bind_pure.1 h₄
    exact Registry.awaitSlices_borrows hawait
  next =>
    obtain ⟨rfl, rfl⟩ := Prog.ends_pure.1 h₄
    exact Trace.borrows_rest rfl

theorem sendIfReady_borrows {res : Bool × Bool × Scheduler}
    (h : (s.sendIfReady index now atDefault).Ends t res) : t.Borrows s.Holds res.2.2.Holds := by
  have hraise {s₁ s₂ : Scheduler} {t₁ t₂ : Trace Node} {up atDefault' : Bool}
      (h₁ : (s.raiseClock now atDefault).Ends t₁ (atDefault', s₁))
      (h₂ : s₁.raiseRadio.Ends t₂ (up, s₂)) : t₁.Borrows s.Holds s.Holds ∧
        t₂.Borrows s.Holds s.Holds :=
    ⟨(h₁.of (raiseClock_kinds (List.Subset.refl _))).borrows (by decide),
      (h₂.of (raiseRadio_kinds (List.Subset.refl _))).borrows (by decide)⟩
  cases sendIfReady_sent h with
  | nothing => exact Trace.borrows_rest rfl
  | goesOn _ _ hends => exact serviceEntry_borrows hends
  | deferred _ h₁ h₂ hof =>
    obtain ⟨hclock, hradio⟩ := hraise h₁ h₂
    exact hclock.append (hradio.append (hof.borrows (by decide)))
  | begun _ h₁ h₂ h₃ =>
    obtain ⟨hclock, hradio⟩ := hraise h₁ h₂
    have hbegin := beginUpload_borrows h₃
    exact hclock.append (hradio.append hbegin)

theorem turn_borrows {res : Bool × Bool × Scheduler} (h : (s.turn index now atDefault).Ends t res) :
    t.Borrows s.Holds res.2.2.Holds := by
  obtain ⟨t₁, ⟨atDefault', s₁⟩, t₂, h₁, h₂, rfl⟩ := Prog.ends_bind.1 h
  have hread : t₁.Borrows s.Holds s₁.Holds :=
    borrows_still (h₁.of (readIfDue_kinds (List.Subset.refl _))) (by decide)
      (readIfDue_still h₁.gives).1.registry
  exact hread.append (sendIfReady_borrows h₂)

theorem Turns.borrows {indices : List Nat} {ts : List (Trace Node)} {res : Bool × Bool × Scheduler}
    (h : Turns now indices keep atDefault s ts res) :
    Trace.Borrows ts.flatten s.Holds res.2.2.Holds := by
  induction h with
  | nil => exact Trace.borrows_rest rfl
  | cons hturn _ ih => exact (turn_borrows hturn).append ih

/-! ## The radio goes off -/

/-- All connections end, and what is asked for behind them is about the radio. -/
theorem radioOff_ends (h : s.radioOff.Ends t s') :
    ∃ t₁ t₂ registry radio now, s.registry.releaseAll.Ends t₁ registry ∧
      s.radio.disable.Gives radio ∧ Trace.Of [.note, .time, .radio] t₂ ∧ t = t₁ ++ t₂ ∧
      s' = { s with registry, radio }.closeWindow now := by
  obtain ⟨t₁, registry, t₂, h₁, h₂, rfl⟩ := Prog.ends_bind.1 h
  obtain ⟨t₃, radio, t₄, h₃, h₄, rfl⟩ := Prog.ends_bind.1 h₂
  obtain ⟨t₅, now, t₆, h₅, h₆, rfl⟩ := Prog.ends_bind.1 h₄
  obtain ⟨t₇, _, t₈, h₇, h₈, rfl⟩ := Prog.ends_bind.1 h₆
  have hbehind : Trace.Of [.note] t₈ ∧ s' = { s with registry, radio }.closeWindow now := by
    cases hsupply : s.supply with
    | none =>
      rw [hsupply] at h₈
      obtain ⟨rfl, rfl⟩ := Prog.ends_pure.1 h₈
      exact ⟨Trace.of_nil, rfl⟩
    | some supply =>
      rw [hsupply] at h₈
      obtain ⟨_, hlog, rfl⟩ := Prog.ends_bind_pure.1 h₈
      exact ⟨hlog.of (by simp), rfl⟩
  have hdisable := h₃.of (RadioController.disable_kinds (List.Subset.refl _))
  have hnow : Trace.Of [.time] t₅ := h₅.of (by simp)
  have hlog := h₇.of (logStatistics_kinds (List.Subset.refl _))
  refine ⟨t₁, _, registry, radio, now, h₁, h₃.gives, ?_, rfl, hbehind.2⟩
  simp only [Trace.of_append]
  exact ⟨hdisable, hnow.widen (by simp), hlog.widen (by simp), hbehind.1.widen (by simp)⟩

theorem radioOff_borrows (h : s.radioOff.Ends t s') : t.Borrows s.Holds s'.Holds := by
  obtain ⟨t₁, t₂, registry, radio, now, hrelease, -, hof, rfl, rfl⟩ := radioOff_ends h
  exact (Registry.releaseAll_borrows hrelease).append (hof.borrows (by decide))

end Scheduler

end MeterNode
