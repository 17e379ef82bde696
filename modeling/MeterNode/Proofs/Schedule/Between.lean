import MeterNode.Proofs.Schedule.Lookups
import MeterNode.Proofs.Schedule.Windows

/-!
# Between windows

A connection with an exchange under way is owned by an entry whose batch is out
(`Scheduler.Covered`).  So with the window closed there is no exchange, and no report makes anybody
dial.

A tick that finds the window closed, and begins too early to open one, leaves the radio and the
collectors alone (`Scheduler.Rested`): the entries are read if they are due, and visitors are
answered.
-/

namespace MeterNode

namespace Connection

/-- A connection without an exchange has none afterwards. -/
def StaysLost (c d : Connection) : Prop := c.Lost → d.Lost

theorem staysLost_passive : Passive StaysLost where
  refl _ hlost := hlost
  trans hcd hde := hde ∘ hcd
  after _ _ _ _ := after_lost
  abandoned _ _ := Or.inl rfl

end Connection

namespace Registry

variable {r r₁ : Registry} {now : Instant} {kinds : List Effect.Kind} {t : Trace Node}

/-! ## Connections without exchanges -/

/-- No exchange is under way. -/
def AllLost (r : Registry) : Prop := ∀ id c, r.get? id = some c → c.Lost

theorem AllLost.kept (h : r.AllLost) (hfrom : r.From Connection.StaysLost r₁) : r₁.AllLost := by
  intro id d hget
  obtain ⟨c, hget', hstays⟩ := hfrom id d hget
  exact hstays (h id c hget')

/-- With no exchange under way, reports make nobody dial. -/
theorem AllLost.pump_kinds (h : r.AllLost) (hplaced : r.Placed)
    (hkinds : [.note, .socket, .reports] ⊆ kinds) : Prog.Asks (Effect.Of kinds) (r.pump now) := by
  obtain ⟨hnote, hsocket, hreports⟩ : .note ∈ kinds ∧ .socket ∈ kinds ∧ .reports ∈ kinds := by
    simpa using hkinds
  have hall (events : List TransportEvent) :
      Prog.Asks (Effect.Of kinds) (r.dispatchAll events now) := by
    induction events generalizing r with
    | nil => exact Act.asks_pure
    | cons event rest ih =>
      have hone : Prog.Asks (Effect.Of kinds) (r.dispatch event now) := by
        refine dispatch_kinds (by simp [hnote, hsocket]) fun c hget hs => ?_
        rcases h event.conn c hget with hinit | hserver
        · rw [hinit] at hs
          cases hs
        · rw [hserver] at hs
          cases hs
      simp only [dispatchAll, Act.asks_bind, hone, true_and]
      intro r₁ hr₁
      exact ih (h.kept (dispatch_from Connection.staysLost_passive hplaced hr₁))
        (dispatch_heard hplaced hr₁).2
  simp [pump, hall, hreports]

/-- Bytes go to a visitor: some connection serves one, and holds the socket. -/
def Visits (r : Registry) (handle : Handle) : Prop :=
  ∃ id c, r.get? id = some c ∧ c.state = .server ∧ c.handle = some handle

/-- Whatever is written in answer to requests goes to visitors. -/
theorem answerRequests_writes {handler : String → Act (Option String)} (hsilent : Silent handler)
    (h : (r.answerRequests handler).Ends t r₁) : ∀ w ∈ t.writes, r.Visits w.1 := by
  have hone {id : ConnId} {request : String} {t : Trace Node} {u : Unit}
      (h : (r.answerOne handler id request).Ends t u) : ∀ w ∈ t.writes, r.Visits w.1 := by
    by_cases hs : r.state? id = some .server
    · obtain ⟨c, hget, hserver⟩ := Option.map_eq_some_iff.1 hs
      cases hh : c.handle with
      | none =>
        have hquiet : Prog.Asks Effect.Quiet (r.answerOne handler id request) := by
          simp only [answerOne, hget, hserver, ne_eq, not_true_eq_false, if_false, Act.asks_bind,
            Act.asks_count, Effect.Quiet, hsilent request, true_and]
          rintro - - reply -
          cases reply with
          | none => exact Act.asks_pure
          | some reply => simp [Connection.respond, hh]
        rw [h.writes_eq_nil hquiet]
        simp
      | some handle =>
        obtain ⟨t₁, reply, -, hwrites⟩ := answerOne_served hsilent h hget hserver hh
        intro w hw
        rw [hwrites, Option.mem_toList, Option.map_eq_some_iff] at hw
        obtain ⟨bytes, -, rfl⟩ := hw
        exact ⟨id, c, hget, hserver, hh⟩
    · rw [answerOne_unserved h hs]
      simp
  obtain ⟨-, ts, hts, rfl⟩ := answerRequests_ends h
  clear h
  generalize r.requests = requests at hts
  induction hts with
  | nil => simp [Trace.writes]
  | cons hend _ ih =>
    rw [List.flatten_cons, Trace.writes_append]
    exact List.forall_mem_append.2 ⟨hone hend, ih⟩

end Registry

namespace Scheduler

variable {s s₁ s₂ s' : Scheduler} {index : Nat} {now : Instant} {atDefault keep : Bool}
  {e : Entry} {t : Trace Node}

/-! ## Exchanges and their owners -/

/-- A connection with an exchange under way is owned. -/
def Covered (s : Scheduler) : Prop :=
  ∀ id c, s.registry.get? id = some c → c.Lost ∨ (s.exchanges.owner? id).isSome

theorem Covered.kept (h : s.Covered)
    (hfrom : s.registry.From Connection.StaysLost s'.registry)
    (hexchanges : s'.exchanges = s.exchanges) : s'.Covered := by
  intro id d hget
  obtain ⟨c, hget', hstays⟩ := hfrom id d hget
  rw [hexchanges]
  exact (h id c hget').imp_left hstays

theorem Covered.calm (h : s.Covered) (hregistry : s'.registry = s.registry)
    (hexchanges : s'.exchanges = s.exchanges) : s'.Covered := by
  refine h.kept ?_ hexchanges
  rw [hregistry]
  exact .refl Connection.staysLost_passive s.registry

/-- While no batch is out, no exchange is under way. -/
theorem Covered.allLost (h : s.Covered) (hsound : s.Sound) (hidle : s.Idle) :
    s.registry.AllLost := by
  intro id c hget
  refine (h id c hget).resolve_right fun howned => ?_
  obtain ⟨i, howner⟩ := Option.isSome_iff_exists.1 howned
  obtain ⟨e, he, hbusy, -⟩ := (s.seats_getElem? i id true).1 ((hsound.owners id i).1 howner)
  rw [hidle e (List.mem_of_getElem? he)] at hbusy
  cases hbusy

theorem serviceEntry_covered (hcovered : s.Covered) (hsound : s.Sound)
    (h : (s.serviceEntry index now).Ends t s') : s'.Covered := by
  cases serviceEntry_ends h with
  | skipped => exact hcovered
  | unconnected => exact hcovered.calm rfl rfl
  | @stepped e c r t₁ t₂ he hget hfree hr =>
    have hid : r.conn.id = e.conn :=
      (Uploader.service_id hr.gives).trans (hsound.placed e.conn c hget)
    have hbefore : c.Lost ∨ e.uploader.batch.isSome := by
      refine (hcovered e.conn c hget).imp_right fun howned => ?_
      obtain ⟨i, howner⟩ := Option.isSome_iff_exists.1 howned
      obtain rfl := hfree i howner
      obtain ⟨e', he', hbusy, -⟩ :=
        (s.seats_getElem? i e.conn true).1 ((hsound.owners e.conn i).1 howner)
      rw [he, Option.some.injEq] at he'
      rwa [he']
    intro id d hd
    have hd' : (s.registry.set r.conn).get? id = some d := hd
    rw [Registry.get?_set] at hd'
    by_cases hplace : id = r.conn.id
    · rw [if_pos hplace] at hd'
      obtain ⟨-, -, rfl⟩ := Option.map_eq_some_iff.1 hd'
      refine (Uploader.service_settled hbefore hr.gives).imp_right fun hbusy => ?_
      have howner : (s.advance index e r).exchanges.owner? e.conn =
          if r.uploader.isBusy then some index else none :=
        Exchanges.owner?_book_self hfree
      rw [hplace, hid, howner, if_pos (show r.uploader.isBusy = true from hbusy)]
      rfl
    · rw [if_neg hplace] at hd'
      have howner : (s.advance index e r).exchanges.owner? id = s.exchanges.owner? id :=
        Exchanges.owner?_book_ne fun hconn => hplace (hconn.trans hid.symm)
      rw [howner]
      exact hcovered id d hd'

theorem beginUpload_covered {conn : ConnId} (hcovered : s.Covered) (hsound : s.Sound)
    (h : (s.beginUpload index conn).Ends t s') : s'.Covered := by
  obtain ⟨t₁, now, t₂, -, h₂, rfl⟩ := Prog.ends_bind.1 h
  obtain ⟨t₃, s₁, t₄, h₃, h₄, rfl⟩ := Prog.ends_bind.1 h₂
  have hopened : Still s { s with windowOpen := true } := ⟨rfl, rfl, rfl⟩
  have hsound₁ := hsound.calm hopened.calm
  have hcovered₀ : ({ s with windowOpen := true } : Scheduler).Covered := hcovered
  have hcovered₁ := serviceEntry_covered hcovered₀ hsound₁ h₃
  have hplaced : s₁.registry.Placed :=
    (hsound₁.moved (serviceEntry_gives hsound₁.placed h₃.gives).1).placed
  split at h₄
  next =>
    obtain ⟨⟨state, r⟩, h₅, rfl⟩ := Prog.ends_bind_pure.1 h₄
    exact hcovered₁.kept
      (Registry.awaitSlices_from Connection.staysLost_passive hplaced h₅.gives) rfl
  next =>
    obtain ⟨rfl, rfl⟩ := Prog.ends_pure.1 h₄
    exact hcovered₁

theorem turn_covered {res : Bool × Bool × Scheduler} (hcovered : s.Covered) (hsound : s.Sound)
    (h : (s.turn index now atDefault).Ends t res) : res.2.2.Covered := by
  obtain ⟨t₁, ⟨atDefault', s₁⟩, t₂, h₁, h₂, rfl⟩ := Prog.ends_bind.1 h
  obtain ⟨hstill, -⟩ := readIfDue_still h₁.gives
  have hcovered₁ : s₁.Covered := hcovered.calm hstill.registry hstill.exchanges
  have hsound₁ : s₁.Sound := hsound.calm hstill.calm
  cases sendIfReady_sent h₂ with
  | nothing => exact hcovered₁
  | goesOn _ _ h₃ => exact serviceEntry_covered hcovered₁ hsound₁ h₃
  | deferred => exact hcovered₁.calm rfl rfl
  | @begun _ _ _ _ _ speed radio _ _ _ _ h₃ =>
    have hraised : Still s₁ { s₁ with speed, radio } := ⟨rfl, rfl, rfl⟩
    have hcovered₂ : ({ s₁ with speed, radio } : Scheduler).Covered := hcovered₁
    exact beginUpload_covered hcovered₂ (hsound₁.calm hraised.calm) h₃

theorem Turns.covered {indices : List Nat} {ts : List (Trace Node)}
    {res : Bool × Bool × Scheduler} (h : Turns now indices keep atDefault s ts res)
    (hcovered : s.Covered) (hsound : s.Sound) : res.2.2.Covered := by
  induction h with
  | nil => exact hcovered
  | cons hturn _ ih =>
    exact ih (turn_covered hcovered hsound hturn) (hsound.turned (turn_ends hsound.placed hturn))

theorem Passed.covered {turns : List (Trace Node)} {res : TickReport × Scheduler}
    (h : Passed s now turns t res) (hcovered : s.Covered) (hsound : s.Sound) :
    res.2.Covered := by
  cases h with
  | @intro s₁ s₂ s₃ s₄ s₅ s₆ s₇ _ _ _ _ _ _ _ _ _ _ _ _ _ hcount hnetwork _ hturns hwindow hradio
      hlower hreport =>
    have hcounted := countTick_still hcount.gives
    have hsound₁ := hsound.calm hcounted.calm
    have hcovered₁ := hcovered.calm hcounted.registry hcounted.exchanges
    have hnetworked := serviceNetwork_calm hnetwork.gives
    have hcovered₂ := hcovered₁.kept (serviceNetwork_from Connection.staysLost_passive
      hsound₁.placed hnetwork.gives) hnetworked.exchanges
    have hcovered₃ := hturns.covered hcovered₂ (hsound₁.calm hnetworked)
    have hclosed := completeWindow_still hwindow.gives
    have hcovered₄ := hcovered₃.calm hclosed.registry hclosed.exchanges
    have hcovered₅ := hcovered₄.kept (tendRadio_from Connection.staysLost_passive hradio.gives)
      (tendRadio_calm hradio.gives).exchanges
    have hlowered := lowerClock_still hlower.gives
    have hcovered₆ := hcovered₅.calm hlowered.registry hlowered.exchanges
    obtain ⟨speed, rfl, -⟩ := report_gives hreport.gives
    exact hcovered₆.calm rfl rfl

theorem allLost_kept : KeptBySetup Registry.AllLost where
  extended := by
    intro r r' hlost hextended id c hget
    rcases hextended.get? hget with hold | ⟨-, hinit⟩
    · exact hlost id c hold
    · exact Or.inl hinit
  headers := by
    intro r id c hlost hget id' d hget'
    rw [Registry.get?_set] at hget'
    split at hget'
    next =>
      obtain ⟨-, -, rfl⟩ := Option.map_eq_some_iff.1 hget'
      exact hlost id c hget
    next => exact hlost id' d hget'

variable {setup : NodeSetup} {logs : List TickLog}

theorem Course.covered (h : Course setup t logs s) : s.Covered := by
  induction h with
  | built hbuild | joined hbuild =>
    have hlost : Registry.AllLost _ :=
      allLost_kept.build (fun _ _ hget => by cases hget) hbuild.gives
    exact fun id c hget => Or.inl (hlost id c hget)
  | start _ hstart ih =>
    have hstill := start_still hstart.gives
    exact ih.calm hstill.registry hstill.exchanges
  | tick hcourse hpassed ih => exact hpassed.covered ih hcourse.reached.sound

/-! ## A tick between windows -/

/-- What a turn between windows asks for, all of it for the read of the entry. -/
def readKinds : List Effect.Kind := [.note, .radio, .clock, .processor, .input]

/-- With the window closed and no time to open one, an entry is read and no more. -/
theorem turn_rests {res : Bool × Bool × Scheduler} (hshut : s.Shut)
    (hearly : s.windowAllowed now = false) (h : (s.turn index now atDefault).Ends t res) :
    t.Of readKinds ∧ ∃ speed entries, res.2.2 = { s with speed, entries } ∧
      res.2.2.sendings = s.sendings := by
  obtain ⟨t₁, ⟨atDefault', s₁⟩, t₂, h₁, h₂, rfl⟩ := Prog.ends_bind.1 h
  have hread : t₁.Of readKinds := h₁.of (readIfDue_kinds (List.Subset.refl _))
  obtain ⟨speed, entries, hs₁, hsendings, -⟩ := readIfDue_gives h₁.gives
  simp only at hs₁ hsendings
  have hidle : s₁.Idle := idle_of_sendings hsendings hshut.idle
  have hearly₁ : s₁.windowAllowed now = false := by
    rw [hs₁]
    exact hearly
  cases sendIfReady_sent h₂ with
  | nothing => exact ⟨by simpa [Trace.of_nil] using hread, speed, entries, hs₁, hsendings⟩
  | goesOn he hbusy =>
    rw [hidle _ (List.mem_of_getElem? he)] at hbusy
    cases hbusy
  | deferred hdue | begun hdue =>
    have := hdue.allowed
    rw [hearly₁] at this
    cases this

theorem Turns.rest {indices : List Nat} {ts : List (Trace Node)} {res : Bool × Bool × Scheduler}
    (h : Turns now indices keep atDefault s ts res) (hshut : s.Shut)
    (hearly : s.windowAllowed now = false) :
    Trace.Of readKinds ts.flatten ∧ ∃ speed entries, res.2.2 = { s with speed, entries } ∧
      res.2.2.sendings = s.sendings := by
  induction h with
  | nil => exact ⟨Trace.of_nil, _, _, rfl, rfl⟩
  | cons hturn _ ih =>
    obtain ⟨hof, speed, entries, hs', hsendings⟩ := turn_rests hshut hearly hturn
    simp only at hs' hsendings
    subst hs'
    obtain ⟨hofs, speed', entries', hres, hsendings'⟩ := ih (hshut.mild ⟨rfl, hsendings⟩) hearly
    exact ⟨by rw [List.flatten_cons]; exact Trace.of_append.2 ⟨hof, hofs⟩, speed', entries', hres,
      hsendings'.trans hsendings⟩

/-- With the window closed, the shutdown of the radio leaves the uploads alone. -/
theorem closeWindow_sendings (hshut : s.Shut) : (s.closeWindow now).sendings = s.sendings := by
  rw [sendings, sendings, closeWindow, List.map_map]
  refine List.map_congr_left fun e he => ?_
  simp [Entry.sending, hshut.released e he]

theorem tendRadio_sendings {statusTick : Bool} {due : Instant} {res : Bool × Scheduler}
    (hshut : s.Shut) (h : (s.tendRadio keep atDefault statusTick due).Gives res) :
    res.2.sendings = s.sendings := by
  obtain ⟨radio, hres | hup⟩ := tendRadio_gives h
  · rw [hres]
    rfl
  · obtain ⟨supply, time, resyncDue, ⟨rfl, -⟩ | ⟨-, -, -, hoff⟩⟩ := whileUp_gives hup
    · rfl
    · obtain ⟨registry, radio', now, -, -, hs'⟩ := radioOff_gives hoff
      rw [hs']
      exact closeWindow_sendings (hshut.mild ⟨rfl, rfl⟩)

theorem answerVisitors_writes {r r₁ : Registry} (h : (s.answerVisitors r).Ends t r₁) :
    ∀ w ∈ t.writes, r.Visits w.1 := by
  simp only [answerVisitors] at h
  split at h
  next =>
    obtain ⟨rfl, -⟩ := Prog.ends_pure.1 h
    exact fun w hw => absurd hw List.not_mem_nil
  next =>
    refine Registry.answerRequests_writes (fun request => ?_) h
    have hserve : Prog.Asks (Effect.Of [.note])
        (some <$> Status.serve r.policy.indexEnabled s.views request) := by
      simp [Status.serve_kinds]
    exact hserve.quiet (by decide) (by decide)

/-- With no exchange under way, the network phase writes to visitors only. -/
theorem serviceNetwork_rests (hlost : s.registry.AllLost) (hplaced : s.registry.Placed)
    (h : (s.serviceNetwork now).Ends t s') :
    t.Of [.note, .socket, .reports, .send] ∧ ∃ t₁ t₂ n r, t = t₁ ++ t₂ ∧
      (s.registry.pump now).Ends t₁ (n, r) ∧ ∀ w ∈ t.writes, r.Visits w.1 := by
  rw [serviceNetwork_eq] at h
  obtain ⟨t₁, ⟨n, r⟩, u₁, h₁, k₁, rfl⟩ := Prog.ends_bind.1 h
  obtain ⟨t₂, r₁, t₃, h₂, k₂, rfl⟩ := Prog.ends_bind.1 k₁
  obtain ⟨r₂, h₃, -⟩ := Prog.ends_bind_pure.1 k₂
  have hpump : t₁.Of [.note, .socket, .reports] :=
    h₁.of (hlost.pump_kinds hplaced (List.Subset.refl _))
  have hanswers : t₂.Of [.note, .send] := h₂.of (answerVisitors_kinds (List.Subset.refl _))
  have hpoll : t₃.Of [.note, .socket] := h₃.of (Registry.pollAll_kinds (List.Subset.refl _))
  refine ⟨?_, t₁, t₂ ++ t₃, n, r, rfl, h₁, ?_⟩
  · rw [Trace.of_append, Trace.of_append]
    exact ⟨hpump.widen (by decide), hanswers.widen (by decide), hpoll.widen (by decide)⟩
  · rw [Trace.writes_append, Trace.writes_append, hpump.writes (by decide),
      hpoll.writes (by decide), List.nil_append, List.append_nil]
    exact answerVisitors_writes h₂

/-- A tick that leaves the radio and the collectors alone: the radio is not powered up and does not
join, no socket is opened, no address looked up and no connect begun, what is written goes to
visitors as the reports of the tick have left them, and the entries have the batches that they had
before, which is none. -/
structure Rested (s : Scheduler) (now : Instant) (t : Trace Node) (s' : Scheduler) : Prop where
  offline : ∀ step ∈ t, step.1.kind ≠ .wake ∧ step.1.kind ≠ .dial
  writes : ∃ t₁ t₂ t₃ n r, t = t₁ ++ (t₂ ++ t₃) ∧ (s.registry.pump now).Ends t₂ (n, r) ∧
    ∀ w ∈ t.writes, r.Visits w.1
  uploaders : s'.entries.map Entry.uploader = s.entries.map Entry.uploader
  idle : s'.Idle

/-- A tick with the network phase in the middle, and nothing around it that sends or dials. -/
theorem rested_of_phases {t₁ t₂ t₃ : Trace Node} (h₁ : t₁.Of [.note, .time])
    (h₂ : (s₁.serviceNetwork now).Ends t₂ s₂) (hlost : s₁.registry.AllLost)
    (hplaced : s₁.registry.Placed) (hregistry : s₁.registry = s.registry)
    (h₃ : t₃.Of [.note, .time, .socket, .link, .radio, .clock, .processor, .input]) (hidle : s.Idle)
    (hsendings : s'.sendings = s.sendings) : Rested s now (t₁ ++ (t₂ ++ t₃)) s' := by
  obtain ⟨hof, tpump, tanswers, n, r, rfl, hpump, hwrites⟩ :=
    serviceNetwork_rests hlost hplaced h₂
  rw [hregistry] at hpump
  have hall : Trace.Of
      [.note, .time, .send, .socket, .reports, .link, .radio, .clock, .processor, .input]
      (t₁ ++ ((tpump ++ tanswers) ++ t₃)) := by
    rw [Trace.of_append, Trace.of_append]
    exact ⟨h₁.widen (by decide), hof.widen (by decide), h₃.widen (by decide)⟩
  have huploaders (s : Scheduler) :
      s.entries.map Entry.uploader = s.sendings.map fun x => x.2.1 := by
    rw [sendings, List.map_map]
    rfl
  refine ⟨fun step hstep => ⟨hall.kind_ne (by decide) step hstep,
    hall.kind_ne (by decide) step hstep⟩, ?_, ?_, idle_of_sendings hsendings hidle⟩
  · refine ⟨t₁, tpump, tanswers ++ t₃, n, r, by rw [List.append_assoc], hpump, ?_⟩
    rw [Trace.writes_append, Trace.writes_append, h₁.writes (by decide), h₃.writes (by decide),
      List.nil_append, List.append_nil]
    exact hwrites
  · rw [huploaders, huploaders, hsendings]

/-- With the window closed and no time to open one, a tick leaves the radio and the collectors
alone. -/
theorem Passed.rested {turns : List (Trace Node)} {res : TickReport × Scheduler}
    (h : Passed s now turns t res) (hshut : s.Shut) (hearly : s.windowAllowed now = false)
    (hcovered : s.Covered) (hsound : s.Sound) : Rested s now (⟨.now, now⟩ :: t) res.2 := by
  cases h with
  | @intro s₁ s₂ s₃ s₄ s₅ s₆ s₇ _ _ _ _ _ tcount tnetwork tclock twindow tradio tlower treport _
      hcount hnetwork hclock hturns hwindow hradio hlower hreport =>
    have hlost : s.registry.AllLost := hcovered.allLost hsound hshut.idle
    have hcounted : tcount.Of [.note] := hcount.of (countTick_kinds (List.Subset.refl _))
    have hclocked : tclock.Of [.processor] :=
      hclock.of (SpeedController.isDefault_kinds (List.Subset.refl _))
    obtain ⟨ticks, resyncDue, rfl⟩ := countTick_gives hcount.gives
    have hbegun : Trace.Of [.note, .time] (⟨.now, now⟩ :: tcount) :=
      List.forall_mem_cons.2 ⟨List.mem_cons_of_mem _ (List.mem_cons_self ..),
        hcounted.widen (by decide)⟩
    -- No turn sends, and the window stays closed.
    obtain ⟨_, _, registry, -, -, -, hs₂⟩ := serviceNetwork_gives hnetwork.gives
    have hshut₂ : s₂.Shut := hshut.mild ⟨by rw [hs₂], by rw [hs₂]; rfl⟩
    obtain ⟨hofturns, speed, entries, hs₃, hsendings₃⟩ :=
      hturns.rest hshut₂ (by rw [hs₂]; exact hearly)
    simp only at hs₃ hsendings₃
    have hshut₃ : s₃.Shut := hshut₂.mild ⟨by rw [hs₃], hsendings₃⟩
    have hs₄ : s₄ = s₃ := (completeWindow_gives hwindow.gives).resolve_right fun hclosed => by
      rw [hshut₃.closed] at hclosed
      cases hclosed.1
    subst hs₄
    have hsendings₅ : s₅.sendings = s₄.sendings := tendRadio_sendings hshut₃ hradio.gives
    obtain ⟨radio, speed', rfl⟩ : ∃ radio speed', s₆ = { s₅ with radio, speed := speed' } :=
      lowerClock_gives hlower.gives
    obtain ⟨speed'', rfl, -⟩ := report_gives hreport.gives
    have hrest : Trace.Of [.note, .time, .socket, .link, .radio, .clock, .processor, .input]
        (tclock ++ (turns.flatten ++ (twindow ++ (tradio ++ (tlower ++ treport))))) := by
      simp only [Trace.of_append]
      exact ⟨hclocked.widen (by decide), hofturns.widen (by decide),
        hwindow.of (completeWindow_kinds (by decide)), hradio.of (tendRadio_kinds (by decide)),
        hlower.of (lowerClock_kinds (by decide)), hreport.of (report_kinds (by decide))⟩
    refine rested_of_phases hbegun hnetwork hlost hsound.placed rfl hrest hshut.idle ?_
    exact (hsendings₅.trans hsendings₃).trans (by rw [hs₂]; rfl)

/-! ## The windows of a run -/

/-- Behind every tick of every run, a window is open if some entry has a batch out or is held; so
closing the window releases the entries.  While the window is closed, a tick that begins too early
after the last window leaves the radio and the collectors alone.  And between the opening and the
closing of a window no entry has more than one batch that fails; on a connection that serves no
visitor, the batches that fail are the steps that do. -/
theorem Course.window_discipline (h : Course setup t logs s) :
    ((∃ e ∈ s.entries, e.isBusy = true ∨ e.held = true) → s.windowOpen = true) ∧
    (s.windowOpen = false → ∀ (now : Instant) t res,
      now.since s.lastSendComplete < Instant.ofSeconds s.policy.sendIntervalS →
      s.tick.Ends (⟨.now, now⟩ :: t) res → Rested s now (⟨.now, now⟩ :: t) res.2) ∧
    (∀ i, windowFailures i logs ≤ 1) ∧
    ∀ e ∈ s.entries, ∀ (c : Connection) (now : Instant) t r, c.state ≠ .server →
      (e.uploader.service c e.channels now).Ends t r →
        (r.progress.isFailed = true ↔ t.failures = 1) := by
  have hshut (hclosed : s.windowOpen = false) : s.Shut := by
    refine h.marked.resolve_left fun hopen => ?_
    rw [hclosed] at hopen
    cases hopen
  refine ⟨?_, ?_, fun i => (h.failures i).1, fun _ _ _ _ _ _ => Uploader.service_failed_iff⟩
  · rintro ⟨e, he, hmark⟩
    refine h.marked.resolve_right fun hshut => ?_
    rw [hshut.idle e he, hshut.released e he] at hmark
    simp at hmark
  · intro hclosed now t res hearly htick
    obtain ⟨now', turns, t', heq, hpassed⟩ := tick_passed htick
    cases heq
    refine hpassed.rested (hshut hclosed) ?_ h.covered h.reached.sound
    simpa [windowAllowed, hclosed] using hearly

/-! ## On the bench -/

/-- A meter whose samples are sent every five minutes. -/
def paced : NodeSetup := { lone with schedule := { sendIntervalS := 300 } }

/-- The node, after it has ticked at some times on a bench where every lookup stays out. -/
def pacedAt (times : List Instant) : Option Play :=
  play paced (bench (.ok .pending)) (times.map fun now w => { w with clock := now })

/-- One second after the start the entry has a sample to send, and does not send it.  In the sixth
minute it does, and its batch is out in an open window. -/
theorem window_discipline_of_paced :
    (∃ t logs s, ∃ now : Instant, ∃ t' res, Course paced t logs s ∧
      s.tick.Ends (⟨.now, now⟩ :: t') res ∧
      (res.2.entries.any Entry.sendPending) = true ∧ Rested s now (⟨.now, now⟩ :: t') res.2) ∧
    ∃ t logs s, Course paced t logs s ∧ (∃ e ∈ s.entries, e.isBusy = true) ∧
      s.windowOpen = true := by
  constructor
  · obtain ⟨x, hx⟩ : ∃ x, pacedAt [] = some x := Option.isSome_iff_exists.1 (by decide +kernel)
    obtain ⟨logs, hcourse, -⟩ := play_course hx
    have hfacts : (pacedAt []).map (fun x => (x.node.windowOpen, x.node.lastSendComplete,
        x.node.policy.sendIntervalS,
        (traced { x.world with clock := 1000000 } x.node.tick).2.1.2.entries.any
          Entry.sendPending)) = some (false, 0, 300, true) := by decide +kernel
    rw [hx] at hfacts
    simp only [Option.map_some, Option.some.injEq, Prod.mk.injEq] at hfacts
    obtain ⟨hclosed, hlast, hinterval, hpending⟩ := hfacts
    have htick := traced_ends { x.world with clock := 1000000 } x.node.tick
    obtain ⟨t', ht'⟩ : ∃ t', (traced { x.world with clock := 1000000 } x.node.tick).1 =
        ⟨.now, (1000000 : Instant)⟩ :: t' := ⟨_, rfl⟩
    rw [ht'] at htick
    refine ⟨_, logs, x.node, 1000000, t', _, hcourse, htick, hpending, ?_⟩
    refine hcourse.window_discipline.2.1 hclosed 1000000 t' _ ?_ htick
    rw [hlast, hinterval]
    decide
  · obtain ⟨x, hx⟩ : ∃ x, pacedAt [1000000, 400000000] = some x :=
      Option.isSome_iff_exists.1 (by decide +kernel)
    obtain ⟨logs, hcourse, -⟩ := play_course hx
    have hbusy : (pacedAt [1000000, 400000000]).map (fun x => x.node.entries.any Entry.isBusy) =
        some true := by decide +kernel
    rw [hx] at hbusy
    obtain ⟨e, he, hmark⟩ := List.any_eq_true.1 (Option.some.inj hbusy)
    exact ⟨_, logs, x.node, hcourse, ⟨e, he, hmark⟩,
      hcourse.window_discipline.1 ⟨e, he, Or.inl hmark⟩⟩

end Scheduler

end MeterNode
