import MeterNode.Proofs.Schedule.Ticks

/-!
# The times that samples carry

Time passes only while the radio is powered up or joins, in pauses, and while the time server is
asked.  `Trace.Clocked` says that a clock goes along a trace in this way: it never goes back, and it
says what it is when it is looked at.

A tick looks at the clock when it begins, and every source that it reads is handed the UTC
milliseconds of that instant (`Located`, `tick_stamps`).  They are those of the read as long as
nothing in the tick has taken time.  Only uploads do, and the entries have their turns one after the
other: when an upload has raised the radio or has waited for a lookup, the entries behind it are
read later than their samples say (`behind_a_join`).
-/

namespace MeterNode

/-! ## Clocks -/

namespace Effect

/-- The operation takes time. -/
def takesTime : Effect → Bool
  | .pause .. | .utc | .radio .powerUp | .radio (.join _) => true
  | _ => false

/-- The operation is asked for at one instant and answered at another. -/
def Passes : (op : Effect) → op.Answer → Instant → Instant → Prop
  | .now, answer, c, c' => answer = c ∧ c' = c
  | op, _, c, c' => c ≤ c' ∧ (op.takesTime = false → c' = c)

variable {op : Effect} {answer : op.Answer} {c c' : Instant} {kinds : List Kind}

theorem Passes.le (h : op.Passes answer c c') : c ≤ c' := by
  cases op with
  | now => exact Nat.le_of_eq h.2.symm
  | log | count | counters | net | takeEvents | radio | cpu | meter | pause | utc => exact h.1

theorem Passes.eq (h : op.Passes answer c c') (hop : op.takesTime = false) : c' = c := by
  cases op with
  | now => exact h.2
  | log | count | counters | net | takeEvents | radio | cpu | meter | pause | utc => exact h.2 hop

theorem Of.takesTime (h : op.Of kinds) (htime : .time ∉ kinds) (hwake : .wake ∉ kinds) :
    op.takesTime = false := by
  cases op with
  | radio call =>
    cases call with
    | powerUp | join => exact absurd h hwake
    | powerDown | status | light | measure | acquireBus | releaseBus => rfl
  | pause | utc => exact absurd h htime
  | log | count | counters | now | net | takeEvents | cpu | meter => rfl

end Effect

namespace Trace

variable {t t₁ t₂ : Trace Node} {clock : Nat → Instant} {kinds : List Effect.Kind} {n : Nat}

/-- A clock goes along the trace: every operation is asked for at one of its instants and answered
at the next. -/
def Clocked (clock : Nat → Instant) (t : Trace Node) : Prop :=
  ∀ i step, t[i]? = some step → Effect.Passes step.1 step.2 (clock i) (clock (i + 1))

/-- Nothing takes time. -/
def Prompt (t : Trace Node) : Prop := ∀ step ∈ t, Effect.takesTime step.1 = false

/-- No input is asked for anything. -/
def Unread (t : Trace Node) : Prop := ∀ step ∈ t, step.1.kind ≠ .input

theorem unread_append : Unread (t₁ ++ t₂) ↔ Unread t₁ ∧ Unread t₂ :=
  List.forall_mem_append

theorem unread_nil : Unread [] := fun _ hstep => absurd hstep List.not_mem_nil

theorem Unread.questions (h : t.Unread) : t.questions = [] := by
  refine List.filterMap_eq_nil_iff.2 fun step hstep => ?_
  obtain ⟨op, answer⟩ := step
  cases op with
  | meter device call => exact absurd rfl (h _ hstep)
  | log | count | counters | now | net | takeEvents | radio | cpu | pause | utc => rfl

theorem Of.prompt (h : t.Of kinds) (htime : .time ∉ kinds) (hwake : .wake ∉ kinds) : t.Prompt :=
  fun step hstep => (h step hstep).takesTime htime hwake

theorem Of.unread (h : t.Of kinds) (hinput : .input ∉ kinds) : t.Unread := h.kind_ne hinput

theorem Clocked.le (h : t.Clocked clock) (hn : n ≤ t.length) : clock 0 ≤ clock n := by
  induction n with
  | zero => exact Nat.le_refl _
  | succ n ih =>
    have hstep := h n t[n] (List.getElem?_eq_getElem hn)
    exact Nat.le_trans (ih (Nat.le_of_succ_le hn)) hstep.le

/-- A clock stands still while nothing takes time. -/
theorem Clocked.eq (h : t.Clocked clock) (hn : n ≤ t.length) (hprompt : Prompt (t.take n)) :
    clock n = clock 0 := by
  induction n with
  | zero => rfl
  | succ n ih =>
    have hlast : t[n] ∈ t.take (n + 1) := by
      rw [← List.take_append_getElem hn]
      exact List.mem_concat_self
    have hstep := h n t[n] (List.getElem?_eq_getElem hn)
    rw [hstep.eq (hprompt _ hlast)]
    refine ih (Nat.le_of_succ_le hn) fun step hmem => hprompt step ?_
    exact (List.take_prefix_take_left (Nat.le_succ n)).mem hmem

end Trace

/-- A later instant is no earlier in UTC. -/
theorem TimeSync.utcMs_mono {time : TimeSync} {c c' : Instant} (h : c ≤ c') :
    time.utcMs c ≤ time.utcMs c' := by
  have hmillis : c.millis ≤ c'.millis := Nat.div_le_div_right h
  simp only [utcMs, localMillis]
  omega

/-! ## Reads -/

namespace Entry

variable {e : Entry} {now : Instant} {t : Trace Node}

/-- The channels behind a read: a read that succeeds files its readings. -/
def filed (e : Entry) (outcome : ReadOutcome) : List MeterChannel :=
  match outcome.result with
  | .error _ => e.channels
  | .ok _ => fileAll outcome.readings e.channels

/-- An entry that is open reads its source, and one that is not leaves it alone. -/
theorem read_ends {supply : Option SupplyReading} {utcMs : Nat}
    {res : Except MeterError Nat × Entry} (h : (e.read supply utcMs now).Ends t res) :
    (e.isOpen = false ∧ t.Of [.note] ∧ res.2 = { e with lastRead := some now }) ∨
      e.isOpen = true ∧ ∃ t₁ outcome t₂, t = t₁ ++ t₂ ∧
        (e.source.read supply readingsPerRead utcMs).Ends t₁ outcome ∧ t₂.Of [.note] ∧
        res.2 = { e with lastRead := some now, channels := e.filed outcome } := by
  simp only [read] at h
  split at h
  next hclosed =>
    obtain ⟨_, hcount, rfl⟩ := Prog.ends_bind_pure.1 h
    exact Or.inl ⟨by simpa using hclosed, hcount.of (by simp [Tally.isFailure]), rfl⟩
  next hopen =>
    refine Or.inr ⟨by simpa using hopen, ?_⟩
    obtain ⟨t₁, outcome, t₂, hread, k₁, rfl⟩ := Prog.ends_bind.1 h
    refine ⟨t₁, outcome, t₂, rfl, hread, ?_⟩
    cases hresult : outcome.result with
    | error cause =>
      simp only [hresult] at k₁
      obtain ⟨_, hcount, rfl⟩ := Prog.ends_bind_pure.1 k₁
      exact ⟨hcount.of (by simp [Tally.isFailure]), by simp [filed, hresult]⟩
    | ok produced =>
      simp only [hresult] at k₁
      obtain ⟨t₃, _, t₄, hcount, k₂, rfl⟩ := Prog.ends_bind.1 k₁
      obtain ⟨_, hlog, rfl⟩ := Prog.ends_bind_pure.1 k₂
      have hcount : Trace.Of [.note] t₃ := hcount.of (by simp [Tally.isFailure])
      have hlog : Trace.Of [.note] t₄ := hlog.of (by simp)
      exact ⟨Trace.of_append.2 ⟨hcount, hlog⟩, by simp [filed, hresult]⟩

end Entry

namespace Scheduler

variable {s s₁ s' : Scheduler} {index n : Nat} {now : Instant} {atDefault keep : Bool} {e : Entry}
  {t : Trace Node}

/-- A read in a tick: the source, the UTC milliseconds that it was handed, and how many operations
the tick had asked for ahead of it. -/
structure Sampling where
  source : Source
  utcMs : Nat
  ahead : Nat

/-- The entry at a place is open, and due. -/
structure Readable (s : Scheduler) (index : Nat) (now : Instant) (e : Entry) : Prop where
  entry : s.entries[index]? = some e
  isOpen : e.isOpen = true
  due : e.readDueIn now = 0

/-- The first half of a turn, behind `n` operations of the tick, with its reads.  If the entry is
open and due, its source is read once, and what it gives is filed in the channels of the entry.
Otherwise nothing is read and nothing filed. -/
inductive Sampled (index : Nat) (now : Instant) (n : Nat) (s : Scheduler) :
    Trace Node → Scheduler → List Sampling → Prop where
  | unread {t : Trace Node} {s' : Scheduler} : (∀ e, ¬ s.Readable index now e) → t.Unread →
      s'.entries.map Entry.channels = s.entries.map Entry.channels → Sampled index now n s t s' []
  | read {e : Entry} {utcMs : Nat} {outcome : ReadOutcome} {t₁ t₂ t₃ : Trace Node}
      {s' : Scheduler} : s.Readable index now e → t₁.Unread →
      (e.source.read s.supply readingsPerRead utcMs).Ends t₂ outcome → t₃.Unread →
      s'.entries =
        s.entries.set index { e with lastRead := some now, channels := e.filed outcome } →
      Sampled index now n s (t₁ ++ (t₂ ++ t₃)) s' [⟨e.source, utcMs, n + t₁.length⟩]

/-- Some turns behind `n` operations of the tick, with their reads.  An upload reads nothing, and a
read takes no time. -/
inductive SampledEach (now : Instant) : Nat → List Nat → Bool → Scheduler → Trace Node →
    List Sampling → Prop where
  | nil (n : Nat) (atDefault : Bool) (s : Scheduler) : SampledEach now n [] atDefault s [] []
  | cons {index n : Nat} {rest : List Nat} {atDefault atDefault₁ atDefault₂ needs : Bool}
      {s s₁ s₂ : Scheduler} {t₁ t₂ t₃ : Trace Node} {xs ys : List Sampling} :
      (s.readIfDue index now atDefault).Ends t₁ (atDefault₁, s₁) →
      Sampled index now n s t₁ s₁ xs → t₁.Prompt →
      (s₁.sendIfReady index now atDefault₁).Ends t₂ (needs, atDefault₂, s₂) → t₂.Unread →
      SampledEach now (n + t₁.length + t₂.length) rest atDefault₂ s₂ t₃ ys →
      SampledEach now n (index :: rest) atDefault s (t₁ ++ (t₂ ++ t₃)) (xs ++ ys)

/-- A tick that began at a time, with its reads: those of the turns, one turn for each entry.
Nothing ahead of the turns takes time.  Behind them no source is read; the report at the end may
look at the memory. -/
inductive SampledTick (s : Scheduler) (now : Instant) : Trace Node → List Sampling → Prop where
  | intro {s₁ s₂ s₃ : Scheduler} {atDefault up : Bool} {due : Instant}
      {before turns behind report : Trace Node} {xs : List Sampling} :
      before.Unread → before.Prompt → s₁.entries = s.entries → s₁.supply = s.supply →
      SampledEach now before.length (List.range s.entries.length) atDefault s₁ turns xs →
      behind.Unread → (s₂.report due up).Ends report s₃ →
      SampledTick s now (before ++ (turns ++ (behind ++ report))) xs

/-! ## The reads of a turn -/

/-- Where a read of some turns is, which come behind `n` operations of the tick: behind the turns of
the entries ahead of its own, behind the change to the default frequency if the source needs it, and
behind the call for the bus.  The source is handed the UTC milliseconds of the beginning of the
tick. -/
inductive Located (now : Instant) (keep atDefault : Bool) (s : Scheduler) (n : Nat) :
    Trace Node → Sampling → Prop where
  | intro {indices : List Nat} {keep₁ atDefault₁ : Bool} {s₁ : Scheduler} {x : Sampling}
      {outcome : ReadOutcome} {ts : List (Trace Node)} {raise bus reading rest : Trace Node} :
      Turns now indices keep atDefault s ts (keep₁, atDefault₁, s₁) →
      (x.source.needsDefaultClock = true → ∃ res, (s₁.raiseClock now atDefault₁).Ends raise res) →
      bus.Of [.radio] → x.utcMs = s.time.utcMs now →
      (x.source.read s.supply readingsPerRead x.utcMs).Ends reading outcome →
      x.ahead = n + (ts.flatten ++ (raise ++ bus)).length →
      Located now keep atDefault s n (ts.flatten ++ (raise ++ (bus ++ (reading ++ rest)))) x

theorem Located.append {x : Sampling} {t' : Trace Node} (h : Located now keep atDefault s n t x) :
    Located now keep atDefault s n (t ++ t') x := by
  cases h with
  | intro hturns hraise hbus hutc hread hahead =>
    simp only [List.append_assoc]
    exact .intro hturns hraise hbus hutc hread hahead

/-- A read behind the turn of another entry. -/
theorem Located.later {x : Sampling} {needs atDefault₁ : Bool} {t₁ : Trace Node}
    (hturn : (s.turn index now atDefault).Ends t₁ (needs, atDefault₁, s₁))
    (hsupply : s₁.supply = s.supply) (htime : s₁.time = s.time)
    (h : Located now (keep || needs) atDefault₁ s₁ (n + t₁.length) t x) :
    Located now keep atDefault s n (t₁ ++ t) x := by
  cases h with
  | @intro _ _ _ _ _ _ ts raise bus reading rest hturns hraise hbus hutc hread hahead =>
    rw [hsupply] at hread
    rw [htime] at hutc
    have hshape : t₁ ++ (ts.flatten ++ (raise ++ (bus ++ (reading ++ rest)))) =
        (t₁ :: ts).flatten ++ (raise ++ (bus ++ (reading ++ rest))) := by simp
    rw [hshape]
    refine .intro (.cons hturn hturns) hraise hbus hutc hread ?_
    simp [hahead, Nat.add_assoc]

/-- A read is handed the UTC milliseconds of the beginning of the tick, and it is in the trace. -/
theorem Located.stamped {x : Sampling} (h : Located now keep atDefault s n t x) :
    x.utcMs = s.time.utcMs now ∧ x.ahead ≤ n + t.length := by
  cases h with
  | intro _ _ _ hutc _ hahead =>
    refine ⟨hutc, ?_⟩
    simp only [hahead, List.length_append]
    omega

/-- What a read of an entry asks for: the read of the entry, with the bus around it if the source
is on the bus, and a line in the log if it failed. -/
theorem readEntry_ends (h : (s.readEntry index e now).Ends t s') :
    ∃ t₁ res t₂ t₃ t₄, t = t₁ ++ (t₂ ++ (t₃ ++ t₄)) ∧ Trace.Of [.radio] t₁ ∧
      (e.read s.supply (s.time.utcMs now) now).Ends t₂ res ∧ Trace.Of [.radio] t₃ ∧
      (Trace.Of [.note] t₄ ∧ t₄.tallies = []) ∧ s' = s.setEntry index res.2 := by
  simp only [readEntry] at h
  split at h
  all_goals
    obtain ⟨u₁, ⟨result, e'⟩, u₂, hbody, hend, rfl⟩ := Prog.ends_bind.1 h
    obtain ⟨hlog, rfl⟩ : (Trace.Of [.note] u₂ ∧ u₂.tallies = []) ∧ s' = s.setEntry index e' := by
      cases result with
      | ok produced =>
        obtain ⟨rfl, rfl⟩ := Prog.ends_pure.1 hend
        exact ⟨⟨Trace.of_nil, rfl⟩, rfl⟩
      | error cause =>
        obtain ⟨_, hlog, rfl⟩ := Prog.ends_bind_pure.1 hend
        refine ⟨⟨hlog.of (by simp), ?_⟩, rfl⟩
        cases Prog.ends_perform.1 hlog
        rfl
  · obtain ⟨t₁, t₂, t₃, rfl, hacquire, hread, hrelease⟩ := RadioController.withBus_ends hbody
    exact ⟨t₁, (result, e'), t₂, t₃, u₂, by simp, hacquire, hread, hrelease, hlog, rfl⟩
  · exact ⟨[], (result, e'), u₁, [], u₂, rfl, Trace.of_nil, hbody, Trace.of_nil, hlog, rfl⟩

theorem readEntry_sampled (he : s.entries[index]? = some e) (hdue : e.readDueIn now = 0)
    (h : (s.readEntry index e now).Ends t s') (n : Nat) :
    ∃ xs, Sampled index now n s t s' xs ∧ ∀ x ∈ xs, x.source = e.source ∧
      x.utcMs = s.time.utcMs now ∧ ∃ bus reading rest outcome, t = bus ++ (reading ++ rest) ∧
        Trace.Of [.radio] bus ∧
        (x.source.read s.supply readingsPerRead x.utcMs).Ends reading outcome ∧
        x.ahead = n + bus.length := by
  obtain ⟨t₁, res, t₂, u₃, u₄, ht, hbefore, hread, hrelease, ⟨hlog, -⟩, rfl⟩ := readEntry_ends h
  obtain ⟨t₃, ht₃, hbehind⟩ : ∃ t₃, t₃ = u₃ ++ u₄ ∧ t₃.Unread :=
    ⟨_, rfl, Trace.unread_append.2 ⟨hrelease.unread (by decide), hlog.unread (by decide)⟩⟩
  rw [← ht₃] at ht
  obtain ⟨hclosed, hnote, hres⟩ | ⟨hopen, u₁, outcome, u₂, rfl, hsource, hnote, hres⟩ :=
    Entry.read_ends hread
  · refine ⟨[], .unread (fun e' hreadable => ?_) ?_ ?_, by simp⟩
    · have hsame : e = e' := Option.some.inj (he.symm.trans hreadable.entry)
      rw [← hsame] at hreadable
      exact absurd hreadable.isOpen (by simp [hclosed])
    · rw [ht, Trace.unread_append, Trace.unread_append]
      exact ⟨hbefore.unread (by decide), hnote.unread (by decide), hbehind⟩
    · exact map_setEntry he (by rw [hres])
  · refine ⟨[⟨e.source, s.time.utcMs now, n + t₁.length⟩], ?_, ?_⟩
    · rw [ht, List.append_assoc]
      refine .read ⟨he, hopen, hdue⟩ (hbefore.unread (by decide)) hsource ?_
        (by rw [setEntry, hres])
      exact Trace.unread_append.2 ⟨hnote.unread (by decide), hbehind⟩
    · intro x hx
      obtain rfl := List.mem_singleton.1 hx
      refine ⟨rfl, rfl, t₁, u₁, u₂ ++ t₃, outcome, ?_, hbefore, hsource, rfl⟩
      rw [ht, List.append_assoc]

/-- What is asked for ahead of a read, and leaves the inputs alone. -/
theorem Sampled.prepend {t₁ : Trace Node} {xs : List Sampling}
    (h : Sampled index now (n + t₁.length) s₁ t s' xs) (hentries : s₁.entries = s.entries)
    (hsupply : s₁.supply = s.supply) (ht₁ : t₁.Unread) : Sampled index now n s (t₁ ++ t) s' xs := by
  have hreadable (e : Entry) : s₁.Readable index now e ↔ s.Readable index now e := by
    constructor
    · rintro ⟨he, hopen, hdue⟩
      exact ⟨hentries ▸ he, hopen, hdue⟩
    · rintro ⟨he, hopen, hdue⟩
      exact ⟨hentries ▸ he, hopen, hdue⟩
  cases h with
  | unread hidle ht hchannels =>
    refine .unread (fun e he => hidle e ((hreadable e).2 he)) (Trace.unread_append.2 ⟨ht₁, ht⟩) ?_
    rw [hchannels, hentries]
  | @read e utcMs outcome t₂ t₃ t₄ _ he hbefore hread hbehind hfiled =>
    rw [hsupply] at hread
    rw [hentries] at hfiled
    rw [Nat.add_assoc, ← List.length_append, ← List.append_assoc]
    exact .read ((hreadable e).1 he) (Trace.unread_append.2 ⟨ht₁, hbefore⟩) hread hbehind hfiled

/-- The first half of a turn reads behind the change to the default frequency. -/
theorem readIfDue_sampled {res : Bool × Scheduler}
    (h : (s.readIfDue index now atDefault).Ends t res) (n : Nat) :
    ∃ xs, Sampled index now n s t res.2 xs ∧ ∀ x ∈ xs, Located now keep atDefault s n t x := by
  cases readIfDue_gathered h with
  | nothing hlater =>
    have hidle (e : Entry) : ¬ s.Readable index now e := fun he => hlater e he.entry he.due
    exact ⟨[], .unread hidle Trace.unread_nil rfl, nofun⟩
  | plain he hdue hfast hread =>
    obtain ⟨xs, hsampled, hreads⟩ := readEntry_sampled he hdue hread n
    refine ⟨xs, hsampled, fun x hx => ?_⟩
    obtain ⟨hsame, hutc, bus, reading, rest, outcome, rfl, hbus, hsource, hahead⟩ := hreads x hx
    have hnever (hneeds : x.source.needsDefaultClock = true) :
        ∃ res, (s.raiseClock now atDefault).Ends [] res := by
      rw [hsame, hfast] at hneeds
      cases hneeds
    exact .intro (.nil keep atDefault s) hnever hbus hutc hsource hahead
  | @raised e raise _ _ speed _ he hdue _ hraise hread =>
    have hof := hraise.of (raiseClock_kinds (List.Subset.refl _))
    have he : ({ s with speed } : Scheduler).entries[index]? = some e := he
    obtain ⟨xs, hsampled, hreads⟩ := readEntry_sampled he hdue hread (n + raise.length)
    refine ⟨xs, hsampled.prepend rfl rfl (hof.unread (by decide)), fun x hx => ?_⟩
    obtain ⟨-, hutc, bus, reading, rest, outcome, rfl, hbus, hsource, hahead⟩ := hreads x hx
    refine .intro (.nil keep atDefault s) (fun _ => ⟨_, hraise⟩) hbus hutc hsource ?_
    simp [hahead, Nat.add_assoc]

/-- The second half of a turn reads nothing, and keeps the time and the last supply. -/
theorem sendIfReady_unread {res : Bool × Bool × Scheduler}
    (h : (s.sendIfReady index now atDefault).Ends t res) :
    t.Unread ∧ res.2.2.time = s.time ∧ res.2.2.supply = s.supply := by
  have hraised {t₁ t₂ : Trace Node} {s₁ s₂ : Scheduler} {res₁ res₂ : Bool × Scheduler}
      (hclock : (s₁.raiseClock now atDefault).Ends t₁ res₁)
      (hradio : s₂.raiseRadio.Ends t₂ res₂) : t₁.Unread ∧ t₂.Unread :=
    ⟨(hclock.of (raiseClock_kinds (List.Subset.refl _))).unread (by decide),
      (hradio.of (raiseRadio_kinds (List.Subset.refl _))).unread (by decide)⟩
  cases sendIfReady_sent h with
  | nothing => exact ⟨Trace.unread_nil, rfl, rfl⟩
  | goesOn _ _ hservice =>
    obtain ⟨registry, entries, exchanges, rfl⟩ := serviceEntry_fields hservice.gives
    exact ⟨(hservice.of (serviceEntry_kinds (List.Subset.refl _))).unread (by decide), rfl, rfl⟩
  | deferred _ hclock hradio hlog =>
    obtain ⟨hclock, hradio⟩ := hraised hclock hradio
    rw [Trace.unread_append, Trace.unread_append]
    exact ⟨⟨hclock, hradio, hlog.unread (by decide)⟩, rfl, rfl⟩
  | begun _ hclock hradio hbegin =>
    obtain ⟨hclock, hradio⟩ := hraised hclock hradio
    obtain ⟨registry, entries, exchanges, rfl⟩ := beginUpload_fields hbegin.gives
    have hof := hbegin.of (beginUpload_kinds (List.Subset.refl _))
    rw [Trace.unread_append, Trace.unread_append]
    exact ⟨⟨hclock, hradio, hof.unread (by decide)⟩, rfl, rfl⟩

/-! ## The reads of a tick -/

theorem Turns.sampled {indices : List Nat} {ts : List (Trace Node)} {res : Bool × Bool × Scheduler}
    (h : Turns now indices keep atDefault s ts res) (n : Nat) :
    ∃ xs, SampledEach now n indices atDefault s ts.flatten xs ∧
      ∀ x ∈ xs, Located now keep atDefault s n ts.flatten x := by
  induction h generalizing n with
  | nil keep atDefault s => exact ⟨[], .nil n atDefault s, nofun⟩
  | @cons index rest keep atDefault needs atDefault₂ s s₂ t ts res hturn _ ih =>
    obtain ⟨t₁, ⟨atDefault₁, s₁⟩, t₂, hread, hsend, rfl⟩ := Prog.ends_bind.1 hturn
    obtain ⟨xs, hsampled, hlocated⟩ := readIfDue_sampled hread n
    obtain ⟨hunread, htime, hsupply⟩ := sendIfReady_unread hsend
    obtain ⟨ys, heach, hlater⟩ := ih (n + t₁.length + t₂.length)
    have hprompt := (hread.of (readIfDue_kinds (List.Subset.refl _))).prompt (by decide) (by decide)
    obtain ⟨speed, entries, hs₁, -⟩ := readIfDue_gives hread.gives
    rw [show s₁ = _ from hs₁] at htime hsupply
    refine ⟨xs ++ ys, ?_, List.forall_mem_append.2 ⟨fun x hx => ?_, fun y hy => ?_⟩⟩
    · rw [List.flatten_cons, List.append_assoc]
      exact .cons hread hsampled hprompt hsend hunread heach
    · rw [List.flatten_cons, List.append_assoc]
      exact (hlocated x hx).append
    · rw [Nat.add_assoc, ← List.length_append] at hlater
      exact (hlater y hy).later hturn hsupply htime

/-- The reads of a tick are those of its turns. -/
theorem Passed.located {turns : List (Trace Node)} {res : TickReport × Scheduler}
    (h : Passed s now turns t res) :
    ∃ opening atDefault s₁ behind xs, t = opening ++ (turns.flatten ++ behind) ∧
      Opened s now opening atDefault s₁ ∧ SampledTick s now (⟨.now, now⟩ :: t) xs ∧
      ∀ x ∈ xs, Located now false atDefault s₁ (opening.length + 1) turns.flatten x := by
  cases h with
  | @intro s₁ s₂ s₃ s₄ s₅ s₆ s₇ atDefault _ _ _ _ tcount tnetwork tclock twindow tradio tlower
      treport turns hcount hnetwork hclock hturns hwindow hradio hlower hreport =>
    have hopened := Opened.intro hcount hnetwork hclock
    obtain ⟨opening, hopening⟩ : ∃ opening, opening = tcount ++ (tnetwork ++ tclock) := ⟨_, rfl⟩
    have hshape : tcount ++ (tnetwork ++ (tclock ++ (turns.flatten ++
        (twindow ++ (tradio ++ (tlower ++ treport)))))) =
        opening ++ (turns.flatten ++ ((twindow ++ (tradio ++ tlower)) ++ treport)) := by
      simp [hopening]
    rw [← hopening] at hopened
    obtain ⟨hentries, hsupply, -, -, -⟩ := hopened.keeps
    obtain ⟨xs, heach, hlocated⟩ := hturns.sampled (opening.length + 1)
    rw [hentries] at heach
    refine ⟨opening, atDefault, s₂, _, xs, hshape, hopened, ?_, hlocated⟩
    rw [hshape, ← List.cons_append]
    refine .intro ?_ ?_ hentries hsupply heach ?_ hreport
    · exact List.forall_mem_cons.2 ⟨by simp, hopened.of.unread (by decide)⟩
    · exact List.forall_mem_cons.2 ⟨rfl, hopened.of.prompt (by decide) (by decide)⟩
    · rw [Trace.unread_append, Trace.unread_append]
      exact ⟨(hwindow.of (completeWindow_kinds (List.Subset.refl _))).unread (by decide),
        (hradio.of (tendRadio_kinds (List.Subset.refl _))).unread (by decide),
        (hlower.of (lowerClock_kinds (List.Subset.refl _))).unread (by decide)⟩

/-- A read is handed the UTC milliseconds of the beginning of the tick. -/
theorem Passed.sampled {turns : List (Trace Node)} {res : TickReport × Scheduler}
    (h : Passed s now turns t res) :
    ∃ xs, SampledTick s now (⟨.now, now⟩ :: t) xs ∧ ∀ x ∈ xs,
      x.utcMs = s.time.utcMs now ∧ x.ahead ≤ (⟨.now, now⟩ :: t : Trace Node).length := by
  obtain ⟨opening, atDefault, s₁, behind, xs, rfl, hopened, hsampled, hlocated⟩ := h.located
  refine ⟨xs, hsampled, fun x hx => ?_⟩
  obtain ⟨hutc, hahead⟩ := (hlocated x hx).stamped
  obtain ⟨-, -, htime, -, -⟩ := hopened.keeps
  rw [htime] at hutc
  refine ⟨hutc, Nat.le_trans hahead ?_⟩
  simp only [List.length_cons, List.length_append]
  omega

/-- Every source that a tick reads is handed the UTC milliseconds of the beginning of the tick.
They are no later than those of the read, and the same if nothing in the tick has taken time ahead
of it. -/
theorem tick_stamps {clock : Nat → Instant} {res : TickReport × Scheduler}
    (h : s.tick.Ends t res) (hclock : t.Clocked clock) :
    ∃ xs, SampledTick s (clock 0) t xs ∧ ∀ x ∈ xs,
      x.utcMs = s.time.utcMs (clock 0) ∧
      s.time.utcMs (clock 0) ≤ s.time.utcMs (clock x.ahead) ∧
      (Trace.Prompt (t.take x.ahead) → x.utcMs = s.time.utcMs (clock x.ahead)) := by
  obtain ⟨now, turns, t', rfl, hpassed⟩ := tick_passed h
  obtain rfl : now = clock 0 := (hclock 0 ⟨.now, now⟩ rfl).1
  obtain ⟨xs, hsampled, hstamped⟩ := hpassed.sampled
  refine ⟨xs, hsampled, fun x hx => ?_⟩
  obtain ⟨hutc, hahead⟩ := hstamped x hx
  refine ⟨hutc, TimeSync.utcMs_mono (hclock.le hahead), fun hprompt => ?_⟩
  rw [hutc, hclock.eq hahead hprompt]

/-! ## On the bench -/

/-- What arrives during a pause does not move the clock. -/
theorem offerAll_clock (events : List TransportEvent) (w : Bench.World) :
    (Bench.World.offerAll events w).2.clock = w.clock := by
  induction events generalizing w with
  | nil => rfl
  | cons event rest ih =>
    simp only [Bench.World.offerAll, ih, Bench.World.offer]
    split <;> rfl

/-- A bench takes time for nothing else, and says what its clock is. -/
theorem answer_passes (w : Bench.World) (op : Effect) :
    op.Passes (w.answer op).1 w.clock (w.answer op).2.clock := by
  have hpause (who : Pauser) (ms : Nat) : w.clock ≤ (w.pause who ms).clock := by
    simp only [Bench.World.pause, offerAll_clock]
    cases who <;> split <;> simp [Bench.World.setPauses]
  cases op with
  | now => exact ⟨rfl, rfl⟩
  | pause who ms => exact ⟨hpause who ms, fun hquick => by cases hquick⟩
  | radio call =>
    cases call with
    | join timeout => exact ⟨Nat.le_add_right _ _, fun hquick => by cases hquick⟩
    | powerUp | powerDown | status | light | measure | acquireBus | releaseBus =>
      exact ⟨Nat.le_refl _, fun _ => rfl⟩
  | log | count | counters | net | takeEvents | cpu | meter | utc =>
    exact ⟨Nat.le_refl _, fun _ => rfl⟩

/-- The clock of a bench through a run. -/
def clockOf {α : Type} : Act α → Bench.World → Nat → Instant
  | .pure _, w, _ => w.clock
  | .ask _ _, w, 0 => w.clock
  | .ask op rest, w, i + 1 => clockOf (rest (w.answer op).1) (w.answer op).2 i

theorem traced_clocked {α : Type} (w : Bench.World) (p : Act α) :
    Trace.Clocked (clockOf p w) (traced w p).1 := by
  induction p generalizing w with
  | pure a =>
    intro i step hstep
    cases hstep
  | ask op rest ih =>
    intro i step hstep
    cases i with
    | zero =>
      cases hstep
      have hnext (p : Act α) (w : Bench.World) : clockOf p w 0 = w.clock := by cases p <;> rfl
      simp only [clockOf, hnext]
      exact answer_passes w op
    | succ i => exact ih (w.answer op).1 (w.answer op).2 i step hstep

/-- Two meters behind a radio whose joins take five seconds. -/
def slowly : Bench.World :=
  { bench (.ok .pending) with radio := { joins := [none], joinMs := 5000 } }

/-- They have been started. -/
def joining : Scheduler × Bench.World :=
  let (_, res, w) := traced slowly sharing.start
  (res.2, w)

/-- The sources of these two meters are handed the time at which the tick began. -/
theorem tick_stamps_of_joining :
    ∃ t res clock, joining.1.tick.Ends t res ∧ Trace.Clocked clock t ∧
      ∃ xs, SampledTick joining.1 (clock 0) t xs ∧ ∀ x ∈ xs,
        x.utcMs = joining.1.time.utcMs (clock 0) ∧
        joining.1.time.utcMs (clock 0) ≤ joining.1.time.utcMs (clock x.ahead) ∧
        (Trace.Prompt (t.take x.ahead) → x.utcMs = joining.1.time.utcMs (clock x.ahead)) :=
  have hends := traced_ends joining.2 joining.1.tick
  have hclock := traced_clocked joining.2 joining.1.tick
  ⟨_, _, _, hends, hclock, tick_stamps hends hclock⟩

/-- The operation reads the first driver, and hands it these UTC milliseconds. -/
def readsFirst (utcMs : Nat) : Effect → Bool
  | .meter 0 (.readSource most handed) => most == readingsPerRead && handed == utcMs
  | _ => false

theorem eq_of_readsFirst {utcMs : Nat} {op : Effect} (h : readsFirst utcMs op = true) :
    op = .meter 0 (.readSource readingsPerRead utcMs) := by
  unfold readsFirst at h
  split at h
  next => simp_all
  next => cases h

/-- The upload of the first meter joins for five seconds.  The second one is read behind the join,
and is handed the time ahead of it. -/
theorem behind_a_join :
    ∃ t res clock i answer, joining.1.tick.Ends t res ∧ Trace.Clocked clock t ∧
      t[i]? = some ⟨.meter 0 (.readSource readingsPerRead 0), answer⟩ ∧
      joining.1.time.utcMs (clock i) = 5000 := by
  have hread : ((traced joining.2 joining.1.tick).1[37]?).any (fun step => readsFirst 0 step.1) =
      true := by decide +kernel
  have hutc : joining.1.time.utcMs (clockOf joining.1.tick joining.2 37) = 5000 := by
    decide +kernel
  obtain ⟨⟨op, answer⟩, hstep, hop⟩ := (Option.any_eq_true _ _).1 hread
  obtain rfl := eq_of_readsFirst hop
  exact ⟨_, _, _, 37, answer, traced_ends joining.2 joining.1.tick,
    traced_clocked joining.2 joining.1.tick, hstep, hutc⟩

end Scheduler

end MeterNode
