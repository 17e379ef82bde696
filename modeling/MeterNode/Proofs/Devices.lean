import MeterNode.Cpu.Speed
import MeterNode.Proofs.Kinds
import MeterNode.Radio.Controller
import MeterNode.Source.Basic

/-!
# What devices ask for

Reading a source asks its inputs only, changing the frequency the processor only, and the radio
controller the radio only, apart from clocks, pauses and notes.  In particular none of them hands
something to the transport or takes reports from it.
-/

namespace MeterNode

variable {kinds : List Effect.Kind}

/-! ## Sources -/

section Sources

variable {allowed : Effect → Prop} (hinput : ∀ device call, allowed (.meter device call))
include hinput

theorem AdcMeter.convertMore_asks {device left sum : Nat} :
    Prog.Asks allowed (convertMore device left sum) := by
  induction left generalizing sum with
  | zero => exact Act.asks_pure
  | succ left ih =>
    simp only [convertMore, Act.asks_bind, Act.asks_meter, hinput, true_and]
    rintro answer -
    cases answer <;> simp [ih]

theorem AdcMeter.averagePowered_asks {m : AdcMeter} : Prog.Asks allowed m.averagePowered := by
  have hconvert {device left sum : Nat} : Prog.Asks allowed (convertMore device left sum) :=
    convertMore_asks hinput
  simp only [averagePowered, average]
  split
  next =>
    simp only [Act.asks_bind, Act.asks_meter, hinput, true_and]
    rintro answer -
    split <;> simp [hconvert, hinput]
  next => simp [hconvert]

/-- Reading a source asks its inputs and writes to the log, and that is all. -/
theorem Source.read_asks {source : Source} {supply : Option SupplyReading} {most utcMs : Nat}
    (hlog : ∀ level text, allowed (.log level text)) :
    Prog.Asks allowed (source.read supply most utcMs) := by
  cases source with
  | adc m =>
    simp only [read, AdcMeter.read]
    split
    next => exact Act.asks_pure
    next =>
      split
      next => exact Act.asks_pure
      next =>
        simp only [Act.asks_bind, AdcMeter.averagePowered_asks hinput, true_and]
        rintro answer -
        cases answer <;> simp [hlog]
  | selfMonitor m => simp [read, SelfMonitor.read, hinput]
  | external m => simp [read, hinput]

end Sources

theorem Source.read_kinds {source : Source} {supply : Option SupplyReading} {most utcMs : Nat}
    (h : [.note, .input] ⊆ kinds) :
    Prog.Asks (Effect.Of kinds) (source.read supply most utcMs) := by
  obtain ⟨hnote, hinput⟩ : .note ∈ kinds ∧ .input ∈ kinds := by simpa using h
  exact read_asks (fun _ _ => hinput) fun _ _ => hnote

/-- What a read asks the input of its source for: the driver of an external source for a read, the
self monitor for the memory, and an analog meter for its conversions, of which the last may fail,
with the sensor powered around them if a pin does that.  A pin that cannot be driven ends the read,
and an analog meter that is closed asks for nothing. -/
inductive Source.Asked (most utcMs : Nat) : Source → List (Nat × MeterCall) → Prop where
  | shut {m : AdcMeter} : m.isOpen = false → Asked most utcMs (.adc m) []
  | unpowered {m : AdcMeter} : m.isOpen = true → m.hasControl = true →
      Asked most utcMs (.adc m) [(m.device, .drive true)]
  | powered {m : AdcMeter} {n : Nat} : m.isOpen = true → m.hasControl = true → n ≠ 0 →
      n ≤ conversionsPerRead → Asked most utcMs (.adc m)
        ([(m.device, .drive true), (m.device, .settle settleUs)] ++
          List.replicate n (m.device, .convert) ++ [(m.device, .drive false)])
  | plain {m : AdcMeter} {n : Nat} : m.isOpen = true → m.hasControl = false → n ≠ 0 →
      n ≤ conversionsPerRead →
      Asked most utcMs (.adc m) (List.replicate n (m.device, .convert))
  | memory {m : SelfMonitor} : Asked most utcMs (.selfMonitor m) [(m.device, .memory)]
  | external {m : ExternalMeter} :
      Asked most utcMs (.external m) [(m.device, .readSource most utcMs)]

/-- The source is open as far as the node keeps that: external ones leave it to their drivers. -/
def Source.isOpen : Source → Bool
  | .adc m => m.isOpen
  | .selfMonitor _ | .external _ => true

theorem AdcMeter.openMeter_gives {m : AdcMeter} {res : Except MeterError Unit × AdcMeter}
    (h : m.openMeter.Gives res) :
    res = (.error .openFailed, m) ∨ res = (.ok (), { m with isOpen := true }) := by
  simp only [openMeter] at h
  split at h
  next =>
    obtain ⟨driven, -, h⟩ := Act.gives_bind.1 h
    cases driven with
    | false => exact .inl (Act.gives_pure.1 h)
    | true => exact .inr (Act.gives_pure.1 h)
  next => exact .inr (Act.gives_pure.1 h)

/-- Opening a source leaves its interval alone, and the source is open if that succeeds. -/
theorem Source.openSource_gives {source : Source} {res : Except MeterError Unit × Source}
    (h : source.openSource.Gives res) :
    res.2.interval = source.interval ∧ (res.1 = .ok () → res.2.isOpen = true) := by
  cases source with
  | adc m =>
    obtain ⟨_, hopen, h⟩ := Act.gives_bind.1 h
    rw [Act.gives_pure.1 h]
    rcases AdcMeter.openMeter_gives hopen with rfl | rfl
    · exact ⟨rfl, nofun⟩
    · exact ⟨rfl, fun _ => rfl⟩
  | selfMonitor m =>
    rw [Act.gives_pure.1 h]
    exact ⟨rfl, fun _ => rfl⟩
  | external m =>
    obtain ⟨result, -, h⟩ := Act.gives_bind.1 h
    rw [Act.gives_pure.1 h]
    exact ⟨rfl, fun _ => rfl⟩

section Questions

variable {t : Trace Node}

theorem questions_meter {device : Nat} {call : MeterCall} {answer : call.Answer}
    (h : @Prog.Ends Node _ (Act.meter device call) t answer) : t.questions = [(device, call)] := by
  cases Prog.ends_perform.1 h
  rfl

/-- Conversions are asked for until one fails or there are enough. -/
theorem AdcMeter.convertMore_questions {device left sum : Nat} {res : Except MeterError Nat}
    (h : (convertMore device left sum).Ends t res) :
    ∃ n, n ≤ left ∧ (left ≠ 0 → n ≠ 0) ∧ t.questions = List.replicate n (device, .convert) := by
  induction left generalizing sum t with
  | zero =>
    obtain ⟨rfl, -⟩ := Prog.ends_pure.1 h
    exact ⟨0, Nat.le_refl _, id, rfl⟩
  | succ left ih =>
    obtain ⟨t₁, answer, t₂, hfirst, k₁, rfl⟩ := Prog.ends_bind.1 h
    rw [Trace.questions_append, questions_meter hfirst]
    cases answer with
    | error e =>
      obtain ⟨rfl, -⟩ := Prog.ends_pure.1 k₁
      exact ⟨1, Nat.succ_pos _, fun _ => Nat.one_ne_zero, rfl⟩
    | ok raw =>
      obtain ⟨n, hle, -, hmore⟩ := ih k₁
      exact ⟨n + 1, Nat.succ_le_succ hle, fun _ => Nat.succ_ne_zero n, by rw [hmore]; rfl⟩

theorem AdcMeter.average_questions {m : AdcMeter} {res : Except MeterError Nat}
    (h : m.average.Ends t res) : ∃ n, n ≠ 0 ∧ n ≤ conversionsPerRead ∧
      t.questions = List.replicate n (m.device, .convert) := by
  obtain ⟨_, hconvert, -⟩ := Prog.ends_bind_pure.1 h
  obtain ⟨n, hle, hsome, hquestions⟩ := convertMore_questions hconvert
  exact ⟨n, hsome (by decide), hle, hquestions⟩

theorem AdcMeter.averagePowered_asked {m : AdcMeter} {most utcMs : Nat}
    {res : Except MeterError Nat} (hopen : m.isOpen = true) (h : m.averagePowered.Ends t res) :
    Source.Asked most utcMs (.adc m) t.questions := by
  simp only [averagePowered] at h
  split at h
  next hpin =>
    obtain ⟨t₁, driven, u₁, hdrive, k₁, rfl⟩ := Prog.ends_bind.1 h
    rw [Trace.questions_append, questions_meter hdrive]
    split at k₁
    next =>
      obtain ⟨rfl, -⟩ := Prog.ends_pure.1 k₁
      exact .unpowered hopen hpin
    next =>
      obtain ⟨t₂, _, u₂, hsettle, k₂, rfl⟩ := Prog.ends_bind.1 k₁
      obtain ⟨t₃, result, u₃, haverage, k₃, rfl⟩ := Prog.ends_bind.1 k₂
      obtain ⟨t₄, _, u₄, hlower, k₄, rfl⟩ := Prog.ends_bind.1 k₃
      obtain ⟨rfl, -⟩ := Prog.ends_pure.1 k₄
      obtain ⟨n, hsome, hle, hconversions⟩ := average_questions haverage
      have hlower : t₄.questions = [(m.device, .drive false)] := by
        obtain ⟨_, hlower, -⟩ := Prog.ends_bind_pure.1 hlower
        exact questions_meter hlower
      simp only [Trace.questions_append, questions_meter hsettle, hconversions, hlower]
      exact .powered hopen hpin hsome hle
  next hpin =>
    obtain ⟨n, hsome, hle, hconversions⟩ := average_questions h
    rw [hconversions]
    exact .plain hopen (by simpa using hpin) hsome hle

/-- A read asks its source. -/
theorem Source.read_asked {source : Source} {supply : Option SupplyReading} {most utcMs : Nat}
    {outcome : ReadOutcome} (hmost : most ≠ 0)
    (h : (source.read supply most utcMs).Ends t outcome) :
    source.Asked most utcMs t.questions := by
  cases source with
  | adc m =>
    simp only [read, AdcMeter.read] at h
    split at h
    next hclosed =>
      obtain ⟨rfl, -⟩ := Prog.ends_pure.1 h
      exact .shut (by simpa using hclosed)
    next hopen =>
      obtain ⟨t₁, result, t₂, haverage, k₁, rfl⟩ := Prog.ends_bind.1 (by simpa [hmost] using h)
      have hasked : Source.Asked most utcMs (.adc m) t₁.questions :=
        AdcMeter.averagePowered_asked (by simpa using hopen) haverage
      have hlog : t₂.questions = [] := by
        cases result with
        | error e => rw [(Prog.ends_pure.1 k₁).1]; rfl
        | ok raw =>
          obtain ⟨_, hlog, -⟩ := Prog.ends_bind_pure.1 k₁
          cases Prog.ends_perform.1 hlog
          rfl
      rw [Trace.questions_append, hlog, List.append_nil]
      exact hasked
  | selfMonitor m =>
    obtain ⟨_, hmemory, -⟩ := Prog.ends_bind_pure.1 h
    rw [questions_meter hmemory]
    exact .memory
  | external m =>
    rw [questions_meter h]
    exact .external

/-- A source that is open is asked for something. -/
theorem Source.Asked.ne_nil {source : Source} {most utcMs : Nat} {asked : List (Nat × MeterCall)}
    (h : source.Asked most utcMs asked) (hopen : source.isOpen = true) : asked ≠ [] := by
  cases h with
  | shut hclosed =>
    rw [isOpen, hclosed] at hopen
    cases hopen
  | unpowered | powered | memory | external => simp
  | plain _ _ hsome => simpa using hsome

end Questions

namespace SpeedController

variable {now : Instant} {speed : SpeedController}

theorem isDefault_kinds (h : [.processor] ⊆ kinds) :
    Prog.Asks (Effect.Of kinds) speed.isDefault := by
  simpa [isDefault] using h

theorem lowTarget_kinds {divisor : Nat} (h : [.processor] ⊆ kinds) :
    Prog.Asks (Effect.Of kinds) (speed.lowTarget divisor) := by
  have hprocessor : .processor ∈ kinds := by simpa using h
  simp only [lowTarget]
  split <;> simp [hprocessor]

theorem switchTo_kinds {mhz : Nat} (h : [.note, .clock, .processor] ⊆ kinds) :
    Prog.Asks (Effect.Of kinds) (speed.switchTo mhz now) := by
  obtain ⟨hnote, hclock, hprocessor⟩ : .note ∈ kinds ∧ .clock ∈ kinds ∧ .processor ∈ kinds := by
    simpa using h
  have haccount : Prog.Asks (Effect.Of kinds) (speed.account now) := by
    simp [account, isDefault, hprocessor]
  simp only [switchTo, Act.asks_bind, Act.asks_cpu, Effect.Of, Effect.kind, hclock, hprocessor,
    haccount, true_and]
  rintro source - c - changed -
  split <;> simp [hnote]

theorem setDefault_kinds (h : [.note, .clock, .processor] ⊆ kinds) :
    Prog.Asks (Effect.Of kinds) (speed.setDefault now) := by
  simp only [setDefault, Act.asks_bind, isDefault_kinds (List.Subset.trans (by decide) h), true_and]
  rintro answer -
  split <;> simp [switchTo_kinds h]

theorem setLow_kinds {divisor : Nat} (h : [.note, .clock, .processor] ⊆ kinds) :
    Prog.Asks (Effect.Of kinds) (speed.setLow divisor now) := by
  obtain ⟨-, -, hprocessor⟩ : .note ∈ kinds ∧ .clock ∈ kinds ∧ .processor ∈ kinds := by
    simpa using h
  simp only [setLow, Act.asks_bind, lowTarget_kinds (List.Subset.trans (by decide) h), true_and]
  rintro target -
  cases target with
  | none => exact Act.asks_pure
  | some target =>
    simp only [Act.asks_bind, Act.asks_cpu, Effect.Of, Effect.kind, hprocessor, true_and]
    rintro mhz -
    split <;> simp [switchTo_kinds h]

end SpeedController

namespace RadioController

variable {r : RadioController}

theorem withBus_gives {α : Type} {body : Act α} {a : α} (h : (r.withBus body).Gives a) :
    body.Gives a := by
  simp only [withBus] at h
  split at h
  next =>
    simp only [Act.gives_bind, Act.gives_pure] at h
    obtain ⟨_, -, a', ha, _, -, rfl⟩ := h
    exact ha
  next => exact h

/-- What is done while the bus is held is all that is done, but for the bus. -/
theorem withBus_ends {α : Type} {body : Act α} {t : Trace Node} {a : α}
    (h : (r.withBus body).Ends t a) : ∃ t₁ t₂ t₃, t = t₁ ++ (t₂ ++ t₃) ∧ Trace.Of [.radio] t₁ ∧
      body.Ends t₂ a ∧ Trace.Of [.radio] t₃ := by
  simp only [withBus] at h
  split at h
  next =>
    obtain ⟨t₁, _, u₁, hacquire, k₁, rfl⟩ := Prog.ends_bind.1 h
    obtain ⟨t₂, a', t₃, hbody, k₂, rfl⟩ := Prog.ends_bind.1 k₁
    obtain ⟨_, hrelease, rfl⟩ := Prog.ends_bind_pure.1 k₂
    exact ⟨t₁, t₂, t₃, rfl, hacquire.of (by simp), hbody, hrelease.of (by simp)⟩
  next => exact ⟨[], t, [], by simp, Trace.of_nil, h, Trace.of_nil⟩

theorem withBus_kinds {α : Type} {body : Act α} (h : [.radio] ⊆ kinds)
    (hbody : Prog.Asks (Effect.Of kinds) body) : Prog.Asks (Effect.Of kinds) (r.withBus body) := by
  have hradio : .radio ∈ kinds := by simpa using h
  simp only [withBus]
  split <;> simp [hbody, hradio]

theorem note_kinds {event : LinkEvent} (h : [.note] ⊆ kinds) :
    Prog.Asks (Effect.Of kinds) (r.note event) := by
  have hnote : .note ∈ kinds := by simpa using h
  simp only [note]
  split <;> simp [hnote]

theorem isConnected_kinds (h : [.note, .time, .link] ⊆ kinds) :
    Prog.Asks (Effect.Of kinds) r.isConnected := by
  obtain ⟨hnote, htime, hlink⟩ : .note ∈ kinds ∧ .time ∈ kinds ∧ .link ∈ kinds := by simpa using h
  have hstatus : Prog.Asks (Effect.Of kinds) r.linkStatus := by
    simp only [linkStatus]
    split <;> simp [hlink]
  simp only [isConnected, Act.asks_bind, Act.asks_log, Effect.Of, Effect.kind, hnote, hstatus,
    true_and]
  rintro status - - -
  split <;> simp [hnote, htime, Tally.isFailure, note_kinds]

theorem disable_kinds (h : [.note, .time, .radio] ⊆ kinds) :
    Prog.Asks (Effect.Of kinds) r.disable := by
  obtain ⟨hnote, htime, hradio⟩ : .note ∈ kinds ∧ .time ∈ kinds ∧ .radio ∈ kinds := by simpa using h
  simp only [disable]
  split <;> simp [hnote, htime, hradio, Tally.isFailure, note_kinds]

theorem joinTries_kinds {tries left : Nat} {cause : RadioError}
    (h : [.note, .time, .link, .radio, .wake] ⊆ kinds) :
    Prog.Asks (Effect.Of kinds) (joinTries tries left cause r) := by
  obtain ⟨hnote, htime, hlink, hradio, hwake⟩ : .note ∈ kinds ∧ .time ∈ kinds ∧ .link ∈ kinds ∧
    .radio ∈ kinds ∧ .wake ∈ kinds := by simpa using h
  induction left generalizing r cause with
  | zero => simp [joinTries, giveUp, hnote, htime, hradio, Tally.isFailure, disable_kinds]
  | succ left ih =>
    simp only [joinTries, joinOnce, Act.asks_bind, Act.asks_count, Act.asks_log, Act.asks_radio,
      Act.asks_pure, Effect.Of, Effect.kind, Tally.isFailure, hnote, hradio, hwake, implies_true,
      true_and, Bool.false_eq_true, if_false]
    rintro answer -
    cases answer with
    | ok u => simp [hnote, htime, hlink, Tally.isFailure, note_kinds]
    | error cause =>
      have hnoted (event : LinkEvent) : Prog.Asks (Effect.Of kinds) (r.note event) :=
        note_kinds (by simpa using hnote)
      simp only [Act.asks_bind, hnoted, Act.asks_log, Effect.Of, Effect.kind, hnote, true_and]
      rintro r' - - -
      split <;> simp [ih, htime]

theorem enable_kinds {retries : Nat} (h : [.note, .time, .link, .radio, .wake] ⊆ kinds) :
    Prog.Asks (Effect.Of kinds) (r.enable retries) := by
  obtain ⟨hnote, htime, hlink, hradio, hwake⟩ : .note ∈ kinds ∧ .time ∈ kinds ∧ .link ∈ kinds ∧
    .radio ∈ kinds ∧ .wake ∈ kinds := by simpa using h
  have halready : Prog.Asks (Effect.Of kinds) r.alreadyUp := by
    simp only [alreadyUp]
    split <;> simp [hnote, htime, hlink, isConnected_kinds]
  have hpower (r : RadioController) : Prog.Asks (Effect.Of kinds) r.powerUp := by
    simp only [powerUp]
    split
    next => simp [hnote, hlink]
    next =>
      simp only [Act.asks_bind, Act.asks_radio, Effect.Of, Effect.kind, hwake, true_and]
      rintro answer -
      cases answer <;> simp [hnote, Tally.isFailure]
  simp only [enable, Act.asks_bind, halready, true_and]
  rintro ⟨up, r₁⟩ -
  split
  next => simp [hnote]
  next =>
    simp only [Act.asks_bind, Act.asks_log, Effect.Of, Effect.kind, hnote, hpower, true_and]
    rintro - - ⟨powered, r₂⟩ -
    split <;> simp [hnote, htime, hlink, hradio, hwake, note_kinds, joinTries_kinds]

theorem blink_kinds (h : [.time, .radio] ⊆ kinds) : Prog.Asks (Effect.Of kinds) r.blink := by
  obtain ⟨htime, hradio⟩ : .time ∈ kinds ∧ .radio ∈ kinds := by simpa using h
  simp only [blink]
  split <;> simp [htime, hradio]

theorem measure_kinds {utcMs : Nat} (h : [.note, .radio] ⊆ kinds) :
    Prog.Asks (Effect.Of kinds) (r.measure utcMs) := by
  obtain ⟨hnote, hradio⟩ : .note ∈ kinds ∧ .radio ∈ kinds := by simpa using h
  simp only [measure]
  split
  next => exact Act.asks_pure
  next =>
    simp only [Act.asks_bind, Act.asks_radio, Effect.Of, Effect.kind, hradio, true_and]
    rintro level -
    cases level <;> simp [hnote, Tally.isFailure]

end RadioController

end MeterNode
