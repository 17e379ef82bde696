import MeterNode.Proofs.Power.Calls

/-!
# The speed of the processor

`SpeedController.Ran` follows a controller through any number of calls, and the processor with it.
`Pace.course` has the frequencies that were in force on the way, and `changesIn` counts how often
the frequency changed.  A call changes it once at most (`Turn.course`).

Between two calls the processor stays at one frequency.  `timeAt` adds these times up for one of the
two settings, where a frequency that is not the default is the low setting, and `Accounts` compares
them with the counters.  Every call that asks for another frequency books the time first, even if
the processor refuses, so the time since the last booking belongs to one setting
(`Accounts.booked`).
-/

namespace MeterNode

/-! ## The frequencies of a run -/

/-- The number of changes in a row of frequencies. -/
def changesIn : List Nat → Nat
  | first :: second :: rest => (if first = second then 0 else 1) + changesIn (second :: rest)
  | _ => 0

theorem changesIn_replicate (n mhz : Nat) : changesIn (List.replicate n mhz) = 0 := by
  induction n with
  | zero => rfl
  | succ n ih =>
    cases n with
    | zero => rfl
    | succ n =>
      rw [List.replicate_succ, List.replicate_succ, changesIn, if_pos rfl, ← List.replicate_succ,
        ih]

namespace Pace

/-- The frequencies in force ahead of a trace and behind each operation of it. -/
def course : Pace → Trace Node → List Nat
  | p, [] => [p.mhz]
  | p, ⟨op, answer⟩ :: t => p.mhz :: (p.next? op answer).elim [] fun p => p.course t

variable {p p₁ p' : Pace} {t t₁ t₂ : Trace Node} {kinds : List Effect.Kind}

theorem course_cons {op : Effect} {answer : op.Answer} (hnext : p.next? op answer = some p₁) :
    p.course (⟨op, answer⟩ :: t) = p.mhz :: p₁.course t := by
  have h : p.course (⟨op, answer⟩ :: t) =
      p.mhz :: (p.next? op answer).elim [] fun p => p.course t := rfl
  rw [h, hnext, Option.elim_some]

theorem course_eq_cons (p : Pace) (t : Trace Node) : ∃ rest, p.course t = p.mhz :: rest := by
  cases t with
  | nil => exact ⟨[], rfl⟩
  | cons step t => exact ⟨_, rfl⟩

theorem mem_course_append {mhz : Nat} (hp : p.follow t₁ = some p₁)
    (h : mhz ∈ p.course (t₁ ++ t₂)) : mhz ∈ p.course t₁ ∨ mhz ∈ p₁.course t₂ := by
  induction t₁ generalizing p with
  | nil =>
    cases Option.some.inj hp
    exact Or.inr h
  | cons step t ih =>
    obtain ⟨op, answer⟩ := step
    obtain ⟨p₂, hnext, hrest⟩ := Option.bind_eq_some_iff.1 hp
    rw [List.cons_append, course_cons hnext, List.mem_cons] at h
    rw [course_cons hnext, List.mem_cons]
    rcases h with rfl | h
    · exact Or.inl (Or.inl rfl)
    · rcases ih hrest h with h | h
      · exact Or.inl (Or.inr h)
      · exact Or.inr h

/-- The changes of two traces, one behind the other. -/
theorem changesIn_append (hp : p.follow t₁ = some p₁) : changesIn (p.course (t₁ ++ t₂)) =
    changesIn (p.course t₁) + changesIn (p₁.course t₂) := by
  induction t₁ generalizing p with
  | nil =>
    cases Option.some.inj hp
    exact (Nat.zero_add _).symm
  | cons step t ih =>
    obtain ⟨op, answer⟩ := step
    obtain ⟨p₂, hnext, hrest⟩ := Option.bind_eq_some_iff.1 hp
    have hsum := ih hrest
    obtain ⟨rest, hcourse⟩ := course_eq_cons p₂ t
    obtain ⟨rest', hcourse'⟩ := course_eq_cons p₂ (t ++ t₂)
    rw [hcourse, hcourse'] at hsum
    rw [List.cons_append, course_cons hnext, course_cons hnext, hcourse, hcourse', changesIn,
      changesIn, hsum, Nat.add_assoc]

/-- Nothing else changes the frequency. -/
theorem course_of (h : t.Of kinds) (hclock : .clock ∉ kinds) (hp : p.follow t = some p') :
    p.course t = List.replicate (t.length + 1) p.mhz := by
  induction t with
  | nil => rfl
  | cons step t ih =>
    obtain ⟨op, answer⟩ := step
    obtain ⟨p₁, hnext, hrest⟩ := Option.bind_eq_some_iff.1 hp
    obtain ⟨hop, ht⟩ := List.forall_mem_cons.1 h
    have hsingle : Trace.Of kinds [⟨op, answer⟩] := by
      simpa [Trace.Of] using hop
    obtain rfl : p₁ = p :=
      follow_of hsingle hclock (Option.bind_eq_some_iff.2 ⟨p₁, hnext, rfl⟩)
    rw [course_cons hnext, ih ht hrest]
    rfl

end Pace

namespace SpeedController

variable {steps : List Nat} {c c' : SpeedController} {p p' : Pace} {t : Trace Node} {now : Instant}
  {books : Bool}

/-- A call changes the frequency once at most. -/
theorem Turn.course (h : Turn steps c p now books t p' c') (hp : p.follow t = some p') :
    (∀ mhz ∈ p.course t, mhz = p.mhz ∨ mhz = p'.mhz) ∧
      changesIn (p.course t) = if p'.mhz = p.mhz then 0 else 1 := by
  cases h with
  | still hof | booked hof =>
    rw [Pace.course_of hof (by decide) hp, if_pos rfl]
    exact ⟨fun mhz hmhz => Or.inl (List.eq_of_mem_replicate hmhz), changesIn_replicate _ _⟩
  | @asked before behind target accepted hbefore hbehind =>
    obtain ⟨p₁, hp₁, hp₂⟩ := Pace.follow_append.1 hp
    obtain rfl := Pace.follow_of hbefore (by decide) hp₁
    obtain ⟨p₂, hnext, hp₃⟩ := Option.bind_eq_some_iff.1 hp₂
    have hcourse : p₁.course (⟨.cpu (.setMhz target), accepted⟩ :: behind) =
        p₁.mhz :: List.replicate (behind.length + 1) p₂.mhz := by
      rw [Pace.course_cons hnext, Pace.course_of hbehind (by decide) hp₃]
    rw [Option.some.inj hnext]
    constructor
    · intro mhz hmhz
      rcases Pace.mem_course_append hp₁ hmhz with hmhz | hmhz
      · rw [Pace.course_of hbefore (by decide) hp₁] at hmhz
        exact Or.inl (List.eq_of_mem_replicate hmhz)
      · rw [hcourse] at hmhz
        exact (List.mem_cons.1 hmhz).imp_right List.eq_of_mem_replicate
    · rw [Pace.changesIn_append hp₁, hcourse, Pace.course_of hbefore (by decide) hp₁,
        changesIn_replicate, Nat.zero_add, List.replicate_succ, changesIn, ← List.replicate_succ,
        changesIn_replicate, Nat.add_zero]
      simp only [eq_comm]

end SpeedController

/-! ## Booking -/

/-- The milliseconds at the default frequency, or at the low setting. -/
def ClockStats.millis (s : ClockStats) (atDefault : Bool) : Nat :=
  if atDefault then s.defaultMs else s.lowMs

namespace SpeedController

variable {steps : List Nat} {c c' : SpeedController} {p p' : Pace} {t : Trace Node} {now : Instant}
  {books atDefault : Bool}

@[simp] theorem book_switches : (c.book now atDefault).stats.switches = c.stats.switches := by
  unfold book
  split <;> rfl

/-- The whole milliseconds are booked to one setting. -/
theorem book_millis (setting : Bool) : (c.book now atDefault).stats.millis setting =
    if atDefault = setting then min (c.stats.millis setting + (now - c.since) / 1000) clockMillisMax
    else c.stats.millis setting := by
  cases atDefault <;> cases setting <;> rfl

@[simp] theorem addSwitch_switches :
    c.addSwitch.stats.switches = min (c.stats.switches + 1) switchesMax := rfl

theorem Turn.default_eq (h : Turn steps c p now books t p' c') : c'.defaultMhz = c.defaultMhz := by
  cases h with
  | still | booked => rfl
  | asked => split <;> rfl

theorem Turn.switches_eq (h : Turn steps c p now books t p' c') : c'.stats.switches =
    if p'.mhz = p.mhz then c.stats.switches else min (c.stats.switches + 1) switchesMax := by
  cases h with
  | still | booked => simp
  | @asked before behind target accepted _ _ _ hother =>
    cases accepted with
    | true => simp [hother.symm]
    | false => simp

/-- The frequency that comes into force may be in force. -/
theorem Turn.allowed (h : Turn steps c p now books t p' c') :
    p'.mhz = p.mhz ∨ Allowed steps c.defaultMhz p'.mhz := by
  cases h with
  | still | booked => exact Or.inl rfl
  | @asked before behind target accepted _ _ hallowed =>
    cases accepted with
    | true => exact Or.inr hallowed
    | false => exact Or.inl rfl

/-- A call that does not book the time does nothing. -/
theorem Turn.still_eq (h : Turn steps c p now false t p' c') : p' = p ∧ c' = c := by
  cases h
  exact ⟨rfl, rfl⟩

/-- The time is booked to the frequency that has been in force until then. -/
theorem Turn.booked_eq (h : Turn steps c p now true t p' c') : c'.since = now ∧
    ∀ setting, c'.stats.millis setting =
      (c.book now (p.mhz == c.defaultMhz)).stats.millis setting := by
  cases h with
  | booked => exact ⟨rfl, fun _ => rfl⟩
  | @asked _ _ _ accepted => cases accepted <;> exact ⟨rfl, fun _ => rfl⟩

/-! ## True times -/

/-- A call, as far as the time goes. -/
structure Visit where
  /-- When the call was made. -/
  at_ : Instant
  /-- The frequency that had been in force until then. -/
  mhz : Nat
  /-- The call booked the time. -/
  books : Bool

/-- When the last call was made, of some calls, the last one first. -/
def latest (start : Instant) : List Visit → Nat
  | [] => start
  | v :: _ => v.at_

/-- The microseconds from the start to the last call at one of the settings. -/
def timeAt (mhz : Nat) (setting : Bool) (start : Instant) : List Visit → Nat
  | [] => 0
  | v :: vs => timeAt mhz setting start vs +
      if (v.mhz == mhz) = setting then v.at_ - latest start vs else 0

/-- The calls up to the last one that booked the time. -/
def settled (vs : List Visit) : List Visit := vs.dropWhile fun v => !v.books

/-- The number of calls that booked the time. -/
def bookings (vs : List Visit) : Nat := vs.countP Visit.books

section Visits

variable {mhz : Nat} {setting : Bool} {start : Instant} {v : Visit} {vs : List Visit}

@[simp] theorem latest_cons : latest start (v :: vs) = v.at_ := rfl

theorem timeAt_cons : timeAt mhz setting start (v :: vs) = timeAt mhz setting start vs +
    if (v.mhz == mhz) = setting then v.at_ - latest start vs else 0 := rfl

/-- Two spans at one setting, one behind the other. -/
theorem add_spans {here : Prop} [Decidable here] {first second third : Nat} (h : first ≤ second)
    (h' : second ≤ third) :
    (if here then second - first else 0) + (if here then third - second else 0) =
      if here then third - first else 0 := by
  split <;> omega

theorem settled_cons_of_not_books (h : v.books = false) : settled (v :: vs) = settled vs :=
  List.dropWhile_cons_of_pos (by simp [h])

theorem settled_cons_of_books (h : v.books = true) : settled (v :: vs) = v :: vs :=
  List.dropWhile_cons_of_neg (by simp [h])

theorem bookings_cons_of_not_books (h : v.books = false) : bookings (v :: vs) = bookings vs :=
  List.countP_cons_of_neg (by simp [h])

theorem bookings_cons_of_books (h : v.books = true) : bookings (v :: vs) = bookings vs + 1 :=
  List.countP_cons_of_pos h

end Visits

/-- What the counters are by the true times. -/
structure Accounts (mhz : Nat) (start : Instant) (vs : List Visit) (p : Pace)
    (c : SpeedController) : Prop where
  default_eq : c.defaultMhz = mhz
  since_le : c.since ≤ latest start vs
  /-- Since the last booking there has been one setting. -/
  unbooked (setting : Bool) : timeAt mhz setting start vs =
    timeAt mhz setting start (settled vs) +
      if (p.mhz == mhz) = setting then latest start vs - c.since else 0
  le_latest (setting : Bool) : timeAt mhz setting start vs ≤ latest start vs
  le_time (setting : Bool) : 1000 * c.stats.millis setting ≤ timeAt mhz setting start (settled vs)
  time_le (setting : Bool) : timeAt mhz setting start (settled vs) ≤
    1000 * c.stats.millis setting + 999 * bookings vs

namespace Accounts

variable {steps : List Nat} {mhz now : Nat} {start : Instant} {vs : List Visit} {p p' : Pace}
  {c c' : SpeedController} {t : Trace Node}

theorem new : Accounts mhz start [] p { defaultMhz := mhz, since := start } where
  default_eq := rfl
  since_le := Nat.le_refl start
  unbooked setting := by simp [timeAt, settled, latest]
  le_latest setting := Nat.zero_le start
  le_time setting := by cases setting <;> exact Nat.le_refl 0
  time_le setting := Nat.zero_le _

/-- A call that does not book the time. -/
theorem still (h : Accounts mhz start vs p c) (hnow : latest start vs ≤ now) :
    Accounts mhz start (⟨now, p.mhz, false⟩ :: vs) p c := by
  obtain ⟨hdefault, hsince, hunbooked, hlatest, hle, htime⟩ := h
  have hsettled : settled (⟨now, p.mhz, false⟩ :: vs) = settled vs := settled_cons_of_not_books rfl
  refine ⟨hdefault, Nat.le_trans hsince hnow, fun setting => ?_, fun setting => ?_, ?_, ?_⟩
  · rw [hsettled, timeAt_cons, hunbooked setting, Nat.add_assoc, add_spans hsince hnow]
    rfl
  · have hbefore := hlatest setting
    rw [timeAt_cons, latest_cons]
    simp only
    split <;> omega
  · rwa [hsettled]
  · rwa [hsettled, bookings_cons_of_not_books rfl]

/-- A call that books the time. -/
theorem booked (h : Accounts mhz start vs p c) (hnow : latest start vs ≤ now)
    (hmax : now < UInt64.size) (hdefault : c'.defaultMhz = c.defaultMhz) (hsince : c'.since = now)
    (hmillis : ∀ setting, c'.stats.millis setting =
      (c.book now (p.mhz == c.defaultMhz)).stats.millis setting) :
    Accounts mhz start (⟨now, p.mhz, true⟩ :: vs) p' c' := by
  obtain ⟨hmhz, hbefore, hunbooked, hlatest, hle, htime⟩ := h
  have hsettled : settled (⟨now, p.mhz, true⟩ :: vs) = ⟨now, p.mhz, true⟩ :: vs :=
    settled_cons_of_books rfl
  -- the time since the last booking is at one setting
  have hsum (setting : Bool) : timeAt mhz setting start (⟨now, p.mhz, true⟩ :: vs) =
      timeAt mhz setting start (settled vs) +
        if (p.mhz == mhz) = setting then now - c.since else 0 := by
    rw [timeAt_cons, hunbooked setting, Nat.add_assoc, add_spans hbefore hnow]
  have hall (setting : Bool) : timeAt mhz setting start (⟨now, p.mhz, true⟩ :: vs) ≤ now := by
    have hlast := hlatest setting
    rw [timeAt_cons]
    simp only
    split <;> omega
  have hbooked (setting : Bool) : c'.stats.millis setting = c.stats.millis setting +
      if (p.mhz == mhz) = setting then (now - c.since) / 1000 else 0 := by
    have hfits := hall setting
    rw [hsum] at hfits
    have hlow := hle setting
    rw [hmillis, book_millis, hmhz]
    unfold clockMillisMax
    split <;> omega
  refine ⟨hdefault.trans hmhz, Nat.le_of_eq hsince, fun setting => ?_, hall, fun setting => ?_,
    fun setting => ?_⟩
  · rw [hsettled, hsince, latest_cons, Nat.sub_self]
    split <;> rfl
  · have hlow := hle setting
    rw [hsettled, hsum, hbooked]
    split <;> omega
  · have hhigh := htime setting
    rw [hsettled, hsum, hbooked, bookings_cons_of_books rfl]
    split <;> omega

end Accounts

/-! ## Runs -/

variable {steps : List Nat} {mhz : Nat} {start : Instant} {vs : List Visit} {t : Trace Node}
  {p : Pace} {c : SpeedController}

/-- What comes of a controller in some calls, one behind the other.  The processor has always the
same low steps, and it runs at a given frequency when the controller is made. -/
inductive Ran (steps : List Nat) (mhz : Nat) (start : Instant) :
    List Visit → Trace Node → Pace → SpeedController → Prop where
  | new {t : Trace Node} {p : Pace} {c : SpeedController} :
      (SpeedController.new start).Ends t c → ({ mhz } : Pace).follow t = some p →
      Ran steps mhz start [] t p c
  | call {vs : List Visit} {t t' : Trace Node} {p p' : Pace} {c c' : SpeedController}
      {call : SpeedCall} {answer : SpeedAnswer} {now : Nat} :
      Ran steps mhz start vs t p c → latest start vs ≤ now → now < UInt64.size →
      (call.perform c now).Ends t' (answer, c') → t'.Offers steps → p.follow t' = some p' →
      Ran steps mhz start (⟨now, p.mhz, call.books t'⟩ :: vs) (t ++ t') p' c'

theorem new_follow (h : (new start).Ends t c) (hp : ({ mhz } : Pace).follow t = some p) :
    c = { defaultMhz := mhz, since := start } ∧ p = { mhz } ∧
      ({ mhz } : Pace).course t = [mhz, mhz] := by
  obtain ⟨asked, hasked, rfl⟩ := Prog.ends_bind_pure.1 h
  obtain ⟨rfl, rfl⟩ := currentMhz_follow hasked hp
  have hof : t.Of [.processor] := hasked.of (by simp)
  refine ⟨rfl, rfl, ?_⟩
  rw [Pace.course_of hof (by decide) hp, Prog.ends_perform.1 hasked]
  rfl

theorem Ran.accounts (h : Ran steps mhz start vs t p c) : Accounts mhz start vs p c := by
  induction h with
  | new hnew hp =>
    obtain ⟨rfl, rfl, -⟩ := new_follow hnew hp
    exact .new
  | call _ hnow hmax hcall hsteps hp ih =>
    obtain ⟨hturn, -⟩ := SpeedCall.turn hcall hsteps hp
    generalize SpeedCall.books _ _ = books at hturn ⊢
    cases books with
    | false =>
      obtain ⟨rfl, rfl⟩ := hturn.still_eq
      exact ih.still hnow
    | true =>
      obtain ⟨hsince, hmillis⟩ := hturn.booked_eq
      exact ih.booked hnow hmax hturn.default_eq hsince hmillis

theorem Ran.frequencies (h : Ran steps mhz start vs t p c) :
    ({ mhz } : Pace).follow t = some p ∧ Allowed steps mhz p.mhz ∧
      (∀ frequency ∈ ({ mhz } : Pace).course t, Allowed steps mhz frequency) ∧
      c.stats.switches = min (changesIn (({ mhz } : Pace).course t)) switchesMax := by
  induction h with
  | new hnew hp =>
    obtain ⟨rfl, rfl, hcourse⟩ := new_follow hnew hp
    rw [hcourse]
    exact ⟨hp, Or.inl rfl, by simp [Allowed], by simp [changesIn]⟩
  | @call _ _ _ _ p' c c' _ _ _ hran _ _ hcall hsteps hp ih =>
    obtain ⟨hfollow, hbefore, hcourse, hswitches⟩ := ih
    obtain ⟨hturn, -⟩ := SpeedCall.turn hcall hsteps hp
    obtain ⟨hmem, hchanges⟩ := hturn.course hp
    have hafter : Allowed steps mhz p'.mhz := by
      rcases hturn.allowed with hsame | hallowed
      · rwa [hsame]
      · rwa [hran.accounts.default_eq] at hallowed
    refine ⟨Pace.follow_append.2 ⟨_, hfollow, hp⟩, hafter, fun frequency hfrequency => ?_, ?_⟩
    · rcases Pace.mem_course_append hfollow hfrequency with hold | hnew
      · exact hcourse frequency hold
      · rcases hmem frequency hnew with rfl | rfl
        · exact hbefore
        · exact hafter
    · rw [Pace.changesIn_append hfollow, hchanges, hturn.switches_eq, hswitches]
      split <;> omega

/-- The frequency is always the default or a step below it, and every change of it is counted, up to
the end of the counter.  The low setting is the step below the default that is nearest to a fraction
of the default.  Every call can be made, whether a change is accepted or refused, and a setting
answers whether the processor runs at it then.  The time that is booked to a setting is at no point
ahead of the time that the processor has spent at it, and at the last booking it was behind it by
less than a millisecond for each booking. -/
theorem Ran.speed_and_times (h : Ran steps mhz start vs t p c) :
    (∀ frequency ∈ ({ mhz } : Pace).course t, Allowed steps mhz frequency) ∧
    (∀ divisor target, (∃ t', (c.lowTarget divisor).Ends t' target ∧ t'.Offers steps) ↔
      LowSetting steps mhz divisor target) ∧
    (∀ (call : SpeedCall) (now : Instant) (t' : Trace Node) (answer : SpeedAnswer)
      (c' : SpeedController) (p' : Pace), (call.perform c now).Ends t' (answer, c') →
        t'.Offers steps → p.follow t' = some p' → call.Answers steps mhz p' c' answer) ∧
    (∀ (call : SpeedCall) (now : Instant) (accept : Bool), ∃ t' answer c' p',
      (call.perform c now).Ends t' (answer, c') ∧ t'.Offers steps ∧ p.follow t' = some p' ∧
        ∀ step ∈ t', step.1.kind = .clock → Effect.accepted step.1 step.2 = accept) ∧
    c.stats.switches = min (changesIn (({ mhz } : Pace).course t)) switchesMax ∧
    ∀ setting, 1000 * c.stats.millis setting ≤ timeAt mhz setting start (settled vs) ∧
      timeAt mhz setting start (settled vs) ≤ 1000 * c.stats.millis setting + 999 * bookings vs ∧
      timeAt mhz setting start (settled vs) ≤ timeAt mhz setting start vs := by
  have haccounts := h.accounts
  have hdefault := haccounts.default_eq
  obtain ⟨-, -, hcourse, hswitches⟩ := h.frequencies
  refine ⟨hcourse, fun divisor target => ?_, fun call now t' answer c' p' hcall hsteps hp => ?_,
    fun call now accept => ?_, hswitches, fun setting => ⟨haccounts.le_time setting,
      haccounts.time_le setting, ?_⟩⟩
  · rw [lowTarget_iff, hdefault]
  · rw [← hdefault]
    exact (SpeedCall.turn hcall hsteps hp).2
  · obtain ⟨t', ⟨answer, c'⟩, p', hends⟩ := Pace.exists_ends SpeedCall.perform_kinds steps p accept
    exact ⟨t', answer, c', p', hends⟩
  · rw [haccounts.unbooked setting]
    exact Nat.le_add_right _ _

/-- The processor is asked for its frequency. -/
def asked (mhz : Nat) : (op : Node.Op) × Node.Answer op := ⟨.cpu .currentMhz, mhz⟩

/-- Three calls: a processor goes down to its low setting, refuses to leave it, and the counters are
asked for. -/
def refusing : List Visit := [⟨4500000, 80, true⟩, ⟨4000900, 80, true⟩, ⟨1000500, 240, true⟩]

/-- Half a millisecond is missing at both settings. -/
theorem speed_and_times_of_refusing : ∃ t c,
    Ran [80, 160] 240 0 refusing t ⟨80, true⟩ c ∧ c.stats = ⟨1000, 3499, 1⟩ ∧
    changesIn (({ mhz := 240 } : Pace).course t) = 1 ∧
    (timeAt 240 true 0 refusing = 1000500 ∧ timeAt 240 false 0 refusing = 3499500) ∧
    ∀ setting, 1000 * c.stats.millis setting ≤ timeAt 240 setting 0 refusing ∧
      timeAt 240 setting 0 refusing ≤ 1000 * c.stats.millis setting + 999 * 3 := by
  have hnew : Ran [80, 160] 240 0 [] [asked 240] { mhz := 240 } { defaultMhz := 240, since := 0 } :=
    .new (.ask _ (.pure _)) rfl
  have hlow : (SpeedCall.perform (.setLow 3) { defaultMhz := 240, since := 0 } 1000500).Ends
      [⟨.cpu .lowSteps, [80, 160]⟩, asked 240, asked 240, asked 240, ⟨.cpu (.setMhz 80), true⟩,
        ⟨.log .debug "clock: from_mhz=240 to_mhz=80", ()⟩]
      (.inForce true, { defaultMhz := 240, since := 1000500, stats := ⟨1000, 0, 1⟩ }) :=
    .ask _ (.ask _ (.ask _ (.ask _ (.ask _ (.ask _ (.pure _))))))
  have hrefused : (SpeedCall.perform .setDefault
      { defaultMhz := 240, since := 1000500, stats := ⟨1000, 0, 1⟩ } 4000900).Ends
      [asked 80, asked 80, asked 80, ⟨.cpu (.setMhz 240), false⟩,
        ⟨.log .warn "clock: switch failed from_mhz=80 to_mhz=240", ()⟩]
      (.inForce false, { defaultMhz := 240, since := 4000900, stats := ⟨1000, 3000, 1⟩ }) :=
    .ask _ (.ask _ (.ask _ (.ask _ (.ask _ (.pure _)))))
  have hstats : (SpeedCall.perform .stats
      { defaultMhz := 240, since := 4000900, stats := ⟨1000, 3000, 1⟩ } 4500000).Ends [asked 80]
      (.shown ⟨1000, 3499, 1⟩,
        { defaultMhz := 240, since := 4500000, stats := ⟨1000, 3499, 1⟩ }) :=
    .ask _ (.pure _)
  have hslow := hnew.call (by decide) (by decide) hlow (by decide) rfl
  have hran := (hslow.call (by decide) (by decide) hrefused (by decide) rfl).call (by decide)
    (by decide) hstats (by decide) rfl
  obtain ⟨-, -, -, -, -, htimes⟩ := hran.speed_and_times
  refine ⟨_, _, hran, rfl, by decide, by decide, fun setting => ?_⟩
  obtain ⟨hle, hge, -⟩ := htimes setting
  exact ⟨hle, hge⟩

end SpeedController

end MeterNode
