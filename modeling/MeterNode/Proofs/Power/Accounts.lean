import Mathlib.Algebra.Ring.Nat
import MeterNode.Radio.Link

/-!
# The accounts of the radio link

The link is a machine with two levels: connecting and up lie within one state, powered, that is
asked where they have no answer of their own.  `LinkMachine` is this machine.  It keeps its state
beside the phase that the link shows, and each state books to a counter of its own.  State and phase
never part, so the machine does what `RadioLink.step` does (`LinkMachine.handle_eq`).

`RadioLink.changes` lists the changes of phase of a run, and `stays` the times between them.  Each
counter is the sum of the stays in its phase, every one of them cut to whole milliseconds
(`RadioLink.run_booked`).  So a counter is never ahead of the time that was spent in its phase, and
behind it by less than a millisecond for each stay (`spans_bounds`).
-/

namespace MeterNode

/-! ## The machine -/

/-- What a state makes of an event: it gives way to another state, it keeps the event to itself, or
it leaves it to the state around it. -/
inductive LinkMachine.Outcome where
  | enter (state : LinkPhase)
  | handled
  | outer

/-- The state of the machine, and the link with the phase that it shows. -/
structure LinkMachine where
  state : LinkPhase
  link : RadioLink

namespace LinkMachine

variable {m : LinkMachine} {event : LinkEvent}

/-- A machine that starts at an instant. -/
def new (now : Instant) : LinkMachine := ⟨.off, { since := now }⟩

/-- Book the time since the last booking to the counter of one phase, and show another phase. -/
def book (counter shown : LinkPhase) (at_ : Instant) (l : RadioLink) : RadioLink :=
  { since := at_, phase := shown, stats := l.stats.book counter (at_.since l.since).millis }

/-- The radio is off. -/
def off (l : RadioLink) : LinkEvent → Outcome × RadioLink
  | .powerOn at_ => (.enter .connecting, book .off .connecting at_ l)
  | _ => (.handled, l)

/-- The radio joins. -/
def connecting (l : RadioLink) : LinkEvent → Outcome × RadioLink
  | .joined at_ =>
      let l := book .connecting .up at_ l
      (.enter .up, { l with stats := l.stats.addSession })
  | .joinFailed => (.handled, { l with stats := l.stats.addFailure })
  | .powerOff at_ => (.enter .off, book .connecting .off at_ l)
  | _ => (.outer, l)

/-- The link is up. -/
def up (l : RadioLink) : LinkEvent → Outcome × RadioLink
  | .linkLost at_ => (.enter .connecting, book .up .connecting at_ l)
  | .powerOff at_ => (.enter .off, book .up .off at_ l)
  | _ => (.outer, l)

/-- The radio is on: nothing that is left to this state changes anything. -/
def powered (l : RadioLink) (_ : LinkEvent) : Outcome × RadioLink := (.handled, l)

/-- What a state makes of an event. -/
def react : LinkPhase → RadioLink → LinkEvent → Outcome × RadioLink
  | .off => off
  | .connecting => connecting
  | .up => up

/-- Take an event to the state, and from there, if need be, to the state around it. -/
def handle (m : LinkMachine) (event : LinkEvent) : LinkMachine :=
  match react m.state m.link event with
  | (.enter state, link) => ⟨state, link⟩
  | (.handled, link) => ⟨m.state, link⟩
  | (.outer, link) =>
      match powered link event with
      | (.enter state, link) => ⟨state, link⟩
      | (_, link) => ⟨m.state, link⟩

/-- Take some events. -/
def run (m : LinkMachine) (events : List LinkEvent) : LinkMachine := events.foldl handle m

/-- A machine in the state that its link shows does what the link does. -/
theorem handle_eq (h : m.state = m.link.phase) :
    m.handle event = ⟨(m.link.step event).phase, m.link.step event⟩ := by
  obtain ⟨state, since, phase, stats⟩ := m
  obtain rfl : state = phase := h
  cases state with
  | off => cases event <;> rfl
  | connecting => cases event <;> rfl
  | up => cases event <;> rfl

end LinkMachine

namespace RadioLink

variable {l : RadioLink} {event : LinkEvent} {events : List LinkEvent} {phase : LinkPhase}

/-- Apply some events. -/
def run (l : RadioLink) (events : List LinkEvent) : RadioLink := events.foldl step l

@[simp] theorem run_nil : l.run [] = l := rfl

@[simp] theorem run_cons : l.run (event :: events) = (l.step event).run events := rfl

theorem run_append {more : List LinkEvent} : l.run (events ++ more) = (l.run events).run more :=
  List.foldl_append

end RadioLink

theorem LinkMachine.run_eq {m : LinkMachine} {events : List LinkEvent}
    (h : m.state = m.link.phase) :
    m.run events = ⟨(m.link.run events).phase, m.link.run events⟩ := by
  induction events generalizing m with
  | nil =>
    obtain ⟨state, link⟩ := m
    obtain rfl : state = link.phase := h
    rfl
  | cons event events ih =>
    rw [run, List.foldl_cons, handle_eq h]
    exact ih rfl

/-! ## Events -/

namespace LinkEvent

/-- When the event happened, if it says so. -/
def at? : LinkEvent → Option Instant
  | .powerOn at_ | .joined at_ | .linkLost at_ | .powerOff at_ => some at_
  | .joinFailed => none

/-- The event does not apply in a phase. -/
inductive Idle : LinkPhase → LinkEvent → Prop where
  | powerOn {phase : LinkPhase} {at_ : Instant} : phase ≠ .off → Idle phase (.powerOn at_)
  | joined {phase : LinkPhase} {at_ : Instant} : phase ≠ .connecting → Idle phase (.joined at_)
  | joinFailed {phase : LinkPhase} : phase ≠ .connecting → Idle phase .joinFailed
  | linkLost {phase : LinkPhase} {at_ : Instant} : phase ≠ .up → Idle phase (.linkLost at_)
  | off {event : LinkEvent} : (∀ at_, event ≠ .powerOn at_) → Idle .off event

theorem Idle.step_eq {l : RadioLink} {event : LinkEvent} (h : Idle l.phase event) :
    l.step event = l := by
  obtain ⟨since, phase, stats⟩ := l
  cases h with
  | powerOn h =>
    cases phase with
    | off => exact absurd rfl h
    | connecting | up => rfl
  | joined h | joinFailed h =>
    cases phase with
    | connecting => exact absurd rfl h
    | off | up => rfl
  | linkLost h =>
    cases phase with
    | up => exact absurd rfl h
    | off | connecting => rfl
  | off h =>
    cases event with
    | powerOn at_ => exact absurd rfl (h at_)
    | joined | joinFailed | linkLost | powerOff => rfl

end LinkEvent

/-! ## Changes of phase -/

/-- A change of phase. -/
structure LinkChange where
  source : LinkPhase
  target : LinkPhase
  at_ : Instant

/-- The change is from connecting to up. -/
def LinkChange.isSession (c : LinkChange) : Bool := c.source = .connecting && c.target = .up

/-- A time that was spent in one phase. -/
structure LinkStay where
  phase : LinkPhase
  /-- In microseconds. -/
  span : Nat

/-- The whole milliseconds of a stay. -/
def LinkStay.millis (s : LinkStay) : Nat := Instant.millis s.span

/-- The last change of phase, or the start if there was none. -/
def lastChange (start : Instant) : List LinkChange → Instant
  | [] => start
  | c :: cs => lastChange c.at_ cs

/-- The times from the start to the first change and from each change to the next. -/
def stays (start : Instant) : List LinkChange → List LinkStay
  | [] => []
  | c :: cs => ⟨c.source, c.at_.since start⟩ :: stays c.at_ cs

/-- The microseconds that were spent in a phase. -/
def timeIn (phase : LinkPhase) (ss : List LinkStay) : Nat :=
  ((ss.filter (·.phase = phase)).map LinkStay.span).sum

/-- The milliseconds that were spent in a phase, where each stay is cut to whole ones. -/
def millisIn (phase : LinkPhase) (ss : List LinkStay) : Nat :=
  ((ss.filter (·.phase = phase)).map LinkStay.millis).sum

section Stays

variable {start : Instant} {cs : List LinkChange} {ss : List LinkStay}

theorem length_stays (start : Instant) (cs : List LinkChange) :
    (stays start cs).length = cs.length := by
  induction cs generalizing start with
  | nil => rfl
  | cons c cs ih => rw [stays, List.length_cons, List.length_cons, ih]

theorem millisIn_cons (phase : LinkPhase) (s : LinkStay) (ss : List LinkStay) :
    millisIn phase (s :: ss) = (if s.phase = phase then s.millis else 0) + millisIn phase ss := by
  simp only [millisIn, List.filter_cons, decide_eq_true_eq]
  split <;> simp

/-- Every stay is in one phase. -/
theorem millisIn_total (ss : List LinkStay) :
    millisIn .connecting ss + millisIn .up ss + millisIn .off ss =
      (ss.map LinkStay.millis).sum := by
  induction ss with
  | nil => rfl
  | cons s ss ih =>
    simp only [millisIn_cons, List.map_cons, List.sum_cons, ← ih]
    cases s.phase <;> simp <;> omega

/-- Stays that are cut to whole milliseconds fall short by less than one for each of them. -/
theorem spans_bounds (ss : List LinkStay) :
    1000 * (ss.map LinkStay.millis).sum ≤ (ss.map LinkStay.span).sum ∧
      (ss.map LinkStay.span).sum ≤ 1000 * (ss.map LinkStay.millis).sum + 999 * ss.length := by
  induction ss with
  | nil => simp
  | cons s ss ih =>
    have hmillis : s.millis = s.span / 1000 := rfl
    simp only [List.map_cons, List.sum_cons, List.length_cons, hmillis]
    omega

/-- Between changes in order, no time is lost. -/
theorem sum_spans (h : (start :: cs.map LinkChange.at_).Pairwise (· ≤ ·)) :
    start ≤ lastChange start cs ∧
      ((stays start cs).map LinkStay.span).sum = lastChange start cs - start := by
  induction cs generalizing start with
  | nil => simp [lastChange, stays]
  | cons c cs ih =>
    obtain ⟨hstart, hrest⟩ := List.pairwise_cons.1 h
    have hfirst : start ≤ c.at_ := hstart _ (by simp)
    obtain ⟨hlast, hsum⟩ := ih hrest
    refine ⟨Nat.le_trans hfirst hlast, ?_⟩
    rw [stays, List.map_cons, List.sum_cons, hsum, Nat.add_comm]
    exact Nat.sub_add_sub_cancel hlast hfirst

theorem millisIn_le (phase : LinkPhase) (ss : List LinkStay) :
    millisIn phase ss ≤ (ss.map LinkStay.millis).sum := by
  have htotal := millisIn_total ss
  cases phase <;> omega

theorem lastChange_mem : lastChange start cs ∈ start :: cs.map LinkChange.at_ := by
  induction cs generalizing start with
  | nil => simp [lastChange]
  | cons c cs ih => exact List.mem_cons_of_mem _ ih

end Stays

/-! ## Steps -/

namespace RadioStats

variable {s : RadioStats} {phase shown : LinkPhase} {ms : Nat}

/-- What is booked to a phase. -/
def booked (s : RadioStats) : LinkPhase → Nat
  | .off => s.downMs
  | .connecting => s.connectingMs
  | .up => s.upMs

theorem booked_book : (s.book shown ms).booked phase =
    if shown = phase then min (s.booked phase + ms) radioMillisMax else s.booked phase := by
  cases shown <;> cases phase <;> rfl

@[simp] theorem booked_addSession : s.addSession.booked phase = s.booked phase := by
  cases phase <;> rfl

@[simp] theorem booked_addFailure : s.addFailure.booked phase = s.booked phase := by
  cases phase <;> rfl

@[simp] theorem sessions_book : (s.book phase ms).sessions = s.sessions := by cases phase <;> rfl

@[simp] theorem failures_book : (s.book phase ms).failures = s.failures := by cases phase <;> rfl

/-- Count a change of phase, if it is one that is counted. -/
def count (s : RadioStats) (c : LinkChange) : RadioStats := if c.isSession then s.addSession else s

@[simp] theorem booked_count {c : LinkChange} : (s.count c).booked phase = s.booked phase := by
  unfold count
  split <;> simp

@[simp] theorem sessions_count {c : LinkChange} : (s.count c).sessions =
    if c.isSession then min (s.sessions + 1) radioCountMax else s.sessions := by
  unfold count
  split <;> rfl

@[simp] theorem failures_count {c : LinkChange} : (s.count c).failures = s.failures := by
  unfold count
  split <;> rfl

end RadioStats

namespace RadioLink

variable {l : RadioLink} {event : LinkEvent} {events : List LinkEvent} {phase : LinkPhase}

/-- The change of phase that an event leads to. -/
def change? (l : RadioLink) (event : LinkEvent) : Option LinkChange :=
  if (l.step event).phase = l.phase then none
  else event.at?.map fun at_ => ⟨l.phase, (l.step event).phase, at_⟩

/-- The event is a failed join while the link is connecting. -/
def joinFails : RadioLink → LinkEvent → Bool
  | { phase := .connecting, .. }, .joinFailed => true
  | _, _ => false

/-- An event changes nothing, or counts a failed join, or changes the phase; then the time since the
last change is booked. -/
theorem step_cases (l : RadioLink) (event : LinkEvent) :
    (l.change? event = none ∧ l.joinFails event = false ∧ l.step event = l) ∨
    (l.change? event = none ∧ l.joinFails event = true ∧
      l.step event = { l with stats := l.stats.addFailure }) ∨
    ∃ c, l.change? event = some c ∧ l.joinFails event = false ∧ event.at? = some c.at_ ∧
      c.source = l.phase ∧ l.step event =
        ⟨c.at_, c.target, (l.stats.book l.phase (c.at_.since l.since).millis).count c⟩ := by
  obtain ⟨since, phase, stats⟩ := l
  cases phase with
  | off =>
    cases event with
    | powerOn at_ => exact .inr (.inr ⟨_, rfl, rfl, rfl, rfl, rfl⟩)
    | joined | joinFailed | linkLost | powerOff => exact .inl ⟨rfl, rfl, rfl⟩
  | connecting =>
    cases event with
    | joined at_ | powerOff at_ => exact .inr (.inr ⟨_, rfl, rfl, rfl, rfl, rfl⟩)
    | joinFailed => exact .inr (.inl ⟨rfl, rfl, rfl⟩)
    | powerOn | linkLost => exact .inl ⟨rfl, rfl, rfl⟩
  | up =>
    cases event with
    | linkLost at_ | powerOff at_ => exact .inr (.inr ⟨_, rfl, rfl, rfl, rfl, rfl⟩)
    | powerOn | joined | joinFailed => exact .inl ⟨rfl, rfl, rfl⟩

/-- The milliseconds that an event books to a phase. -/
def millisBooked (phase : LinkPhase) (l : RadioLink) (event : LinkEvent) : Nat :=
  (l.change? event).elim 0 fun c =>
    if c.source = phase then (c.at_.since l.since).millis else 0

theorem step_booked (h : l.stats.booked phase ≤ radioMillisMax) :
    (l.step event).stats.booked phase =
      min (l.stats.booked phase + l.millisBooked phase event) radioMillisMax := by
  rcases l.step_cases event with ⟨hc, -, hstep⟩ | ⟨hc, -, hstep⟩ | ⟨c, hc, -, -, hsource, hstep⟩
  · simp [millisBooked, hc, hstep, h]
  · simp [millisBooked, hc, hstep, h]
  · simp only [millisBooked, hc, hstep, Option.elim_some, RadioStats.booked_count,
      RadioStats.booked_book, hsource]
    split
    next => rfl
    next => exact (Nat.min_eq_left h).symm

theorem step_sessions (h : l.stats.sessions ≤ radioCountMax) : (l.step event).stats.sessions =
    min (l.stats.sessions + (l.change? event).toList.countP LinkChange.isSession)
      radioCountMax := by
  rcases l.step_cases event with ⟨hc, -, hstep⟩ | ⟨hc, -, hstep⟩ | ⟨c, hc, -, -, -, hstep⟩
  · simp [hc, hstep, h]
  · simp [hc, hstep, h, RadioStats.addFailure]
  · simp only [hc, hstep, Option.toList_some, List.countP_singleton, RadioStats.sessions_count,
      RadioStats.sessions_book]
    split
    next => rfl
    next => exact (Nat.min_eq_left h).symm

theorem step_failures (h : l.stats.failures ≤ radioCountMax) : (l.step event).stats.failures =
    min (l.stats.failures + (l.joinFails event).toNat) radioCountMax := by
  rcases l.step_cases event with
    ⟨-, hfails, hstep⟩ | ⟨-, hfails, hstep⟩ | ⟨c, -, hfails, -, -, hstep⟩
  · simp [hfails, hstep, h]
  · simp [hfails, hstep, RadioStats.addFailure]
  · simp [hfails, hstep, h]

/-! ## Runs -/

/-- The changes of phase that some events lead to. -/
def changes (l : RadioLink) : List LinkEvent → List LinkChange
  | [] => []
  | event :: events => (l.change? event).toList ++ (l.step event).changes events

/-- What comes together over some events. -/
def total (gain : RadioLink → LinkEvent → Nat) (l : RadioLink) : List LinkEvent → Nat
  | [] => 0
  | event :: events => gain l event + (l.step event).total gain events

/-- A counter that stops at a limit stops there at the end, not on the way. -/
theorem run_counter (counter : RadioStats → Nat) (gain : RadioLink → LinkEvent → Nat) {limit : Nat}
    (hgain : ∀ {l : RadioLink} {event : LinkEvent}, counter l.stats ≤ limit →
      counter (l.step event).stats = min (counter l.stats + gain l event) limit)
    (h : counter l.stats ≤ limit) :
    counter (l.run events).stats = min (counter l.stats + l.total gain events) limit := by
  induction events generalizing l with
  | nil => exact (Nat.min_eq_left h).symm
  | cons event events ih =>
    have hle : counter (l.step event).stats ≤ limit := by
      rw [hgain h]
      exact Nat.min_le_right _ _
    rw [run_cons, ih hle, hgain h, total]
    omega

theorem total_millisBooked : l.total (millisBooked phase) events =
    millisIn phase (stays l.since (l.changes events)) := by
  induction events generalizing l with
  | nil => rfl
  | cons event events ih =>
    rw [total, changes, ih, millisBooked]
    rcases l.step_cases event with ⟨hc, -, hstep⟩ | ⟨hc, -, hstep⟩ | ⟨c, hc, -, -, -, hstep⟩
    · simp [hc, hstep]
    · simp [hc, hstep]
    · simp [hc, hstep, stays, millisIn_cons, LinkStay.millis]

/-- The joins that failed while the link was connecting. -/
def failedJoins (l : RadioLink) (events : List LinkEvent) : Nat :=
  l.total (fun l event => (l.joinFails event).toNat) events

theorem total_sessions :
    l.total (fun l event => (l.change? event).toList.countP LinkChange.isSession) events =
      (l.changes events).countP LinkChange.isSession := by
  induction events generalizing l with
  | nil => rfl
  | cons event events ih => rw [total, changes, ih, List.countP_append]

theorem run_booked (h : l.stats.booked phase ≤ radioMillisMax) :
    (l.run events).stats.booked phase =
      min (l.stats.booked phase + millisIn phase (stays l.since (l.changes events)))
        radioMillisMax := by
  rw [← total_millisBooked]
  exact run_counter (·.booked phase) _ step_booked h

theorem run_sessions (h : l.stats.sessions ≤ radioCountMax) : (l.run events).stats.sessions =
    min (l.stats.sessions + (l.changes events).countP LinkChange.isSession) radioCountMax := by
  rw [← total_sessions]
  exact run_counter RadioStats.sessions _ step_sessions h

theorem run_failures (h : l.stats.failures ≤ radioCountMax) : (l.run events).stats.failures =
    min (l.stats.failures + l.failedJoins events) radioCountMax :=
  run_counter RadioStats.failures _ step_failures h

theorem run_since : (l.run events).since = lastChange l.since (l.changes events) := by
  induction events generalizing l with
  | nil => rfl
  | cons event events ih =>
    rw [run_cons, changes, ih]
    rcases l.step_cases event with ⟨hc, -, hstep⟩ | ⟨hc, -, hstep⟩ | ⟨c, hc, -, -, -, hstep⟩
    · rw [hc, hstep]
      rfl
    · rw [hc, hstep]
      rfl
    · rw [hc, hstep]
      rfl

/-- Changes of phase happen when events say so, in their order. -/
theorem changes_sublist :
    ((l.changes events).map LinkChange.at_).Sublist (events.filterMap LinkEvent.at?) := by
  induction events generalizing l with
  | nil => exact List.Sublist.slnil
  | cons event events ih =>
    have hevent : ((l.change? event).toList.map LinkChange.at_).Sublist event.at?.toList := by
      rcases l.step_cases event with ⟨hc, -, -⟩ | ⟨hc, -, -⟩ | ⟨c, hc, -, hat, -, -⟩
      · simp [hc]
      · simp [hc]
      · simp [hc, hat]
    have hcons : (event :: events).filterMap LinkEvent.at? =
        event.at?.toList ++ events.filterMap LinkEvent.at? := by
      cases event <;> rfl
    rw [changes, List.map_append, hcons]
    exact hevent.append ih

end RadioLink

/-! ## Accounts -/

namespace RadioLink

variable {start : Instant} {events : List LinkEvent} {phase : LinkPhase}

/-- The instants of some events come in order, none ahead of the start, and the clock shows them. -/
structure Timely (start : Instant) (events : List LinkEvent) : Prop where
  ordered : (start :: events.filterMap LinkEvent.at?).Pairwise (· ≤ ·)
  shown : ∀ at_ ∈ start :: events.filterMap LinkEvent.at?, at_ < UInt64.size

theorem Timely.changes (h : Timely start events) :
    (start :: (RadioLink.changes { since := start } events).map LinkChange.at_).Pairwise (· ≤ ·) :=
  h.ordered.sublist (changes_sublist.cons_cons start)

/-- No counter of milliseconds comes to its limit. -/
theorem Timely.booked_eq (h : Timely start events) (phase : LinkPhase) :
    (run { since := start } events).stats.booked phase =
      millisIn phase (stays start (RadioLink.changes { since := start } events)) := by
  have hzero : RadioStats.booked {} phase = 0 := by cases phase <;> rfl
  have hordered := h.changes
  have hlast : lastChange start (RadioLink.changes { since := start } events) < UInt64.size :=
    h.shown _ ((changes_sublist.cons_cons start).subset lastChange_mem)
  have hfits : RadioStats.booked {} phase ≤ radioMillisMax := by
    rw [hzero]
    exact Nat.zero_le _
  rw [run_booked hfits, hzero, Nat.zero_add]
  generalize RadioLink.changes { since := start } events = cs at *
  have hroom : millisIn phase (stays start cs) ≤ radioMillisMax := by
    refine Nat.le_sub_one_of_lt ?_
    calc millisIn phase (stays start cs)
      _ ≤ ((stays start cs).map LinkStay.millis).sum := millisIn_le phase _
      _ ≤ 1000 * ((stays start cs).map LinkStay.millis).sum :=
          Nat.le_mul_of_pos_left _ (by decide)
      _ ≤ ((stays start cs).map LinkStay.span).sum := (spans_bounds _).1
      _ = lastChange start cs - start := (sum_spans hordered).2
      _ ≤ lastChange start cs := Nat.sub_le _ _
      _ < UInt64.size := hlast
  exact Nat.min_eq_left hroom

end RadioLink

namespace LinkMachine

variable {start : Instant} {events : List LinkEvent}

/-- The accounts of a machine that started at an instant, after some changes of phase and some
joins that failed. -/
structure Accounts (start : Instant) (cs : List LinkChange) (failed : Nat) (m : LinkMachine) :
    Prop where
  state_eq : m.state = m.link.phase
  /-- Time is booked up to the last change of phase. -/
  since_eq : m.link.since = lastChange start cs
  /-- The counters are not ahead of this time. -/
  total_le : 1000 * (m.link.stats.connectingMs + m.link.stats.upMs + m.link.stats.downMs) ≤
    lastChange start cs - start
  /-- They are behind it by less than a millisecond for each change. -/
  le_total : lastChange start cs - start ≤
    1000 * (m.link.stats.connectingMs + m.link.stats.upMs + m.link.stats.downMs) + 999 * cs.length
  /-- Each counter is not ahead of the time spent in its phase. -/
  booked_le : ∀ phase, 1000 * m.link.stats.booked phase ≤ timeIn phase (stays start cs)
  /-- It is behind this time by less than a millisecond for each stay in the phase. -/
  le_booked : ∀ phase, timeIn phase (stays start cs) ≤
    1000 * m.link.stats.booked phase + 999 * (stays start cs).countP (·.phase = phase)
  sessions_eq : m.link.stats.sessions = min (cs.countP LinkChange.isSession) radioCountMax
  failures_eq : m.link.stats.failures = min failed radioCountMax
  /-- An event that does not apply changes nothing at all. -/
  idle : ∀ event, LinkEvent.Idle m.link.phase event → m.handle event = m

/-- At every point of a run whose events come in order, state and phase agree.  The counters of
milliseconds make up the time from the start to the last change of phase, and each the time that was
spent in its phase, but for less than a millisecond for each change.  Sessions are the changes from
connecting to up and failures the joins that failed while the link was connecting, as far as they
can be counted; and an event that does not apply changes nothing. -/
theorem run_accounts (h : RadioLink.Timely start events) :
    Accounts start (RadioLink.changes { since := start } events)
      (RadioLink.failedJoins { since := start } events) ((new start).run events) := by
  have hrun : (new start).run events =
      ⟨(RadioLink.run { since := start } events).phase, RadioLink.run { since := start } events⟩ :=
    run_eq rfl
  have hordered := h.changes
  have hbooked := h.booked_eq
  have hsince : (RadioLink.run { since := start } events).since = _ := RadioLink.run_since
  have hsessions : (RadioLink.run { since := start } events).stats.sessions = _ :=
    RadioLink.run_sessions (Nat.zero_le _)
  have hfailures : (RadioLink.run { since := start } events).stats.failures = _ :=
    RadioLink.run_failures (Nat.zero_le _)
  rw [hrun]
  generalize RadioLink.run { since := start } events = l at *
  generalize RadioLink.changes { since := start } events = cs at *
  have htotal : l.stats.connectingMs + l.stats.upMs + l.stats.downMs =
      ((stays start cs).map LinkStay.millis).sum := by
    rw [← millisIn_total, ← hbooked, ← hbooked, ← hbooked]
    rfl
  obtain ⟨-, hspans⟩ := sum_spans hordered
  obtain ⟨hlow, hhigh⟩ := spans_bounds (stays start cs)
  have hin (phase : LinkPhase) := spans_bounds ((stays start cs).filter (·.phase = phase))
  exact {
    state_eq := rfl
    since_eq := hsince
    total_le := by rwa [htotal, ← hspans]
    le_total := by rwa [htotal, ← hspans, ← length_stays start]
    booked_le := fun phase => by rw [hbooked]; exact (hin phase).1
    le_booked := fun phase => by
      rw [hbooked, List.countP_eq_length_filter]
      exact (hin phase).2
    sessions_eq := by rwa [Nat.zero_add] at hsessions
    failures_eq := by rwa [Nat.zero_add] at hfailures
    idle := fun event hidle => by
      have hstep := hidle.step_eq
      rw [handle_eq rfl, hstep] }

/-- A link that is lost and comes back, with an event that does not apply and a join that fails; no
stay is a whole number of milliseconds. -/
def lostOnce : List LinkEvent :=
  [.powerOn 1000999, .joinFailed, .joined 3500000, .powerOn 3600000, .linkLost 5000500,
    .joined 6000000, .joinFailed, .powerOff 7999999]

theorem accounts_of_lostOnce : RadioLink.Timely 400 lostOnce ∧
    Accounts 400 (RadioLink.changes { since := 400 } lostOnce) 1 ((new 400).run lostOnce) ∧
    ((new 400).run lostOnce).link.stats = ⟨2499 + 999, 1500 + 1999, 1000, 2, 1⟩ :=
  have h : RadioLink.Timely 400 lostOnce := ⟨by decide, by decide⟩
  ⟨h, run_accounts h, by decide⟩

end LinkMachine

end MeterNode
