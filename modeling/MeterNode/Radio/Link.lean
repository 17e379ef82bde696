import MeterNode.Time.Instant

/-!
# The radio link

The link is off, connecting or up.  Powering on and joining go forward, a lost link goes back to
connecting, and powering off leads back to off from anywhere.  The time spent in each phase is
booked in whole milliseconds when the phase is left.  An event that does not apply in the current
phase changes nothing; a failed join is counted while connecting and does not change the phase.
-/

namespace MeterNode

/-- The phase of the link. -/
inductive LinkPhase where
  | off
  | connecting
  | up
deriving DecidableEq

/-- The name of a phase. -/
def LinkPhase.name : LinkPhase → String
  | off => "off"
  | connecting => "connecting"
  | up => "up"

/-- Where booked milliseconds stop. -/
def radioMillisMax : Nat := UInt64.size - 1

/-- Where counts of sessions and failures stop. -/
def radioCountMax : Nat := UInt32.size - 1

/-- Time spent in each phase, and what became of the joins. -/
structure RadioStats where
  connectingMs : Nat := 0
  upMs : Nat := 0
  downMs : Nat := 0
  /-- Joins that brought the link up. -/
  sessions : Nat := 0
  /-- Joins that failed. -/
  failures : Nat := 0
deriving DecidableEq

/-- What happens to the link. -/
inductive LinkEvent where
  | powerOn (at_ : Instant)
  | joined (at_ : Instant)
  | joinFailed
  | linkLost (at_ : Instant)
  | powerOff (at_ : Instant)

/-- The link with its accounts. -/
structure RadioLink where
  /-- Time was booked up to here. -/
  since : Instant
  phase : LinkPhase := .off
  stats : RadioStats := {}

namespace RadioStats

/-- Book time to a phase. -/
def book (s : RadioStats) (phase : LinkPhase) (ms : Nat) : RadioStats :=
  match phase with
  | .off => { s with downMs := min (s.downMs + ms) radioMillisMax }
  | .connecting => { s with connectingMs := min (s.connectingMs + ms) radioMillisMax }
  | .up => { s with upMs := min (s.upMs + ms) radioMillisMax }

/-- Count a join that brought the link up. -/
def addSession (s : RadioStats) : RadioStats :=
  { s with sessions := min (s.sessions + 1) radioCountMax }

/-- Count a join that failed. -/
def addFailure (s : RadioStats) : RadioStats :=
  { s with failures := min (s.failures + 1) radioCountMax }

end RadioStats

namespace RadioLink

/-- Leave the current phase for another one. -/
def enter (l : RadioLink) (phase : LinkPhase) (at_ : Instant) : RadioLink :=
  { since := at_, phase, stats := l.stats.book l.phase (at_.since l.since).millis }

/-- Apply an event. -/
def step (l : RadioLink) (event : LinkEvent) : RadioLink :=
  match l.phase, event with
  | .off, .powerOn at_ => l.enter .connecting at_
  | .connecting, .joined at_ =>
      let l := l.enter .up at_
      { l with stats := l.stats.addSession }
  | .connecting, .joinFailed => { l with stats := l.stats.addFailure }
  | .up, .linkLost at_ => l.enter .connecting at_
  | .connecting, .powerOff at_ => l.enter .off at_
  | .up, .powerOff at_ => l.enter .off at_
  | _, _ => l

end RadioLink

end MeterNode
