/-!
# Policies

Three policies hold the limits the node keeps to: for the network, for the radio and for the
scheduler.  A policy is sanitised before use, which moves each number into the range the rest of
the node can work with.  Numbers in the defaults are already in range.
-/

namespace MeterNode

/-- Move a number into a range. -/
def clamp (least greatest n : Nat) : Nat := max least (min greatest n)

/-- The port that the status page is served on. -/
def statusPort : Nat := 80

/-- Limits of the network. -/
structure NetPolicy where
  /-- How long a lookup, a connect or a send may take. -/
  timeoutMs : Nat := 30000
  /-- The slice in which an outstanding lookup is looked after. -/
  dnsStepMs : Nat := 10
  /-- The port that the status page is served on. -/
  httpdPort : Nat := statusPort
  /-- Whether the status page lists all channels. -/
  indexEnabled : Bool := true
deriving DecidableEq

/-- The slice is never longer than the timeout, and the port is never zero. -/
def NetPolicy.sanitized (p : NetPolicy) : NetPolicy :=
  let timeoutMs := clamp 1000 120000 p.timeoutMs
  { p with
    timeoutMs := timeoutMs
    dnsStepMs := min timeoutMs (clamp 1 1000 p.dnsStepMs)
    httpdPort := if p.httpdPort = 0 then statusPort else p.httpdPort }

/-- Limits of the radio. -/
structure RadioPolicy where
  /-- Joins tried before giving up. -/
  joinRetries : Nat := 5
  joinTimeoutMs : Nat := 30000
  /-- The pause between joins. -/
  retryBackoffMs : Nat := 1000
  /-- The length of a flash of the light. -/
  ledBlinkMs : Nat := 10
deriving DecidableEq

/-- At least one join is tried. -/
def RadioPolicy.sanitized (p : RadioPolicy) : RadioPolicy where
  joinRetries := clamp 1 20 p.joinRetries
  joinTimeoutMs := clamp 2000 180000 p.joinTimeoutMs
  retryBackoffMs := clamp 0 30000 p.retryBackoffMs
  ledBlinkMs := clamp 0 1000 p.ledBlinkMs

/-- Limits of the scheduler. -/
structure SchedulerPolicy where
  /-- The pause between ticks. -/
  tickMs : Nat := 1000
  /-- The radio goes off if nothing is due for longer than this. -/
  radioOffHorizonS : Nat := 30
  /-- The least time between send windows; zero sends as soon as there is data. -/
  sendIntervalS : Nat := 0
  /-- Ticks between comparisons with the time server. -/
  timeResyncTicks : Nat := 3600
  /-- Ticks between status lines. -/
  statusLogTicks : Nat := 10
  /-- What the clock speed is divided by when idle; zero keeps it. -/
  lowClockDivisor : Nat := 3
deriving DecidableEq

/-- The tick counts are never zero. -/
def SchedulerPolicy.sanitized (p : SchedulerPolicy) : SchedulerPolicy where
  tickMs := clamp 100 60000 p.tickMs
  radioOffHorizonS := clamp 0 86400 p.radioOffHorizonS
  sendIntervalS := clamp 0 86400 p.sendIntervalS
  timeResyncTicks := clamp 1 (UInt32.size - 1) p.timeResyncTicks
  statusLogTicks := clamp 1 86400 p.statusLogTicks
  lowClockDivisor := clamp 0 16 p.lowClockDivisor

/-- The defaults are in range. -/
example : (({} : NetPolicy).sanitized = {} ∧ ({} : RadioPolicy).sanitized = {}) ∧
    ({} : SchedulerPolicy).sanitized = {} := by decide

end MeterNode
