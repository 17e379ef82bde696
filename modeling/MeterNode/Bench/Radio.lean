import MeterNode.Effect

/-!
# A scripted radio and processor

The bench's radio comes up and joins as scripted; a join with nothing left in the script times out.
The link follows the outcome of the last join.  The bench's processor takes any frequency unless it
is told to refuse.
-/

namespace MeterNode.Bench

/-- A radio that follows a script. -/
structure Radio where
  /-- What powering up comes to. -/
  powerUpError : Option RadioError := none
  /-- What the next joins come to. -/
  joins : List (Option RadioError) := []
  /-- How long a join takes. -/
  joinMs : Nat := 0
  status : LinkStatus := .down
  supply : Option SupplyLevel := none
  powered : Bool := false
  powerUps : Nat := 0
  powerDowns : Nat := 0
  /-- What the light was set to so far, latest first. -/
  light : List Bool := []
  busHeld : Bool := false
  busAcquired : Nat := 0

namespace Radio

/-- Success, or an error. -/
def outcome (e : Option RadioError) : Except RadioError Unit :=
  match e with
  | none => .ok ()
  | some e => .error e

/-- The link after a join. -/
def statusAfter : Option RadioError → LinkStatus
  | none => .up
  | some (.join status) => status
  | some _ => .failed

/-- What the next join comes to. -/
def nextJoin (r : Radio) : Option RadioError := r.joins.headD (some .timeout)

/-- Answer a call, apart from the time it takes. -/
def answer (r : Radio) : (call : RadioCall) → call.Answer × Radio
  | .powerUp =>
      (outcome r.powerUpError,
        { r with
          powerUps := r.powerUps + 1
          powered := r.powered || r.powerUpError.isNone })
  | .powerDown =>
      ((), { r with powerDowns := r.powerDowns + 1, powered := false, status := .down })
  | .join _ =>
      (outcome r.nextJoin, { r with joins := r.joins.tail, status := statusAfter r.nextJoin })
  | .status => (r.status, r)
  | .light on => ((), { r with light := on :: r.light })
  | .measure => (r.supply, r)
  | .acquireBus => ((), { r with busHeld := true, busAcquired := r.busAcquired + 1 })
  | .releaseBus => ((), { r with busHeld := false })

/-- The time a call takes. -/
def duration (r : Radio) : RadioCall → Instant
  | .join _ => Instant.ofMillis r.joinMs
  | _ => 0

end Radio

/-- A processor that follows a script. -/
structure Cpu where
  mhz : Nat := 240
  lowSteps : List Nat := [160, 80]
  /-- Every change is refused. -/
  refuse : Bool := false

/-- Answer a call. -/
def Cpu.answer (c : Cpu) : (call : CpuCall) → call.Answer × Cpu
  | .currentMhz => (c.mhz, c)
  | .lowSteps => (c.lowSteps, c)
  | .setMhz mhz => if c.refuse then (false, c) else (true, { c with mhz })

end MeterNode.Bench
