import MeterNode.Effect
import MeterNode.Radio.Link
import MeterNode.Settings.Policy

/-!
# The radio controller

The controller powers the radio and joins the network when the node needs it, and shuts the radio
down again.  `enable` tries to join several times, with a pause between tries and the light on
during each, and shuts the radio down if none of them works.  `isConnected` asks the radio each
time, and a link that was lost is booked when it is noticed.
-/

namespace MeterNode

/-- Controls the radio. -/
structure RadioController where
  policy : RadioPolicy
  link : RadioLink
  /-- The radio is powered. -/
  initialized : Bool := false

namespace RadioController

/-- A controller for a radio that is off. -/
def new (policy : RadioPolicy) : Act RadioController := do
  return { policy := policy.sanitized, link := { since := ← Act.now } }

/-- The phase of the link. -/
def phase (r : RadioController) : LinkPhase := r.link.phase

/-- Apply an event to the link. -/
def note (r : RadioController) (event : LinkEvent) : Act RadioController := do
  let link := r.link.step event
  if link.phase ≠ r.link.phase then
    Act.log .debug ("radio: phase=" ++ r.link.phase.name ++ "->" ++ link.phase.name)
  return { r with link }

/-- The state of the link; a radio that is off is not asked. -/
def linkStatus (r : RadioController) : Act LinkStatus :=
  if r.initialized then Act.radio .status else return .down

/-- Whether the link is up, asked of the radio. -/
def isConnected (r : RadioController) : Act (Bool × RadioController) := do
  let status ← r.linkStatus
  Act.log .trace ("radio: link status=" ++ status.text)
  if status ≠ .up && r.phase = .up then
    Act.log .warn ("radio: link lost status=" ++ status.text)
    let r ← r.note (.linkLost (← Act.now))
    Act.count (.linkUp false)
    return (false, r)
  return (status = .up, r)

/-- Shut the radio down. -/
def disable (r : RadioController) : Act RadioController := do
  if !r.initialized then
    return r
  Act.log .info "radio: disabling"
  let r ← r.note (.powerOff (← Act.now))
  Act.radio .powerDown
  Act.count (.linkUp false)
  return { r with initialized := false }

/-- One join, with the light on. -/
def joinOnce (r : RadioController) (attempt tries : Nat) : Act (Except RadioError Unit) := do
  Act.count .radioAttempt
  Act.log .info ("radio: enable attempt=" ++ toString attempt ++ "/" ++ toString tries)
  Act.radio (.light true)
  let result ← Act.radio (.join r.policy.joinTimeoutMs)
  Act.radio (.light false)
  return result

/-- Give up after the last join failed. -/
def giveUp (r : RadioController) (tries : Nat) (cause : RadioError) : Act RadioController := do
  Act.log .error ("radio: giving up after attempts=" ++ toString tries ++ " err=" ++ cause.text)
  Act.count .radioFailure
  r.disable

/-- Try to join `left` more times; `cause` is why the last try failed. -/
def joinTries (tries : Nat) : Nat → RadioError → RadioController → Act (Bool × RadioController)
  | 0, cause, r => do
      return (false, ← r.giveUp tries cause)
  | left + 1, _, r => do
      let attempt := tries - left
      match ← r.joinOnce attempt tries with
      | .ok () => do
          let r ← r.note (.joined (← Act.now))
          Act.count (.linkUp true)
          let status ← Act.radio .status
          Act.log .info ("radio: up attempt=" ++ toString attempt ++ " status=" ++
            LinkStatus.text status)
          return (true, r)
      | .error cause => do
          let r ← r.note .joinFailed
          Act.log .warn ("radio: join failed attempt=" ++ toString attempt ++ " err=" ++
            cause.text)
          if left ≠ 0 then
            Act.pause .radio r.policy.retryBackoffMs
          joinTries tries left cause r

/-- Power the radio unless it is powered, and say whether it is. -/
def powerUp (r : RadioController) : Act (Bool × RadioController) := do
  if r.initialized then
    let status ← Act.radio .status
    Act.log .debug ("radio: already initialised status=" ++ LinkStatus.text status)
    return (true, r)
  match ← Act.radio .powerUp with
  | .error e => do
      Act.log .error ("radio: power up failed err=" ++ e.text)
      Act.count .radioFailure
      return (false, r)
  | .ok () => return (true, { r with initialized := true })

/-- Whether the radio is powered and its link is up. -/
def alreadyUp (r : RadioController) : Act (Bool × RadioController) :=
  if r.initialized && r.phase = .up then r.isConnected else return (false, r)

/-- Bring the link up, trying `retries` times, or as often as the policy says if that is zero. -/
def enable (r : RadioController) (retries : Nat) : Act (Bool × RadioController) := do
  let (up, r) ← r.alreadyUp
  if up then
    Act.log .debug "radio: enable skipped, already up"
    return (true, r)
  Act.log .info "radio: enabling"
  let (powered, r) ← r.powerUp
  if !powered then
    return (false, r)
  let r ← r.note (.powerOn (← Act.now))
  let tries := if retries = 0 then r.policy.joinRetries else retries
  joinTries tries tries .timeout r

/-- Flash the light, if the radio is powered. -/
def blink (r : RadioController) : Act Unit := do
  if r.initialized then
    Act.radio (.light true)
    Act.pause .radio r.policy.ledBlinkMs
    Act.radio (.light false)

/-- Measure the supply, if the radio is powered. -/
def measure (r : RadioController) (utcMs : Nat) : Act (Option SupplyReading) := do
  if !r.initialized then
    return none
  match ← Act.radio .measure with
  | none => return none
  | some level => do
      Act.count (.supply (SupplyLevel.volts level))
      return some ⟨level.volts, level.onBattery, utcMs⟩

/-- Do something while the bus shared with the radio is held.  A radio that is off leaves the bus
free. -/
def withBus {α : Type} (r : RadioController) (body : Act α) : Act α := do
  if r.initialized then
    Act.radio .acquireBus
    let a ← body
    Act.radio .releaseBus
    return a
  else
    body

/-- Log the accounts of the link. -/
def logStatistics (r : RadioController) : Act Unit :=
  let s := r.link.stats
  Act.log .info ("radio: sessions=" ++ toString s.sessions ++ " failures=" ++
    toString s.failures ++ " connecting_s=" ++ toString (s.connectingMs / 1000) ++ " up_s=" ++
    toString (s.upMs / 1000) ++ " down_s=" ++ toString (s.downMs / 1000))

end RadioController

end MeterNode
