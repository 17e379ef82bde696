import MeterNode.Board.Stage

/-!
# The radio of the board

The radio is a WiFi station.  It is given its settings when it is powered up for the first time,
and a join associates it and waits for an address, both within one deadline.  The supply voltage is
halved ahead of the pin it is measured at; a supply below 4.5 volts is a battery.
-/

namespace MeterNode

/-- The pin of the analog meter. -/
def meterPin : Nat := 34

/-- The pin of the supply. -/
def supplyPin : Nat := 35

/-- The least voltage of a supply by cable. -/
def cableVolts : Float32 := 4.5

/-- The voltage of the supply, from a conversion. -/
def supplyVolts (raw : Nat) : Float32 := Float32.ofNat raw * 3.3 / 4096.0 * 2.0

namespace Job

/-- Give the station its settings, unless it has them, and say whether it has. -/
def configureStation (ssid password : String) : Job Bool := do
  if (← desk).configured then
    return true
  match ← hardware (.configure ssid password) with
  | some cause => do
      log .error ("wifi: station config err=" ++ cause)
      return false
  | none => do
      onDesk fun d => { d with configured := true }
      return true

/-- Start the station unless it runs. -/
def powerUp (ssid password : String) : Job (Except RadioError Unit) := do
  if !(← configureStation ssid password) then
    return .error .init
  match ← hardware .stationStarted with
  | .ok true => return .ok ()
  | .ok false => do
      match ← hardware .startStation with
      | none => return .ok ()
      | some cause => do
          log .error ("wifi: start err=" ++ cause)
          return .error .init
  | .error cause => do
      log .error ("wifi: status err=" ++ cause)
      return .error .init

/-- Stop the station, and put the light out. -/
def powerDown : Job Unit := do
  hardware .dissociate
  hardware .stopStation
  hardware (.light false)

/-- Give a join up. -/
def abandonJoin : Job (Except RadioError Unit) := do
  hardware .dissociate
  return .error .timeout

/-- Associate and wait for an address. -/
def join (timeoutMs : Nat) : Job (Except RadioError Unit) := do
  let start ← now
  let deadline := start + Instant.ofMillis timeoutMs
  hardware .startAssociation
  match ← await (.within .association deadline) with
  | none => abandonJoin
  | some (some cause) => do
      log .warn ("wifi: connect err=" ++ cause)
      return .error (.join .failed)
  | some none => do
      match ← await (.within .address deadline) with
      | none => abandonJoin
      | some () => return .ok ()

/-- The state of the link. -/
def linkStatus : Job LinkStatus := do
  match ← hardware .associated with
  | .ok true => do
      let address : Option Address ← hardware .ownAddress
      return if address.isSome then .up else .noIp
  | .ok false => return .down
  | .error _ => return .failed

/-- Measure the supply. -/
def measureSupply : Job (Option SupplyLevel) := do
  let raw : Option Nat ← hardware (.convert supplyPin)
  return raw.map fun n => ⟨supplyVolts n, supplyVolts n < cableVolts⟩

/-- Hold the bus that meters share with the radio. -/
def acquireBus : Job Unit := do
  if (← desk).busHeld then
    log .debug "wifi: bus already held"
  onDesk fun d => { d with busHeld := true }

/-- Answer a call of the radio. -/
def radio (ssid password : String) : (call : RadioCall) → Job call.Answer
  | .powerUp => powerUp ssid password
  | .powerDown => powerDown
  | .join timeoutMs => join timeoutMs
  | .status => linkStatus
  | .light on => hardware (.light on)
  | .measure => measureSupply
  | .acquireBus => acquireBus
  | .releaseBus => onDesk fun d => { d with busHeld := false }

end Job

end MeterNode
