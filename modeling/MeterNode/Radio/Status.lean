/-!
# Radio status

What the radio hardware reports about its link, how bringing it up can fail, and the supply
voltage it measures.
-/

namespace MeterNode

/-- The link as the radio reports it. -/
inductive LinkStatus where
  | badAuth
  | noNetwork
  | failed
  | down
  | joined
  | noIp
  | up
deriving DecidableEq

namespace LinkStatus

/-- All states of the link. -/
def all : List LinkStatus := [badAuth, noNetwork, failed, down, joined, noIp, up]

/-- The short name of a state of the link. -/
def name : LinkStatus → String
  | badAuth => "BadAuth"
  | noNetwork => "NoNetwork"
  | failed => "Failed"
  | down => "Down"
  | joined => "Joined"
  | noIp => "NoIp"
  | up => "Up"

/-- The state of a short name. -/
def ofName? (s : String) : Option LinkStatus := all.find? (·.name == s)

/-- The description of a state of the link. -/
def text : LinkStatus → String
  | badAuth => "authentication failure"
  | noNetwork => "no matching ssid found"
  | failed => "connection failed"
  | down => "link down"
  | joined => "joined"
  | noIp => "joined, no ip address"
  | up => "joined, has ip address"

end LinkStatus

/-- Why the radio could not be used. -/
inductive RadioError where
  /-- The hardware did not come up. -/
  | init
  /-- A join ended without a link. -/
  | join (status : LinkStatus)
  /-- A join took too long. -/
  | timeout
deriving DecidableEq

/-- The description of a failure. -/
def RadioError.text : RadioError → String
  | init => "radio init failed"
  | join status => status.text
  | timeout => "join timed out"

/-- The short name of a failure. -/
def RadioError.name : RadioError → String
  | init => "Init"
  | join status => "Join(" ++ status.name ++ ")"
  | timeout => "Timeout"

/-- The supply as the radio side of the board measures it. -/
structure SupplyLevel where
  volts : Float32
  onBattery : Bool

/-- A measurement of the supply and when it was taken. -/
structure SupplyReading where
  volts : Float32
  onBattery : Bool
  /-- UTC milliseconds. -/
  utcMs : Nat

end MeterNode
