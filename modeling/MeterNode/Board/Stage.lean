import MeterNode.Board.Device
import MeterNode.Schedule.Basic
import MeterNode.Settings.Build

/-!
# Stages of tasks

A task is always at one of a few stages.  The work of a stage is a program that ends with the next
stage, so a task that never ends is a sequence of short programs, and where it stands between two
of them is plain data.
-/

namespace MeterNode

/-- A single call of the radio or of the time server, made as a task of its own. -/
inductive Errand where
  | askTime (server : String)
  | powerUp (ssid password : String)
  | powerDown
  | join (timeoutMs : Nat)

/-- What an errand came to. -/
inductive Finding where
  | time (utc : Nat)
  | poweredUp (result : Except RadioError Unit)
  | poweredDown
  | joined (result : Except RadioError Unit)

/-- Where a task stands. -/
inductive Stage where
  /-- The network stack is about to run. -/
  | network
  /-- The worker of the lookups waits for a request. -/
  | lookups
  /-- The worker of a collector's slot waits for a command. -/
  | client (slot : SlotId)
  /-- The worker of a collector's slot serves a session. -/
  | session (slot : SlotId) (socket : Nat) (handle : Handle)
  /-- The listener waits for a port. -/
  | listener
  /-- The listener waits for a visitor. -/
  | listening (socket port : Nat)
  /-- The listener serves a visitor. -/
  | visit (socket port : Nat) (peer : Handle)
  /-- The node starts. -/
  | startup (settings : BuildSettings)
  /-- The scheduler runs. -/
  | running (settings : BuildSettings) (scheduler : Scheduler)
  /-- The node cannot go on. -/
  | failing (fault : Fault)
  | errand (e : Errand)
  /-- An errand is done. -/
  | done (finding : Finding)
  /-- Nothing more happens. -/
  | idle

end MeterNode
