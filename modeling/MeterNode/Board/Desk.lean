import MeterNode.Board.Lookups
import MeterNode.Board.Slots

/-!
# What the tasks of the board share

The tasks of the board run one at a time, and each runs until it has to wait.  They share one desk:
the table of slots, the lookups, the reports that wait for the loop, and two marks of the radio.
The loop's calls of the transport only move things on the desk, so none of them waits.
-/

namespace MeterNode

/-- What the tasks of the board share. -/
structure Desk where
  slots : Slots := {}
  lookups : Lookups := {}
  /-- The reports that wait for the loop, oldest first. -/
  events : List TransportEvent := []
  /-- The radio has been given its settings. -/
  configured : Bool := false
  /-- The bus that meters share with the radio is held. -/
  busHeld : Bool := false

namespace Desk

/-- Change the table of slots. -/
def onSlots (d : Desk) (f : Slots → Slots) : Desk := { d with slots := f d.slots }

/-- Keep what an operation on the slots answers, and put the slots back. -/
def withSlots {α : Type} (d : Desk) (f : Slots → α × Slots) : α × Desk :=
  let (a, slots) := f d.slots
  (a, { d with slots })

/-- Queue a report, if there is room. -/
def post? (d : Desk) (e : TransportEvent) : Option Desk :=
  if d.events.length < eventDepth then some { d with events := d.events ++ [e] } else none

/-- Answer a call of the transport. -/
def answer (d : Desk) : (call : NetCall) → call.Answer × Desk
  | .openSocket secure => d.withSlots (·.openSocket secure)
  | .register h owner => ((), d.onSlots (·.register h owner))
  | .unregister h => ((), d.onSlots (·.register h nobody))
  | .close h => d.withSlots (·.close h)
  | .abort h => ((), d.onSlots (·.abort h))
  | .resolve host owner =>
      let (r, lookups) := d.lookups.resolve host owner
      (r, { d with lookups })
  | .connect h address port => d.withSlots (·.command h (.connect address port) .argument)
  | .write h bytes => d.withSlots (·.command h (.write bytes) .conn)
  | .listen port owner => d.withSlots (·.listen port owner)

end Desk

end MeterNode
