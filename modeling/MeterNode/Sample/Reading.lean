/-!
# Readings

A source produces readings.  A source that publishes several metrics names the one a reading
belongs to; the name selects the channel.
-/

namespace MeterNode

/-- Why a source failed. -/
inductive MeterError where
  | openFailed
  | readFailed
  | notOpen
  | bus
deriving DecidableEq

namespace MeterError

/-- All failures. -/
def all : List MeterError := [openFailed, readFailed, notOpen, bus]

/-- The short name of a failure. -/
def name : MeterError → String
  | openFailed => "Open"
  | readFailed => "Read"
  | notOpen => "NotOpen"
  | bus => "Bus"

/-- The failure of a short name. -/
def ofName? (s : String) : Option MeterError := all.find? (·.name == s)

/-- The description of a failure. -/
def text : MeterError → String
  | openFailed => "meter open failed"
  | readFailed => "meter read failed"
  | notOpen => "meter not open"
  | bus => "meter bus busy"

end MeterError

/-- One value of a source. -/
structure Reading where
  /-- The metric it belongs to, if the source has several. -/
  identifier : Option String
  /-- UTC milliseconds. -/
  ts : Nat
  value : Float

/-- What a read of a source gave: the readings it appended, and whether it succeeded.  A read may
fail after it appended readings. -/
structure ReadOutcome where
  /-- The readings, in order. -/
  readings : List Reading
  /-- The number the source reports, or its failure. -/
  result : Except MeterError Nat

end MeterNode
