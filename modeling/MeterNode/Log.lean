import MeterNode.Telemetry

/-!
# The log

A log line is a level and a text.  Levels are ordered by how much they say, from errors to traces;
a reader who asks for a level sees every line at that level or below.

A journal keeps what a run writes for a reader: the log lines up to a level, and the counters.
-/

namespace MeterNode

/-- The level of a log line, the most urgent first. -/
inductive Level where
  | error
  | warn
  | info
  | debug
  | trace
deriving DecidableEq

namespace Level

/-- The place of a level, counted from the most urgent. -/
def rank : Level → Nat
  | .error => 0
  | .warn => 1
  | .info => 2
  | .debug => 3
  | .trace => 4

/-- The word that starts a printed line. -/
def word : Level → String
  | .error => "ERROR"
  | .warn => "WARN"
  | .info => "INFO"
  | .debug => "DEBUG"
  | .trace => "TRACE"

/-- All levels. -/
def all : List Level := [error, warn, info, debug, trace]

/-- The level of a word, in any case of letters. -/
def ofWord? (s : String) : Option Level := all.find? (·.word == s.toUpper)

/-- Whether a reader who asked for `limit` sees lines of this level. -/
def shownAt (level limit : Level) : Bool := level.rank ≤ limit.rank

end Level

/-! ## Journals -/

/-- Log lines and counters. -/
structure Journal where
  /-- Lines above this level are not kept, and without it none is. -/
  logLimit : Option Level := none
  /-- The lines kept so far, latest first. -/
  lines : List (Level × String) := []
  telemetry : Telemetry := {}

namespace Journal

/-- Keep a log line, if it is to be kept. -/
def write (j : Journal) (level : Level) (text : String) : Journal :=
  if j.logLimit.any level.shownAt then { j with lines := (level, text) :: j.lines } else j

/-- Book a tally. -/
def book (j : Journal) (tally : Tally) : Journal :=
  { j with telemetry := j.telemetry.record tally }

/-- The lines kept since they were last taken, in order; none if no lines are kept at all. -/
def takeLines (j : Journal) : Option (List (Level × String)) × Journal :=
  (if j.logLimit.isSome then some j.lines.reverse else none, { j with lines := [] })

end Journal

end MeterNode
