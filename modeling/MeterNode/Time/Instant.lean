/-!
# Instants

The monotonic clock counts microseconds from the start of the node.  A difference of instants is
never negative: where the later one comes first it is zero.
-/

namespace MeterNode

/-- Microseconds since the node started, or a span of them. -/
abbrev Instant := Nat

namespace Instant

/-- A span of whole milliseconds. -/
def ofMillis (ms : Nat) : Instant := ms * 1000

/-- A span of whole seconds. -/
def ofSeconds (s : Nat) : Instant := s * 1000000

/-- The whole milliseconds of an instant or a span. -/
def millis (t : Instant) : Nat := t / 1000

/-- The whole seconds of an instant or a span. -/
def seconds (t : Instant) : Nat := t / 1000000

/-- The time from `start` to `t`. -/
def since (t start : Instant) : Instant := t - start

end Instant

end MeterNode
