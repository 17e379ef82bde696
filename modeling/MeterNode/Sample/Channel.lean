import MeterNode.Sample.Reading

/-!
# Channels

A channel buffers the samples of one metric until the collector has taken them.  The buffer holds
at most 256 samples; a push into a full buffer drops the oldest one and counts it.  The last sample
stays known after it was taken.

Reading the buffer as a window on the sequence of all pushed samples: a push moves the end of the
window, an overflow or an acknowledgement moves its start.
-/

namespace MeterNode

/-- A value and when it was taken. -/
structure Sample where
  /-- UTC milliseconds. -/
  ts : Nat
  value : Float

/-- The samples a channel can hold. -/
def channelCapacity : Nat := 256

/-- Where the count of dropped samples stops. -/
def droppedMax : Nat := UInt32.size - 1

/-- The decimal places a channel can ask for, at most. -/
def precisionMax : Nat := 6

/-- The buffer of one metric. -/
structure MeterChannel where
  /-- The identifier the collector knows the channel by. -/
  uuid : String
  /-- The metric it takes.  Without one it takes every reading. -/
  identifier : Option String
  /-- Decimal places of a delivered value. -/
  precision : Nat := 2
  /-- The buffered samples, oldest first. -/
  pending : List Sample := []
  /-- The last sample pushed. -/
  last : Option Sample := none
  /-- The samples dropped because the buffer was full. -/
  dropped : Nat := 0

namespace MeterChannel

/-- Ask for a number of decimal places. -/
def withPrecision (c : MeterChannel) (places : Nat) : MeterChannel :=
  { c with precision := min places precisionMax }

/-- Whether a reading belongs to the channel. -/
def accepts (c : MeterChannel) (r : Reading) : Bool :=
  match c.identifier with
  | none => true
  | some wanted => r.identifier == some wanted

/-- Whether nothing is buffered. -/
def isEmpty (c : MeterChannel) : Bool := c.pending.isEmpty

/-- Append a sample, dropping the oldest one if there is no room. -/
def push (c : MeterChannel) (s : Sample) : MeterChannel :=
  if c.pending.length < channelCapacity then
    { c with pending := c.pending ++ [s], last := some s }
  else
    { c with
      pending := c.pending.tail ++ [s]
      last := some s
      dropped := min (c.dropped + 1) droppedMax }

/-- Remove the oldest samples after the collector took them. -/
def acknowledge (c : MeterChannel) (count : Nat) : MeterChannel :=
  { c with pending := c.pending.drop count }

/-- File a reading if it belongs to the channel. -/
def take (c : MeterChannel) (r : Reading) : MeterChannel :=
  if c.accepts r then c.push ⟨r.ts, r.value⟩ else c

end MeterChannel

end MeterNode
