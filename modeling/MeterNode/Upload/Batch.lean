import MeterNode.Sample.Channel
import MeterNode.Text.Fixed
import MeterNode.Time.Instant

/-!
# Batches

A batch covers the oldest samples of one channel, at most sixty-four of them.  It carries those
whose timestamp differs from that of the sample carried before, starting from the last one that
was delivered.  What it carries is fixed when it is framed and does not change with later pushes.
-/

namespace MeterNode

open MeterNode.Text

/-- The samples a batch covers, at most. -/
def batchMax : Nat := 64

/-- The samples that do not repeat the timestamp of the sample kept before them. -/
def dropRepeats : Option Nat → List Sample → List Sample
  | _, [] => []
  | previous, s :: rest =>
      if previous = some s.ts then dropRepeats previous rest
      else s :: dropRepeats (some s.ts) rest

/-- A batch on its way to the collector. -/
structure Batch where
  /-- The place of its channel. -/
  channel : Nat
  /-- The buffered samples it covers, repeats included. -/
  covered : Nat
  /-- The samples it carries. -/
  tuples : List Sample
  /-- Where it is posted. -/
  resource : String
  /-- The body of every request made for it. -/
  payload : String
  /-- When it was framed. -/
  started : Instant
  /-- Connects and repeated writes made for it. -/
  attempts : Nat := 0

namespace Batch

/-- A sample as the collector takes it. -/
def tupleText (precision : Nat) (s : Sample) : String :=
  "[" ++ toString s.ts ++ "," ++ fixed precision s.value ++ "]"

/-- Some samples as the collector takes them. -/
def payloadText (precision : Nat) (tuples : List Sample) : String :=
  "[" ++ ",".intercalate (tuples.map (tupleText precision)) ++ "]"

/-- The timestamp of the last sample carried. -/
def lastTs (b : Batch) : Nat := (b.tuples.getLast?.map Sample.ts).getD 0

end Batch

end MeterNode
