import MeterNode.Schedule.Entry

/-!
# Assigning channels

Channel identifiers are handed out in order, one for each metric of each source.  Metrics past the
last identifier are not published, and a source that is left without a channel is dropped.
-/

namespace MeterNode

/-- A source and the metrics it publishes. -/
structure SourcePlan where
  source : Source
  /-- The names of the metrics; a source with one metric need not name it. -/
  metrics : List (Option String)

/-- A source with its channels. -/
structure PlannedSource where
  source : Source
  channels : List MeterChannel

namespace PlannedSource

/-- The entry for a planned source, once its connection is known. -/
def toEntry (p : PlannedSource) (conn : ConnId) (basePath : String) : Entry :=
  { source := p.source, channels := p.channels, conn, uploader := Uploader.new basePath }

end PlannedSource

/-- The channels of some metrics; the first one takes the identifier at place `next`. -/
def assignMetrics (uuidFor : Nat → Option String) : Nat → List (Option String) → List MeterChannel
  | _, [] => []
  | next, metric :: rest =>
      match uuidFor next with
      | none => []
      | some uuid => { uuid, identifier := metric } :: assignMetrics uuidFor (next + 1) rest

/-- The planned sources; the first metric takes the identifier at place `next`. -/
def assignFrom (uuidFor : Nat → Option String) : Nat → List SourcePlan → Act (List PlannedSource)
  | _, [] => return []
  | next, plan :: rest => do
      let channels := assignMetrics uuidFor next plan.metrics
      if channels.isEmpty then
        Act.log .warn ("sched: source protocol=" ++ plan.source.protocol ++
          " has no channel uuid, skipped")
        assignFrom uuidFor next rest
      else
        return ⟨plan.source, channels⟩ :: (← assignFrom uuidFor (next + channels.length) rest)

/-- Hand out identifiers in order. -/
def assignChannels (plans : List SourcePlan) (uuidFor : Nat → Option String) :
    Act (List PlannedSource) :=
  assignFrom uuidFor 0 plans

end MeterNode
