import MeterNode.Schedule.Tick

/-!
# Setting a node up

A node is put together from its sources, each of which has a collector.  Collectors are connected
in the order of the sources, then the status server is started, and then the first time reference
is taken.  The first thing that fails ends it.
-/

namespace MeterNode

/-- A source, its channels and its collector. -/
structure SourceSetup where
  url : String
  source : Source
  channels : List MeterChannel
  /-- Where samples are posted; the path of the collector by default. -/
  basePath : Option String := none
  /-- The connection that is used; the one of the collector by default. -/
  conn : Option ConnId := none

/-- What a node is put together from. -/
structure NodeSetup where
  sources : List SourceSetup
  net : NetPolicy := {}
  radio : RadioPolicy := {}
  schedule : SchedulerPolicy := {}
  /-- The port that the status server listens on, if there is to be one. -/
  serverPort : Option Nat := none
  /-- UTC seconds of the first time reference. -/
  utc : Nat
  /-- The memory that status lines show. -/
  heap : Option Nat := none
  tzOffsetMin : Int := 0

/-- The connection to a collector that samples are posted to, and the path of the collector. -/
def Registry.addCollector (r : Registry) (url : String) :
    Act (Except RegistryError (ConnId × String) × Registry) := do
  match ← r.getOrCreate url with
  | (.error cause, r) => return (.error cause, r)
  | (.ok id, r) =>
      match r.get? id with
      | none => return (.ok (id, ""), r)
      | some c =>
          let path := (c.endpoint.map Endpoint.path).getD ""
          return (.ok (id, path), r.set (Uploader.installHeaders c))

namespace NodeSetup

/-- The entry of a source, on a connection to its collector. -/
def entryOf (s : SourceSetup) (conn : ConnId) (path : String) : Entry :=
  { source := s.source
    channels := s.channels
    conn := s.conn.getD conn
    uploader := Uploader.new (s.basePath.getD path) }

/-- Connect the collectors in order. -/
def connectEach : List SourceSetup → Registry → Act (Except RegistryError (List Entry) × Registry)
  | [], r => return (.ok [], r)
  | s :: rest, r => do
      match ← r.addCollector s.url with
      | (.error cause, r) => return (.error cause, r)
      | (.ok (conn, path), r) => do
          let (entries, r) ← connectEach rest r
          return (entries.map (entryOf s conn path :: ·), r)

/-- Start the status server, if there is to be one. -/
def startServer (s : NodeSetup) (r : Registry) : Act (Except RegistryError Unit × Registry) :=
  match s.serverPort with
  | none => return (.ok (), r)
  | some port => do
      let (result, r) ← r.startServer port
      return (result.map fun _ => (), r)

/-- Put entries and connections together, at the first time reference. -/
def finish (s : NodeSetup) (entries : List Entry) (registry : Registry) :
    Act (Except Fault Scheduler) := do
  let now ← Act.now
  match TimeSync.initial s.utc now with
  | none => return .error .noTimeReference
  | some time => do
      let radio ← RadioController.new s.radio
      let speed ← SpeedController.new now
      return .ok
        { entries, registry, radio, speed, time
          policy := s.schedule.sanitized
          heap := s.heap
          tzOffsetMin := s.tzOffsetMin }

/-- Put a node together. -/
def build (s : NodeSetup) : Act (Except Fault Scheduler) := do
  match ← connectEach s.sources (Registry.new s.net) with
  | (.error cause, _) => return .error (.registry cause)
  | (.ok entries, registry) => do
      match ← s.startServer registry with
      | (.error cause, _) => return .error (.registry cause)
      | (.ok (), registry) => s.finish entries registry

end NodeSetup

end MeterNode
