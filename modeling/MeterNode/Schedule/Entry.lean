import MeterNode.Source.Basic
import MeterNode.Status.Page
import MeterNode.Upload.Uploader

/-!
# Entries

An entry pairs a source with the channels it fills and the connection they are uploaded over.
Reads follow the interval of the source; uploads happen on their own time.

A read that fails changes no channel.  A read that succeeds files every reading, in order, into
every channel that accepts it.  Either way the interval starts again.

An entry whose upload failed is held: it has nothing to send until it is released.
-/

namespace MeterNode

/-- Readings taken by one read, at most. -/
def readingsPerRead : Nat := 16

/-- A source with its channels and its connection. -/
structure Entry where
  source : Source
  channels : List MeterChannel
  conn : ConnId
  uploader : Uploader
  /-- When the last read began. -/
  lastRead : Option Instant := none
  isOpen : Bool := false
  /-- An upload failed and is not tried again for now. -/
  held : Bool := false

namespace Entry

/-- The time between reads. -/
def interval (e : Entry) : Instant := e.source.interval

/-- Open the source, unless it is open. -/
def openEntry (e : Entry) : Act (Except MeterError Unit × Entry) := do
  if e.isOpen then
    return (.ok (), e)
  match ← e.source.openSource with
  | (.ok (), source) => return (.ok (), { e with source, isOpen := true })
  | (.error cause, source) => return (.error cause, { e with source })

/-- Close the source, unless it is closed. -/
def closeEntry (e : Entry) : Act (Except MeterError Unit × Entry) := do
  if !e.isOpen then
    return (.ok (), e)
  let (result, source) ← e.source.closeSource
  return (result, { e with source, isOpen := false })

/-- The time until the next read, zero if it is due. -/
def readDueIn (e : Entry) (now : Instant) : Instant :=
  match e.lastRead with
  | none => 0
  | some last => (last + e.interval) - now

/-- File readings into the channels that accept them. -/
def fileAll (readings : List Reading) (channels : List MeterChannel) : List MeterChannel :=
  channels.map fun c => readings.foldl MeterChannel.take c

/-- Read the source. -/
def read (e : Entry) (supply : Option SupplyReading) (utcMs : Nat) (now : Instant) :
    Act (Except MeterError Nat × Entry) := do
  let e := { e with lastRead := some now }
  if !e.isOpen then
    Act.count (.meterRead false)
    return (.error .notOpen, e)
  let outcome ← e.source.read supply readingsPerRead utcMs
  match outcome.result with
  | .error cause => do
      Act.count (.meterRead false)
      return (.error cause, e)
  | .ok produced => do
      Act.count (.meterRead true)
      Act.log .debug ("sched: read protocol=" ++ e.source.protocol ++ " readings=" ++
        toString produced)
      return (.ok produced, { e with channels := fileAll outcome.readings e.channels })

/-- Some channel has samples. -/
def readyToSend (e : Entry) : Bool := Uploader.ready e.channels

/-- There are samples and no upload has failed. -/
def sendPending (e : Entry) : Bool := !e.held && e.readyToSend

/-- A batch is on its way. -/
def isBusy (e : Entry) : Bool := e.uploader.isBusy

/-- Take one step of the upload. -/
def service (e : Entry) (conn : Connection) (now : Instant) :
    Act (UploadProgress × Entry × Connection) := do
  let s ← e.uploader.service conn e.channels now
  return (s.progress, { e with uploader := s.uploader, channels := s.channels }, s.conn)

/-- The largest interval the status page shows. -/
def shownIntervalMax : Nat := UInt32.size - 1

/-- What the status page shows of the entry. -/
def views (e : Entry) : List ChannelView :=
  e.channels.map fun c =>
    { uuid := c.uuid
      lastTs := c.last.map Sample.ts
      lastValue := c.last.map Sample.value
      intervalS := min (Instant.seconds e.interval) shownIntervalMax
      protocol := e.source.protocol }

end Entry

end MeterNode
