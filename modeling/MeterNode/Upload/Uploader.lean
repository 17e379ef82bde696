import MeterNode.Connection.Basic
import MeterNode.Http.Reading
import MeterNode.Settings.Build
import MeterNode.Upload.Batch

/-!
# Uploading

An uploader moves the samples of some channels to a collector, one batch at a time.  It does not
wait: every call of `service` looks at the state of the connection and takes one step.

* A buffered reply is evaluated.  Status 200 acknowledges the samples of the batch; any other reply
  ends the batch and leaves the samples where they are.
* A lookup, a connect or a send under way is left alone.
* Otherwise there is a batch, or one is framed, and the connection is connected or written to.

Connects and repeated writes of a batch are counted together.  After three of them the batch is
given up.
-/

namespace MeterNode

open MeterNode.Text

/-- Connects and repeated writes made for one batch, at most. -/
def attemptsMax : Nat := 3

/-- The bytes of a refusal that are logged, at most. -/
def excerptMax : Nat := 120

/-- Why a batch was not delivered. -/
inductive UploadError where
  | notReady (state : ConnState)
  | backpressure
  | rejected (status : Nat)
  | malformed
  | timeout
deriving DecidableEq

/-- The description of a failure. -/
def UploadError.text : UploadError → String
  | .notReady _ => "connection not ready"
  | .backpressure => "send buffer full"
  | .rejected _ => "collector rejected batch"
  | .malformed => "malformed collector reply"
  | .timeout => "collector did not answer"

/-- The short name of a failure. -/
def UploadError.name : UploadError → String
  | .notReady state => "NotReady(" ++ state.name ++ ")"
  | .backpressure => "Backpressure"
  | .rejected status => "Rejected(" ++ toString status ++ ")"
  | .malformed => "Malformed"
  | .timeout => "Timeout"

/-- What a step came to. -/
inductive UploadProgress where
  /-- Nothing is buffered and nothing is under way. -/
  | idle
  | inFlight
  | delivered (samples : Nat)
  | failed (cause : UploadError)
deriving DecidableEq

/-- Moves buffered samples to a collector. -/
structure Uploader where
  /-- The path of the collector. -/
  basePath : String
  /-- The batch on its way. -/
  batch : Option Batch := none
  /-- The last timestamp delivered, channel by channel. -/
  lastSent : List (Option Nat) := []

namespace Uploader

/-- An uploader for a collector with a path. -/
def new (basePath : String) : Uploader :=
  { basePath := String.ofList (Endpoint.dropSlashes basePath.toList) }

/-- Register the headers that uploads carry. -/
def installHeaders (c : Connection) : Connection :=
  let (_, c) := c.addHeader "Content-type: application/json"
  let (_, c) := c.addHeader "Accept: application/json"
  (c.addHeader ("User-Agent: " ++ generator ++ "/" ++ version)).2

/-- A batch is on its way. -/
def isBusy (u : Uploader) : Bool := u.batch.isSome

/-- Some channel has samples. -/
def ready (channels : List MeterChannel) : Bool := channels.any fun c => !c.isEmpty

/-- Where the samples of a channel are posted. -/
def resourceFor (u : Uploader) (uuid : String) : String :=
  u.basePath ++ "/data/" ++ uuid ++ ".json"

/-- The last timestamp delivered for a channel. -/
def lastSentOf (u : Uploader) (channel : Nat) : Option Nat := u.lastSent[channel]?.join

/-- Remember the last timestamp delivered for a channel. -/
def markSent (u : Uploader) (channel ts : Nat) : Uploader :=
  let room := u.lastSent ++ List.replicate (channel + 1 - u.lastSent.length) none
  { u with lastSent := room.set channel (some ts) }

/-! ## Framing -/

/-- The batch that the oldest samples of a channel make. -/
def batchOf (u : Uploader) (now : Instant) (index : Nat) (c : MeterChannel) : Batch :=
  let covered := c.pending.take batchMax
  let tuples := dropRepeats (u.lastSentOf index) covered
  { channel := index
    covered := covered.length
    tuples
    resource := u.resourceFor c.uuid
    payload := Batch.payloadText c.precision tuples
    started := now }

/-- Frame a batch from the first channel that has something to deliver.  Samples that all repeat a
delivered timestamp are acknowledged on the spot.  `index` is the place of the first channel. -/
def frame (u : Uploader) (now : Instant) :
    Nat → List MeterChannel → Act (Option Batch × List MeterChannel)
  | _, [] => return (none, [])
  | index, c :: rest => do
      if c.isEmpty then
        let (batch, rest) ← frame u now (index + 1) rest
        return (batch, c :: rest)
      let batch := u.batchOf now index c
      if batch.tuples.isEmpty then
        Act.log .debug ("upload: uuid=" ++ c.uuid ++ " skipped duplicates=" ++
          toString batch.covered)
        let (found, rest) ← frame u now (index + 1) rest
        return (found, c.acknowledge batch.covered :: rest)
      Act.log .debug ("upload: batch uuid=" ++ c.uuid ++ " tuples=" ++
        toString batch.tuples.length ++ " buffered=" ++ toString c.pending.length)
      return (some batch, c :: rest)

/-! ## Steps -/

/-- What a step of an uploader leaves behind. -/
structure Serviced where
  progress : UploadProgress
  uploader : Uploader
  conn : Connection
  channels : List MeterChannel

/-- Give the batch up. -/
def giveUp (u : Uploader) (cause : UploadError) (conn : Connection)
    (channels : List MeterChannel) : Act Serviced := do
  Act.count .uploadAbandoned
  return ⟨.failed cause, { u with batch := none }, conn, channels⟩

/-- Acknowledge the samples of a delivered batch. -/
def acknowledgeBatch (b : Batch) (channels : List MeterChannel) : List MeterChannel :=
  channels.modify b.channel (·.acknowledge b.covered)

/-- Evaluate the reply to a batch. -/
def evaluate (u : Uploader) (b : Batch) (reply : Bytes) (conn : Connection)
    (channels : List MeterChannel) (now : Instant) : Act Serviced := do
  let u := { u with batch := none }
  match Http.statusCode reply with
  | some 200 =>
      let roundtrip := (now.since b.started).millis
      Act.count (.uploadAccepted b.tuples.length roundtrip)
      Act.log .info ("upload: id=" ++ conn.label ++ " delivered tuples=" ++
        toString b.tuples.length ++ " roundtrip_ms=" ++ toString roundtrip)
      return ⟨.delivered b.tuples.length, u.markSent b.channel b.lastTs, conn,
        acknowledgeBatch b channels⟩
  | some code =>
      Act.log .error ("upload: id=" ++ conn.label ++ " rejected status=" ++ toString code ++
        " body=" ++ lossyText ((Http.responseBody reply).take excerptMax))
      Act.count (.uploadRejected (some code))
      return ⟨.failed (.rejected code), u, conn, channels⟩
  | none =>
      Act.log .error ("upload: id=" ++ conn.label ++ " malformed reply bytes=" ++
        toString reply.length)
      Act.count (.uploadRejected none)
      return ⟨.failed .malformed, u, conn, channels⟩

/-- Take the reply of the connection. -/
def complete (u : Uploader) (conn : Connection) (channels : List MeterChannel) (now : Instant) :
    Act Serviced := do
  let (reply, conn) ← conn.finishReply
  match u.batch with
  | none => do
      Act.log .debug ("upload: id=" ++ conn.label ++ " stray reply dropped")
      return ⟨.idle, u, conn, channels⟩
  | some b => u.evaluate b (reply.getD []) conn channels now

/-- Connect for a batch. -/
def connectFor (u : Uploader) (b : Batch) (conn : Connection) (channels : List MeterChannel)
    (now : Instant) : Act Serviced := do
  if attemptsMax ≤ b.attempts then
    Act.log .warn ("upload: id=" ++ conn.label ++ " giving up after attempts=" ++
      toString b.attempts)
    u.giveUp .timeout conn channels
  else
    let conn ← conn.connect now
    return ⟨.inFlight, { u with batch := some { b with attempts := b.attempts + 1 } }, conn,
      channels⟩

/-- Write a batch. -/
def write (u : Uploader) (b : Batch) (conn : Connection) (channels : List MeterChannel)
    (now : Instant) : Act Serviced := do
  let conn ← conn.post b.resource b.payload now
  if conn.state = .error then
    u.giveUp (.notReady .error) conn channels
  else
    return ⟨.inFlight, { u with batch := some b }, conn, channels⟩

/-- Write a batch again that met a full send buffer. -/
def writeAgain (u : Uploader) (b : Batch) (conn : Connection) (channels : List MeterChannel)
    (now : Instant) : Act Serviced := do
  if attemptsMax ≤ b.attempts then
    let conn ← conn.abandon "backpressure"
    u.giveUp .backpressure conn channels
  else
    let (_, conn) ← conn.resume
    u.write { b with attempts := b.attempts + 1 } conn channels now

/-- Take the next step for a batch. -/
def proceed (u : Uploader) (b : Batch) (conn : Connection) (channels : List MeterChannel)
    (now : Instant) : Act Serviced :=
  match conn.state with
  | .init => u.connectFor b conn channels now
  | .ready => u.write b conn channels now
  | .retry => u.writeAgain b conn channels now
  | state => return ⟨.failed (.notReady state), { u with batch := some b }, conn, channels⟩

/-- Take the next step for the batch on its way, or for a new one. -/
def advance (u : Uploader) (conn : Connection) (channels : List MeterChannel) (now : Instant) :
    Act Serviced :=
  match u.batch with
  | some b => u.proceed b conn channels now
  | none => do
      match ← u.frame now 0 channels with
      | (some b, channels) => u.proceed b conn channels now
      | (none, channels) => return ⟨.idle, u, conn, channels⟩

/-- Take one step. -/
def service (u : Uploader) (conn : Connection) (channels : List MeterChannel) (now : Instant) :
    Act Serviced :=
  match conn.state with
  | .server => return ⟨.failed (.notReady .server), u, conn, channels⟩
  | .dns | .connecting | .sending =>
      return ⟨if u.isBusy then .inFlight else .idle, u, conn, channels⟩
  | .replied => u.complete conn channels now
  | .error => do
      let conn ← conn.abandon "upload_recover"
      u.advance conn channels now
  | .init | .ready | .retry => u.advance conn channels now

end Uploader

end MeterNode
