/-!
# Counters

The node counts what happens to it: connections, uploads, radio sessions, meter reads, status
requests and clock corrections.  A `Tally` is one thing worth counting and `Telemetry.record` books
it.  Plain counters have 32 bits and wrap; sample and round-trip totals stop at the largest value
instead, so that a total never looks small again; the longest round trip only grows.
-/

namespace MeterNode

/-- One thing that happened and is counted. -/
inductive Tally where
  /-- A lookup for a new exchange was started. -/
  | connAttempt
  /-- A connection failed at any stage before its reply. -/
  | connFailure
  /-- A write met a full send buffer. -/
  | connBackpressure
  /-- A connect or send outlived its timeout. -/
  | connTimeout
  /-- The collector took a batch. -/
  | uploadAccepted (samples roundtripMs : Nat)
  /-- The collector refused a batch, with the status it gave if that could be read. -/
  | uploadRejected (status : Option Nat)
  /-- A batch was given up. -/
  | uploadAbandoned
  /-- A join was tried. -/
  | radioAttempt
  /-- An enable failed. -/
  | radioFailure
  /-- The radio link came up or went down. -/
  | linkUp (up : Bool)
  /-- A source was read. -/
  | meterRead (ok : Bool)
  /-- A status request was served. -/
  | request
  /-- The clock was compared with the time server. -/
  | resync (ok : Bool)
  /-- The supply was measured. -/
  | supply (volts : Float32)
  /-- A scheduler tick began. -/
  | tick

/-- The counters. -/
structure Telemetry where
  connAttempts : UInt32 := 0
  connFailures : UInt32 := 0
  connBackpressure : UInt32 := 0
  connTimeouts : UInt32 := 0
  uploadsOk : UInt32 := 0
  uploadsRejected : UInt32 := 0
  uploadsAbandoned : UInt32 := 0
  /-- Samples delivered, stopping at the largest value. -/
  samplesSent : Nat := 0
  /-- Sum of all round trips in milliseconds, stopping at the largest value. -/
  roundtripTotalMs : Nat := 0
  /-- The longest round trip. -/
  roundtripMaxMs : Nat := 0
  /-- The last status the collector gave; zero stands for none. -/
  lastStatusCode : Nat := 0
  radioAttempts : UInt32 := 0
  radioFailures : UInt32 := 0
  linkUp : Bool := false
  meterReads : UInt32 := 0
  meterErrors : UInt32 := 0
  requests : UInt32 := 0
  resyncs : UInt32 := 0
  resyncFailures : UInt32 := 0
  /-- The last supply measurement in millivolts; zero stands for none. -/
  supplyMillivoltsOrZero : UInt32 := 0
  ticks : UInt32 := 0

namespace Telemetry

/-- The largest value of a total. -/
def totalMax : Nat := UInt32.size - 1

/-- A supply voltage in whole millivolts.  Only a finite positive voltage counts. -/
def millivolts (volts : Float32) : UInt32 :=
  if volts.isFinite && volts > 0.0 then (volts * 1000.0).toUInt32 else 0

/-- Book one tally. -/
def record (t : Telemetry) : Tally → Telemetry
  | .connAttempt => { t with connAttempts := t.connAttempts + 1 }
  | .connFailure => { t with connFailures := t.connFailures + 1 }
  | .connBackpressure => { t with connBackpressure := t.connBackpressure + 1 }
  | .connTimeout => { t with connTimeouts := t.connTimeouts + 1 }
  | .uploadAccepted samples ms =>
      { t with
        uploadsOk := t.uploadsOk + 1
        lastStatusCode := 200
        samplesSent := min (t.samplesSent + samples) totalMax
        roundtripTotalMs := min (t.roundtripTotalMs + min ms totalMax) totalMax
        roundtripMaxMs := max t.roundtripMaxMs (min ms totalMax) }
  | .uploadRejected status =>
      { t with uploadsRejected := t.uploadsRejected + 1, lastStatusCode := status.getD 0 }
  | .uploadAbandoned => { t with uploadsAbandoned := t.uploadsAbandoned + 1 }
  | .radioAttempt => { t with radioAttempts := t.radioAttempts + 1 }
  | .radioFailure => { t with radioFailures := t.radioFailures + 1 }
  | .linkUp up => { t with linkUp := up }
  | .meterRead ok =>
      { t with
        meterReads := t.meterReads + 1
        meterErrors := if ok then t.meterErrors else t.meterErrors + 1 }
  | .request => { t with requests := t.requests + 1 }
  | .resync true => { t with resyncs := t.resyncs + 1 }
  | .resync false => { t with resyncFailures := t.resyncFailures + 1 }
  | .supply volts => { t with supplyMillivoltsOrZero := millivolts volts }
  | .tick => { t with ticks := t.ticks + 1 }

/-- The last status the collector gave. -/
def lastStatus (t : Telemetry) : Option Nat :=
  if t.lastStatusCode = 0 then none else some t.lastStatusCode

/-- The last supply measurement in millivolts. -/
def supplyMillivolts (t : Telemetry) : Option UInt32 :=
  if t.supplyMillivoltsOrZero = 0 then none else some t.supplyMillivoltsOrZero

end Telemetry

end MeterNode
