import MeterNode.Effect

/-!
# Time synchronisation

The node knows UTC as an offset from its monotonic clock.  Every answer of the time server is a
new reference.  The correction it brings is the difference between the UTC time and the local time
that passed since the last reference, and all of it goes into the offset.  A server that does not
answer counts as the answer zero, which changes nothing.

Times of the server are whole seconds; they and the local clock are compared in milliseconds, and
both stop at the largest value of a signed 64-bit number.

A comparison with an answer leaves a line in the log: a warning if there was no answer, and what the
correction is made of unless it is zero.
-/

namespace MeterNode

/-- The largest millisecond count. -/
def millisMax : Nat := UInt64.size / 2 - 1

/-- UTC seconds in milliseconds. -/
def utcMillis (seconds : Nat) : Int := (min (seconds * 1000) millisMax : Nat)

/-- A local instant in milliseconds. -/
def localMillis (t : Instant) : Int := (min t.millis millisMax : Nat)

/-- The offset of UTC from the local clock, and the reference it was last corrected at. -/
structure TimeSync where
  /-- UTC milliseconds at local instant zero. -/
  offsetMs : Int
  /-- UTC seconds of the reference. -/
  referenceUtc : Nat
  /-- Local instant of the reference. -/
  referenceAt : Instant
deriving DecidableEq

namespace TimeSync

/-- The first reference.  There is none without an answer. -/
def initial (utc : Nat) (now : Instant) : Option TimeSync :=
  if utc = 0 then none
  else some ⟨utcMillis utc - localMillis now, utc, now⟩

/-- The UTC time that passed since the reference, in milliseconds. -/
def utcDelta (s : TimeSync) (utc : Nat) : Int := utcMillis utc - utcMillis s.referenceUtc

/-- The local time that passed since the reference, in milliseconds. -/
def localDelta (s : TimeSync) (now : Instant) : Int := localMillis now - localMillis s.referenceAt

/-- The correction an answer brings. -/
def correction (s : TimeSync) (utc : Nat) (now : Instant) : Int :=
  s.utcDelta utc - s.localDelta now

/-- Take an answer as the new reference. -/
def corrected (s : TimeSync) (utc : Nat) (now : Instant) : TimeSync :=
  ⟨s.offsetMs + s.correction utc now, utc, now⟩

/-- Compare with an answer of the server: the correction, if there was an answer, and the new
state. -/
def resync (s : TimeSync) (utc : Nat) (now : Instant) : Option Int × TimeSync :=
  if utc = 0 then (none, s) else (some (s.correction utc now), s.corrected utc now)

/-- UTC milliseconds at a local instant, zero before the epoch. -/
def utcMs (s : TimeSync) (now : Instant) : Nat := (s.offsetMs + localMillis now).toNat

/-- UTC seconds at a local instant. -/
def utcSeconds (s : TimeSync) (now : Instant) : Nat := s.utcMs now / 1000

/-- Log what a comparison finds. -/
def logComparison (s : TimeSync) (utc : Nat) (now : Instant) : Act Unit :=
  if utc = 0 then Act.log .warn "time: resync skipped, no answer"
  else if s.correction utc now = 0 then return ()
  else
    Act.log .info ("time: drift correction_ms=" ++ toString (s.correction utc now) ++
      " delta_utc_ms=" ++ toString (s.utcDelta utc) ++ " delta_local_ms=" ++
      toString (s.localDelta now))

/-- Compare the clock with an answer of the time server. -/
def compare (s : TimeSync) (utc : Nat) (now : Instant) : Act (Option Int × TimeSync) := do
  s.logComparison utc now
  return s.resync utc now

end TimeSync

end MeterNode
