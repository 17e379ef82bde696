import MeterNode.Connection.Registry
import MeterNode.Sample.Reading
import MeterNode.Upload.Uploader

/-!
# Faults

Whatever goes wrong in the node is a fault.  Faults of the start-up are fatal: without a source, a
time reference, a radio or a registry there is nothing to run.  Faults of a meter or of an upload
are logged, and the work is tried again later.
-/

namespace MeterNode

/-- Something that went wrong. -/
inductive Fault where
  | noSources
  | noTimeReference
  | radioUnavailable
  | registry (cause : RegistryError)
  | meter (cause : MeterError)
  | upload (cause : UploadError)
deriving DecidableEq

namespace Fault

/-- The description of a fault. -/
def text : Fault → String
  | noSources => "no data sources configured"
  | noTimeReference => "no time reference"
  | radioUnavailable => "radio unavailable"
  | registry cause => cause.text
  | meter cause => cause.text
  | upload cause => cause.text

/-- The short name of a fault. -/
def name : Fault → String
  | noSources => "NoSources"
  | noTimeReference => "NoTimeReference"
  | radioUnavailable => "RadioUnavailable"
  | registry cause => "Registry(" ++ cause.name ++ ")"
  | meter cause => "Meter(" ++ cause.name ++ ")"
  | upload cause => "Upload(" ++ cause.name ++ ")"

/-- The node cannot go on. -/
def isFatal : Fault → Bool
  | meter _ => false
  | upload _ => false
  | _ => true

end Fault

end MeterNode
