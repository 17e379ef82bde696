import MeterNode.Effect

/-!
# Lookups

Names of collectors are looked up one after the other.  At most two requests wait, and the newest
answer is remembered.  A name that is an address, or the one the newest answer is for, needs no
lookup.
-/

namespace MeterNode

/-- The requests that may wait. -/
def lookupDepth : Nat := 2

/-- The longest name that is looked up, in bytes. -/
def lookupNameMax : Nat := 64

/-- A name to look up, and the connection that waits for it. -/
structure LookupRequest where
  owner : ConnId
  host : String

/-- The requests that wait, and the newest answer. -/
structure Lookups where
  /-- The requests, oldest first. -/
  requests : List LookupRequest := []
  /-- The newest answer. -/
  newest : Option (String × Address) := none

namespace Lookups

/-- The address of a name, as far as it is known. -/
def known? (l : Lookups) (host : String) : Option Address :=
  (Address.ofText? host).orElse fun _ => (l.newest.filter (·.1 = host)).map Prod.snd

/-- Find the address of a name, or leave a request. -/
def resolve (l : Lookups) (host : String) (owner : ConnId) :
    Except NetError Resolution × Lookups :=
  match l.known? host with
  | some address => (.ok (.resolved address), l)
  | none =>
      if lookupNameMax < host.utf8ByteSize then (.error .argument, l)
      else if lookupDepth ≤ l.requests.length then (.error .inProgress, l)
      else (.ok .pending, { l with requests := l.requests ++ [⟨owner, host⟩] })

/-- Take the oldest request. -/
def take? (l : Lookups) : Option (LookupRequest × Lookups) :=
  match l.requests with
  | [] => none
  | request :: rest => some (request, { l with requests := rest })

/-- Remember an answer. -/
def remember (l : Lookups) (host : String) (address : Address) : Lookups :=
  { l with newest := some (host, address) }

end Lookups

end MeterNode
