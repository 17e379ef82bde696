import MeterNode.Effect

/-!
# A scripted transport

The bench's transport does nothing but keep records.  It notes every call before it decides the
outcome, hands out handles in increasing order, and keeps the set of those in use.  What calls come
to is scripted: an error set for a kind of call applies until it is taken back, and writes take
their outcomes from a queue that means success when it is empty.
-/

namespace MeterNode.Bench

open MeterNode.Text

/-- A transport that follows a script. -/
structure Transport where
  /-- The next handle. -/
  next : UInt8 := 1
  openError : Option NetError := none
  /-- What lookups give. -/
  resolution : Except NetError Resolution := .ok (.resolved ⟨192, 168, 1, 10⟩)
  connectError : Option NetError := none
  /-- A close that fails leaves the handle in use. -/
  closeError : Option NetError := none
  listenError : Option NetError := none
  /-- What the next writes come to. -/
  writeResults : List (Option NetError) := []
  /-- The calls so far, latest first. -/
  calls : List String := []
  /-- The successful writes so far, latest first. -/
  written : List (Handle × Bytes) := []
  /-- The handles in use. -/
  live : List UInt8 := []

namespace Transport

/-- Success, or the error that is set. -/
def outcome (e : Option NetError) : Except NetError Unit :=
  match e with
  | none => .ok ()
  | some e => .error e

/-- Note a call. -/
def note (t : Transport) (call : String) : Transport := { t with calls := call :: t.calls }

/-- Put a number into an increasing list. -/
def insertSorted (n : UInt8) : List UInt8 → List UInt8
  | [] => [n]
  | m :: rest => if n < m then n :: m :: rest else if n = m then m :: rest
      else m :: insertSorted n rest

/-- Hand out a handle, unless an error is set. -/
def issue (t : Transport) (e : Option NetError) : Except NetError Handle × Transport :=
  match e with
  | some e => (.error e, t)
  | none => (.ok ⟨t.next⟩, { t with next := t.next + 1, live := insertSorted t.next t.live })

/-- Take a handle out of use. -/
def drop (t : Transport) (h : Handle) : Transport := { t with live := t.live.filter (· ≠ h.id) }

/-- Answer a call. -/
def answer (t : Transport) : (call : NetCall) → call.Answer × Transport
  | .openSocket secure => (t.note ("open secure=" ++ toString secure)).issue t.openError
  | .register h owner =>
      ((), t.note ("register " ++ toString h.id ++ " conn=" ++ toString owner.index))
  | .unregister h => ((), t.note ("unregister " ++ toString h.id))
  | .close h =>
      let t := t.note ("close " ++ toString h.id)
      (outcome t.closeError, if t.closeError.isSome then t else t.drop h)
  | .abort h => ((), (t.note ("abort " ++ toString h.id)).drop h)
  | .resolve host _ => (t.resolution, t.note ("resolve " ++ host))
  | .connect h address port =>
      (outcome t.connectError,
        t.note ("connect " ++ toString h.id ++ " " ++ address.text ++ ":" ++ toString port))
  | .write h bytes =>
      let t := t.note ("write " ++ toString h.id)
      let result := t.writeResults.head?.join
      let t := { t with writeResults := t.writeResults.tail }
      (outcome result, if result.isSome then t else { t with written := (h, bytes) :: t.written })
  | .listen port _ => (t.note ("listen " ++ toString port)).issue t.listenError

end Transport

end MeterNode.Bench
