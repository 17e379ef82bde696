import MeterNode.Bench.Hardware
import MeterNode.Board.Task

/-!
# The board on the bench

A machine is a board with scripted hardware, a clock that moves only when it is told to, and tasks.
Tasks are polled in order.  A task that is polled runs until it has to wait.

* *Settling* polls every task once, and then all of them again as long as one of them moves.  Times
  are looked at in the first of these rounds only, and never at the very first try of a wait: a
  clock that stands still wakes no task.
* *Advancing* settles, moves the clock to the next time a task waits for, settles, and so on up to
  a target.

A stage of a task ends only by taking something that was queued for it, or at a time.  What is
queued therefore bounds the stages a task goes through when it is polled, and a few times as much
bounds the rounds of settling.  Every step of advancing but the first ones moves the clock, so
there are no more of them than microseconds.

A machine that was reset does nothing any more.
-/

namespace MeterNode.Bench

open MeterNode.Text

/-- A task. -/
structure Task where
  /-- Where the task stands. -/
  stage : Stage
  /-- What is left of the work of its stage. -/
  job : Job Stage
  /-- The task has been polled, and waits. -/
  waits : Bool := false

/-- A task at the start of a stage. -/
def Task.at_ (stage : Stage) : Task := { stage, job := stage.work }

/-- The next time a task waits for. -/
def Task.deadline? (t : Task) : Option Instant :=
  match t.job with
  | .ask (.await w) _ => w.deadline?
  | _ => none

/-- A board on the bench. -/
structure Machine extends Journal where
  clock : Instant := 0
  desk : Desk := {}
  hardware : Hardware := {}
  /-- The tasks, in the order in which they are polled. -/
  tasks : List Task := []

namespace Machine

/-! ## Answers -/

/-- Put the hardware back after it gave something. -/
def given {α : Type} (m : Machine) (r : α × Hardware) : α × Machine :=
  (r.1, { m with hardware := r.2 })

/-- What a wait gives, if it can end.  The clock is looked at only if `timed` is set. -/
def ready? (timed : Bool) : (w : Wait) → Machine → Option (w.Answer × Machine)
  | .command slot, m =>
      (m.desk.slots.take? slot).map fun (c, slots) => (c, { m with desk := { m.desk with slots } })
  | .request, m =>
      m.desk.lookups.take?.map fun (r, lookups) => (r, { m with desk := { m.desk with lookups } })
  | .room event, m => (m.desk.post? event).map fun desk => ((), { m with desk })
  | .connected n, m => (m.hardware.connected? n).map m.given
  | .accepted n, m => (m.hardware.accepted? n).map m.given
  | .incoming n, m => (m.hardware.incoming? n).map m.given
  | .outgoing n bytes, m => (m.hardware.outgoing? n bytes).map m.given
  | .answer host, m => (m.hardware.lookup? host).map fun r => (r, m)
  | .datagram most, m => (m.hardware.datagram? most).map m.given
  | .association, m => m.hardware.association?.map m.given
  | .address, m => if m.hardware.address.isSome then some ((), m) else none
  | .time at_, m => if timed && at_ ≤ m.clock then some ((), m) else none
  | .forever, _ => none
  | .race first second, m =>
      match ready? timed first m with
      | some (a, m) => some (.inl a, m)
      | none => (ready? timed second m).map fun (b, m) => (.inr b, m)
  | .within w deadline, m =>
      match ready? timed w m with
      | some (a, m) => some (some a, m)
      | none => if timed && deadline ≤ m.clock then some (none, m) else none

/-- The answer to an operation, unless it is a wait that cannot end. -/
def answer? (timed : Bool) : (op : DeviceOp) → Machine → Option (op.Answer × Machine)
  | .log level text, m => some ((), { m with toJournal := m.write level text })
  | .count tally, m => some ((), { m with toJournal := m.book tally })
  | .counters, m => some (m.telemetry, m)
  | .now, m => some (m.clock, m)
  | .desk, m => some (m.desk, m)
  | .setDesk desk, m => some ((), { m with desk })
  | .hardware call, m => some (m.given (m.hardware.answer call))
  | .await w, m => ready? timed w m

/-! ## Polling -/

/-- What polling a program came to. -/
inductive Polled (α : Type) where
  | ended (value : α)
  /-- The program waits; `moved` says whether it did anything before. -/
  | waiting (rest : Job α) (moved : Bool)

/-- Run a program until it ends or has to wait. -/
def poll {α : Type} (timed moved : Bool) : Job α → Machine → Polled α × Machine
  | .pure a, m => (.ended a, m)
  | .ask op rest, m =>
      if m.hardware.isReset then (.waiting (.ask op rest) moved, m)
      else
        match m.answer? timed op with
        | none => (.waiting (.ask op rest) moved, m)
        | some (a, m) => poll false true (rest a) m

/-- Run a program that does not wait. -/
def perform {α : Type} (m : Machine) (p : Job α) : Option α × Machine :=
  match poll false false p m with
  | (.ended a, m) => (some a, m)
  | (.waiting .., m) => (none, m)

/-- Run a task until it has to wait, through at most `stages` stages.  The answer says whether it
did anything. -/
def runTask : Nat → Bool → Bool → Task → Machine → (Task × Bool) × Machine
  | 0, _, moved, t, m => ((t, moved), m)
  | stages + 1, timed, moved, t, m =>
      match poll timed moved t.job m with
      | (.waiting job moved, m) => (({ t with job, waits := true }, moved), m)
      | (.ended stage, m) => runTask stages false true (.at_ stage) m

/-- The chunks that bytes arrive in. -/
def chunks : Arrival → Nat
  | .bytes bytes => bytes.length / chunkMax + 1
  | _ => 1

/-- A count over some things, added up. -/
def countAll {α : Type} (count : α → Nat) (xs : List α) : Nat :=
  xs.foldr (fun x n => count x + n) 0

/-- What is queued for a socket. -/
def queuedFor (s : SocketScript) : Nat :=
  s.connects.length + s.accepts.length + countAll chunks s.arrivals

/-- All that is queued for the tasks. -/
def queued (m : Machine) : Nat :=
  countAll (·.commands.length) m.desk.slots.all.toList + m.desk.lookups.requests.length +
    countAll queuedFor m.hardware.sockets + m.hardware.datagrams.length + m.hardware.joins.length

/-- Poll tasks in order, and say whether one of them did anything. -/
def pollEach (timed : Bool) : List Task → Machine → (List Task × Bool) × Machine
  | [], m => (([], false), m)
  | t :: rest, m =>
      let ((t, moved), m) := runTask (m.queued + 3) (timed && t.waits) false t m
      let ((rest, more), m) := pollEach timed rest m
      ((t :: rest, moved || more), m)

/-- Poll all tasks, and say whether one of them did anything. -/
def pollAll (timed : Bool) (m : Machine) : Bool × Machine :=
  let ((tasks, moved), m) := pollEach timed m.tasks m
  (moved, { m with tasks })

/-! ## Settling and advancing -/

/-- Poll all tasks as long as one of them does anything, `rounds` times at most. -/
def pollRounds : Nat → Machine → Machine
  | 0, m => m
  | rounds + 1, m =>
      let (moved, m) := m.pollAll false
      if moved then pollRounds rounds m else m

/-- Poll all tasks until all of them wait. -/
def settle (m : Machine) : Machine :=
  let (_, m) := m.pollAll true
  pollRounds (8 * (m.queued + 32)) m

/-- The next time that any task waits for. -/
def nextTime? (m : Machine) : Option Instant := (m.tasks.filterMap Task.deadline?).min?

/-- Move the clock up to a target, in at most `steps` steps. -/
def advanceTo (target : Instant) : Nat → Machine → Machine
  | 0, m => m
  | steps + 1, m =>
      if m.hardware.isReset then m
      else
        match m.nextTime?.filter (· ≤ target) with
        | none => { m with clock := target }.settle
        | some t => advanceTo target steps { m with clock := max m.clock t }.settle

/-- Let time pass. -/
def advance (m : Machine) (span : Instant) : Machine :=
  advanceTo (m.clock + span) (span + m.tasks.length + 2) m.settle

/-! ## Tasks -/

/-- Add tasks. -/
def spawn (m : Machine) (stages : List Stage) : Machine :=
  { m with tasks := m.tasks ++ stages.map Task.at_ }

/-- Bring the board up and start its tasks, if that worked. -/
def boot (m : Machine) (settings : BuildSettings) : Machine :=
  match m.perform (Job.bringUp settings) with
  | (some true, m) => m.spawn (boardTasks settings)
  | (_, m) => m

/-- What a task has found, if it is an errand that is done. -/
def findingOf (t : Task) : Option Finding :=
  match t.stage with
  | .done finding => some finding
  | _ => none

/-- Take the log lines kept since they were last taken; none if no lines are kept at all. -/
def takeLines (m : Machine) : Option (List (Level × String)) × Machine :=
  let (lines, toJournal) := m.toJournal.takeLines
  (lines, { m with toJournal })

/-- Take what errands have found, and forget the errands. -/
def takeFindings (m : Machine) : List Finding × Machine :=
  (m.tasks.filterMap findingOf, { m with tasks := m.tasks.filter fun t => (findingOf t).isNone })

/-- Have an errand done, unless one is under way, and say whether it was begun. -/
def begin? (m : Machine) (e : Errand) : Bool × Machine :=
  if m.tasks.isEmpty then (true, m.spawn [.errand e]) else (false, m)

/-! ## Calls from outside -/

/-- Change the hardware. -/
def onHardware (f : Hardware → Hardware) (m : Machine) : Machine :=
  { m with hardware := f m.hardware }

/-- Take the lines of the hardware and the bytes written to sockets, each in order. -/
def takeRecords (m : Machine) : (List String × List (Nat × Bytes)) × Machine :=
  ((m.hardware.records.reverse, m.hardware.written.reverse),
    m.onHardware fun h => { h with records := [], written := [] })

/-- Call the transport. -/
def net (m : Machine) (call : NetCall) : Option call.Answer × Machine := m.perform (Job.net call)

/-- Queue reports, and say which found room. -/
def offerAll : List TransportEvent → Machine → List Bool × Machine
  | [], m => ([], m)
  | e :: rest, m =>
      let (fits, m) := match m.desk.post? e with
        | none => (false, m)
        | some desk => (true, { m with desk })
      let (more, m) := offerAll rest m
      (fits :: more, m)

/-- Take reports, the oldest first, `most` of them at most. -/
def drain (m : Machine) (most : Nat) : List TransportEvent × Machine :=
  (m.desk.events.take most, { m with desk := { m.desk with events := m.desk.events.drop most } })

/-- Open a socket and abort it, again and again.  The answer is that of the last time. -/
def cycle : Nat → Machine → Option (Except NetError Handle) × Machine
  | 0, m => (none, m)
  | times + 1, m =>
      let (opened, m) := m.net (.openSocket false)
      let m := match opened with
        | some (.ok handle) => (m.net (.abort handle)).2
        | _ => m
      let (last, m) := cycle times m.settle
      (last.orElse fun _ => opened, m)

end Machine

end MeterNode.Bench
