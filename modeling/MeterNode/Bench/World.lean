import MeterNode.Bench.Meter
import MeterNode.Bench.Radio
import MeterNode.Bench.Transport
import MeterNode.Schedule.Tick

/-!
# The bench

A bench is a set of scripted devices with a clock, a log, counters and a queue of reports.  It
answers every operation of the node, so any part of the node can be run on it.

Pauses are recorded.  If told so, a pause moves the clock, and reports that are planned for it
arrive during it.  A bench may also have a budget of pauses of the scheduler; the pause that uses
it up is the last thing that happens in a run.
-/

namespace MeterNode.Bench

open MeterNode.Text

/-- Pauses of one part of the node. -/
structure Pauses where
  /-- A pause moves the clock. -/
  advance : Bool := false
  /-- The milliseconds asked for so far, latest first. -/
  asked : List Nat := []
  /-- Pauses since the plan was set. -/
  count : Nat := 0
  /-- The reports that arrive during a pause, by its number. -/
  plan : List (Nat × List TransportEvent) := []

/-- A set of scripted devices. -/
structure World extends Journal where
  clock : Instant := 0
  transport : Transport := {}
  radio : Radio := {}
  cpu : Cpu := {}
  meters : List Meter := []
  /-- The reports that wait, oldest first. -/
  events : List TransportEvent := []
  radioPauses : Pauses := {}
  schedulerPauses : Pauses := {}
  /-- The pauses of the scheduler that a run may take. -/
  budget : Option Nat := none
  /-- What the time server answers. -/
  utcAnswers : List Nat := []

namespace World

/-- Queue a report, if there is room. -/
def offer (w : World) (e : TransportEvent) : Bool × World :=
  if w.events.length < eventDepth then (true, { w with events := w.events ++ [e] }) else (false, w)

/-- Queue reports, and say which found room. -/
def offerAll : List TransportEvent → World → List Bool × World
  | [], w => ([], w)
  | e :: rest, w =>
      let (fits, w) := w.offer e
      let (more, w) := offerAll rest w
      (fits :: more, w)

/-- The pauses of a part of the node. -/
def pausesOf (w : World) : Pauser → Pauses
  | .radio => w.radioPauses
  | .scheduler => w.schedulerPauses

/-- Change the pauses of a part of the node. -/
def setPauses (w : World) (who : Pauser) (p : Pauses) : World :=
  match who with
  | .radio => { w with radioPauses := p }
  | .scheduler => { w with schedulerPauses := p }

/-- Plan the reports that arrive during pauses, counted from now on. -/
def planReports (w : World) (plan : List (Nat × List TransportEvent)) : World :=
  { w with schedulerPauses := { w.schedulerPauses with plan, count := 0 } }

/-- Take the log lines kept since they were last taken; none if no lines are kept at all. -/
def takeLines (w : World) : Option (List (Level × String)) × World :=
  let (lines, toJournal) := w.toJournal.takeLines
  (lines, { w with toJournal })

/-- Take the milliseconds asked for by a part of the node, in order. -/
def takeAsked (who : Pauser) (w : World) : List Nat × World :=
  let p := w.pausesOf who
  (p.asked.reverse, w.setPauses who { p with asked := [] })

/-- Take the calls of the transport and the successful writes, each in order. -/
def takeCalls (w : World) : (List String × List (Handle × Bytes)) × World :=
  let t := w.transport
  ((t.calls.reverse, t.written.reverse),
    { w with transport := { t with calls := [], written := [] } })

/-- Take what the light was set to, in order. -/
def takeLight (w : World) : List Bool × World :=
  (w.radio.light.reverse, { w with radio := { w.radio with light := [] } })

/-- Change the first meter, if it is an analog input. -/
def onAnalog (f : AnalogInput → AnalogInput) (w : World) : World :=
  match w.meters with
  | .analog a :: rest => { w with meters := .analog (f a) :: rest }
  | _ => w

/-- Take what was done with the first meter, if it is an analog input: the levels that were driven,
the delays, each in order, and the number of samples that are left. -/
def takeAnalog (w : World) : (List Bool × List Nat × Nat) × World :=
  match w.meters with
  | .analog a :: rest =>
      ((a.levels.reverse, a.delays.reverse, a.samples.length),
        { w with meters := .analog { a with levels := [], delays := [] } :: rest })
  | _ => (([], [], 0), w)

/-- Let a pause pass. -/
def pause (w : World) (who : Pauser) (ms : Nat) : World :=
  let p := w.pausesOf who
  let p := { p with asked := ms :: p.asked, count := p.count + 1 }
  let w := (w.setPauses who p)
  let w := if p.advance then { w with clock := w.clock + Instant.ofMillis ms } else w
  let arriving := (p.plan.filter (·.1 = p.count)).flatMap Prod.snd
  (offerAll arriving w).2

/-- Answer a call of a meter. -/
def meter (w : World) (device : Nat) (call : MeterCall) : call.Answer × World :=
  let (a, m) := (w.meters.getD device (.memory 0 0)).answer call
  (a, { w with meters := w.meters.set device m })

/-- Answer an operation. -/
def answer (w : World) : (op : Effect) → op.Answer × World
  | .log level text => ((), { w with toJournal := w.write level text })
  | .count tally => ((), { w with toJournal := w.book tally })
  | .counters => (w.telemetry, w)
  | .now => (w.clock, w)
  | .net call =>
      let (a, transport) := w.transport.answer call
      (a, { w with transport })
  | .takeEvents => (w.events, { w with events := [] })
  | .radio call =>
      let clock := w.clock + w.radio.duration call
      let (a, radio) := w.radio.answer call
      (a, { w with radio, clock })
  | .cpu call =>
      let (a, cpu) := w.cpu.answer call
      (a, { w with cpu })
  | .meter device call => w.meter device call
  | .pause who ms => ((), w.pause who ms)
  | .utc => (w.utcAnswers.headD 0, { w with utcAnswers := w.utcAnswers.tail })

/-- Run a program of the node on the bench. -/
def run {α : Type} (w : World) (p : Act α) : α × World := Prog.run (fun op w => w.answer op) p w

/-- Whether the budget of pauses is used up. -/
def isSpent (w : World) : Bool := w.budget.any (· ≤ w.schedulerPauses.count)

/-- Answer an operation, unless it is the pause that uses the budget up. -/
def answerWithin (op : Effect) (w : World) : Option op.Answer × World :=
  let (a, w) := w.answer op
  match op with
  | .pause .scheduler _ => (if w.isSpent then none else some a, w)
  | _ => (some a, w)

/-- Let the scheduler run until the budget is used up.  Every round takes a pause, so there are at
most as many rounds as pauses. -/
def runTicks : Nat → Scheduler → World → World
  | 0, _, w => w
  | rounds + 1, s, w =>
      match Prog.runWhile answerWithin s.tickAndPause w with
      | (none, w) => w
      | (some s, w) => runTicks rounds s w

/-- Let the scheduler run for a number of pauses, in which the clock moves and planned reports
arrive. -/
def runScheduler (w : World) (s : Scheduler) (pauses : Nat)
    (plan : List (Nat × List TransportEvent)) : World :=
  let w := w.planReports plan
  let p := { w.schedulerPauses with advance := true, asked := [] }
  let w := { w with
    schedulerPauses := p
    radioPauses := { w.radioPauses with asked := [] }
    budget := some pauses }
  runTicks (pauses + 1) s w

end World

end MeterNode.Bench
