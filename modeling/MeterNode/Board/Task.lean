import MeterNode.Board.Startup
import MeterNode.Board.Worker

/-!
# Tasks

Every stage of a task has a program that does its work and ends with the next stage.  The board
starts with seven tasks: network stack, lookups, listener, one worker for each slot of a collector,
and the node itself, in this order.
-/

namespace MeterNode

/-- Do an errand. -/
def Errand.run : Errand → Job Finding
  | .askTime server => do return .time (← Job.askTime server)
  | .powerUp ssid password => do return .poweredUp (← Job.powerUp ssid password)
  | .powerDown => do
      Job.powerDown
      return .poweredDown
  | .join timeoutMs => do return .joined (← Job.join timeoutMs)

/-- Wait for nothing. -/
def Job.rest : Job Stage := do
  match ← Job.await .forever with
  | never => return never.elim

/-- The work of a stage. -/
def Stage.work : Stage → Job Stage
  | .network => do
      Job.milestone .runNetwork
      return .idle
  | .lookups => Job.lookUpNext
  | .client slot => Job.awaitConnect slot
  | .session slot socket handle => Job.serveSession slot socket handle
  | .listener => Job.awaitListen
  | .listening socket port => Job.awaitVisitor socket port
  | .visit socket port peer => Job.serveVisit socket port peer
  | .startup settings => Job.startNode settings
  | .running settings s => do return .running settings (← Job.node settings s.tickAndPause)
  | .failing fault => Job.fail fault
  | .errand e => do return .done (← e.run)
  | .done _ => Job.rest
  | .idle => Job.rest

/-- The tasks that serve sockets and lookups. -/
def socketTasks : List Stage := .lookups :: .listener :: clientSlots.map .client

/-- All tasks of the board. -/
def boardTasks (settings : BuildSettings) : List Stage :=
  .network :: socketTasks ++ [.startup settings]

end MeterNode
