import ReliableTransport.Rehearsal.Session
import ReliableTransport.Rehearsal.Sockets
/-!
This module runs a sender of datagrams over scripted sockets through a list of steps.
-/

namespace ReliableTransport.Rehearsal.DatagramSenders

inductive Action where
  | directive (directive : Directive DatagramSender.Call)
  /-- Asks the sender for its address and limits. -/
  | describe

structure Step where
  action : Action
  /-- The other tasks run after the step. -/
  settles : Bool

inductive Answer where
  | reply (reply : Reply DatagramSender.Result)
  | description (address : Address) (limits : SendLimits)

structure Report where
  answer : Answer
  connected : Bool
  bytes : UInt64
  now : Nat
  events : List SocketEvent
  ended : List (Ended DatagramSender.Result)

abbrev Stage :=
  Session (DatagramSender Nat) Nat DatagramSender.Call DatagramSender.Order DatagramSender.Answer
    DatagramSender.Result Sockets

def perform (stage : Stage) (step : Step) : Stage × Report :=
  let (stage, answer) :=
    match step.action with
    | .directive directive =>
      let (stage, reply) := stage.perform directive
      (stage, Answer.reply reply)
    | .describe =>
      let sender := stage.world.state
      (stage, .description sender.sendAddress sender.limits)
  let stage := if step.settles then stage.settle else stage
  let (stage, ended) := stage.collect
  let world := stage.world
  ({ stage with world := { world with script := { world.script with events := [] } } },
    { answer
      connected := world.state.connected
      bytes := world.state.bytesSent
      now := world.agenda.now
      events := world.script.events
      ended })

def runFrom (stage : Stage) : List Step → List Report
  | [] => []
  | step :: rest =>
    let (stage, report) := perform stage step
    report :: runFrom stage rest

/-- Runs the steps on a new sender. A call begins, waits for the socket, and has two orders
answered at most, so the steps bound the turns. -/
def run (sockets : Sockets) (steps : List Step) : Except SettingsFault (List Report) := do
  let state ← DatagramSender.create sockets.bindAddress sockets.sendAddress sockets.limits
  let stage : Stage :=
    { world :=
        { component := DatagramSender.component
          outside := Sockets.outside
          patience := 16 + 8 * steps.length
          state
          script := sockets }
      task := id }
  pure (runFrom stage steps)

end ReliableTransport.Rehearsal.DatagramSenders
