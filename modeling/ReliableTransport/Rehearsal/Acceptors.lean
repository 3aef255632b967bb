import ReliableTransport.Acceptor
import ReliableTransport.Rehearsal.Session
import ReliableTransport.Script
/-!
This module runs an acceptor over scripted listening sockets through a list of steps. Each bind
takes the next outcome of a script, and its socket has a script of its own for the connections that
it accepts. Some connections make whoever takes them stop the acceptor.
-/

namespace ReliableTransport.Rehearsal.Acceptors

open Acceptor (Phase Role)

/-- A connection, or a failure to accept one, and how long it takes. -/
structure AcceptScript where
  result : Except Failure Address
  delay : Nat

/-- How a bind ends, and what its socket accepts. -/
structure BindScript where
  outcome : Outcome
  accepts : List AcceptScript
  /-- The address of the socket, where it can be told. -/
  localAddress : Option Address

/-- What the sockets and the taker of connections saw. -/
inductive Event where
  | binding (socket : Nat)
  | accepted (remote : Address) (instant : Nat)
  | closing (socket : Nat)

/-- A provider of scripted listening sockets. -/
structure Listeners where
  binds : List BindScript
  /-- The connections that make their taker stop the acceptor. -/
  stopOn : List Address
  /-- What is left of the sockets' scripts. -/
  accepts : List (Nat × List AcceptScript) := []
  addresses : List (Nat × Address) := []
  events : List Event := []

namespace Listeners

def note (listeners : Listeners) (event : Event) : Listeners :=
  { listeners with events := listeners.events ++ [event] }

/-- A bind takes the next script. Without one there is no socket. -/
def bind (listeners : Listeners) (socket : Nat) : Listeners × Outcome :=
  let noted := listeners.note (.binding socket)
  match listeners.binds with
  | [] => (noted, { verdict := .fails (.plain "no more sockets") })
  | script :: binds =>
    ({ noted with
        binds
        accepts := (socket, script.accepts) :: listeners.accepts
        addresses := script.localAddress.toList.map (socket, ·) ++ listeners.addresses },
      script.outcome)

/-- A socket whose script is used up accepts nothing more. -/
def accept (listeners : Listeners) (socket : Nat) : Listeners × Option AcceptScript :=
  match listeners.accepts.lookup socket with
  | none | some [] => (listeners, none)
  | some (script :: rest) =>
    ({ listeners with
        accepts := listeners.accepts.map fun entry =>
          if entry.1 = socket then (socket, rest) else entry }, some script)

def outside : Outside Listeners Acceptor.Order Acceptor.Answer where
  perform now order listeners :=
    match order with
    | .bind socket =>
      let (listeners, outcome) := listeners.bind socket
      (listeners, some (outcome.delay, .bound outcome.verdict.unit))
    | .accept socket =>
      let (listeners, script) := listeners.accept socket
      (listeners, script.map fun script => (script.delay, .accepted script.result))
    | .handOver remote =>
      (listeners.note (.accepted remote now), some (0, .handedOver (remote ∈ listeners.stopOn)))
    | .close socket => (listeners.note (.closing socket), none)

end Listeners

structure Step where
  directive : Directive Acceptor.Call
  /-- The other tasks run after the step. -/
  settles : Bool

structure Report where
  reply : Reply Acceptor.Result
  phase : Phase
  localAddress : Option Address
  accepting : Bool
  now : Nat
  events : List Event
  ended : List (Ended Acceptor.Result)

abbrev Stage :=
  Session (Acceptor Role) Role Acceptor.Call Acceptor.Order Acceptor.Answer Acceptor.Result
    Listeners

def perform (stage : Stage) (step : Step) : Stage × Report :=
  let (stage, reply) := stage.perform step.directive
  let stage := if step.settles then stage.settle else stage
  let (stage, ended) := stage.collect
  let world := stage.world
  let acceptor := world.state
  ({ stage with world := { world with script := { world.script with events := [] } } },
    { reply
      phase := acceptor.phase
      localAddress := acceptor.active.bind (world.script.addresses.lookup ·)
      accepting := acceptor.isAccepting
      now := world.agenda.now
      events := world.script.events
      ended })

def runFrom (stage : Stage) : List Step → List Report
  | [] => []
  | step :: rest =>
    let (stage, report) := perform stage step
    report :: runFrom stage rest

/-- Runs the steps on a new acceptor. A call takes a few turns, and so does a connection, so the
steps and the scripted connections bound the turns. -/
def run (bindAddress : Address) (limits : ReceiveLimits) (listeners : Listeners)
    (steps : List Step) : Except SettingsFault (List Report) := do
  let state ← Acceptor.create bindAddress limits
  let connections := listeners.binds.foldl (fun count script => count + script.accepts.length) 0
  let stage : Stage :=
    { world :=
        { component := Acceptor.component
          outside := Listeners.outside
          patience := 32 + 16 * steps.length + 8 * connections
          state
          script := listeners }
      task := .caller }
  pure (runFrom stage steps)

end ReliableTransport.Rehearsal.Acceptors
