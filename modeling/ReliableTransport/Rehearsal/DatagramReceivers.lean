import ReliableTransport.DatagramReceiver
import ReliableTransport.Schedule.World
/-!
This module runs a receiver of datagrams through a list of steps, which are calls on it or make its
connections arrive, bring something and end. Connections have names.
-/

namespace ReliableTransport.Rehearsal.DatagramReceivers

open DatagramReceiver (Call Command EndReason Occasion Role)

structure Handler where
  name : String
  /-- The remotes that the handler does not let connect. -/
  vetoes : List Address := []
  /-- A datagram whose remote the handler disconnects. -/
  disconnectsOn : Option Bytes := none

def conduct : DatagramReceiver.Conduct Handler where
  asked handler remote := (!handler.vetoes.contains remote, [])
  received handler package :=
    if handler.disconnectsOn = some package.data then [.disconnect package.remote] else []
  ended _ _ _ := []

abbrev Order := DatagramReceiver.Order Handler

/-- The network below the receiver, and what the receiver did. -/
structure Network where
  /-- The next bind finds its address in use. -/
  failsNext : Bool := false
  events : List Order := []

def outside : Outside Network Order (Except Failure Unit) where
  perform _ order network :=
    match order with
    | .bind _ =>
      ({ network with failsNext := false },
        some (0, if network.failsNext then .error (.io .addrInUse) else .ok ()))
    | order => ({ network with events := network.events ++ [order] }, none)

/-- What a step does. -/
inductive Action where
  | call (call : Call Handler)
  | failNextBind
  | arrive (name : String) (remote : Address)
  | bring (name : String) (receptions : List (Except IoKind Bytes))
  | hangUp (name : String)
  | subscribe (occasion : Occasion) (handler : Handler)
  /-- Ends the subscription whose number belongs to a place in the order of all subscriptions. -/
  | unsubscribe (occasion : Occasion) (subscription : Nat)

/-- A bound on how many of the loops' turns an action leads to. -/
def Action.turns : Action → Nat
  | .bring _ receptions => 16 + receptions.length
  | _ => 16

structure Step where
  action : Action
  /-- The loops run after the step. -/
  settles : Bool

structure Report where
  answer : Option DatagramReceiver.Reply
  phase : Acceptor.Phase
  /-- A socket accepts connections. -/
  bound : Bool
  endpoints : List Address
  bytes : UInt64
  events : List Order
  /-- The names of the connections that nobody holds any more. -/
  released : List String

structure Stage where
  world :
    World (DatagramReceiver Handler) Role (Call Handler) Order (Except Failure Unit)
      DatagramReceiver.Reply Network
  next : Nat := 0
  /-- The names that were given to connections. -/
  names : List (Nat × String) := []
  /-- The connections that can still be reached by their names. -/
  reachable : List (String × Nat) := []
  /-- The numbers of the subscriptions in their order. -/
  subscriptions : List Nat := []

namespace Stage

def call (stage : Stage) (call : Call Handler) : Stage × Option DatagramReceiver.Reply :=
  let (world, reply) := stage.world.call (.caller stage.next) call
  ({ stage with world, next := stage.next + 1 }, reply)

/-- The peer of a connection closes it, and its name is free again. -/
def hangUp (stage : Stage) (name : String) : Stage × Bool :=
  match stage.reachable.lookup name with
  | none => (stage, false)
  | some number =>
    let (stage, _) := stage.call (.hangUp number)
    ({ stage with reachable := stage.reachable.filter fun entry => entry.1 != name }, true)

def perform (stage : Stage) : Action → Stage × Option DatagramReceiver.Reply
  | .call call => stage.call call
  | .failNextBind =>
    let network := stage.world.script
    ({ stage with world := { stage.world with script := { network with failsNext := true } } },
      none)
  | .arrive name remote =>
    let (stage, _) := stage.hangUp name
    let number := stage.world.state.nextConnection
    let (stage, _) := stage.call (.arrive remote)
    ({ stage with
        names := (number, name) :: stage.names
        reachable := (name, number) :: stage.reachable }, none)
  | .bring name receptions =>
    match stage.reachable.lookup name with
    | none => (stage, some (.flag false))
    | some number => stage.call (.bring number receptions)
  | .hangUp name =>
    let (stage, known) := stage.hangUp name
    (stage, some (.flag known))
  | .subscribe occasion handler =>
    let id := (stage.world.state.handlers occasion).nextId
    let (stage, _) := stage.call (.subscribe occasion handler)
    ({ stage with subscriptions := stage.subscriptions ++ [id] }, none)
  | .unsubscribe occasion subscription =>
    match stage.subscriptions[subscription]? with
    | none => (stage, none)
    | some id => stage.call (.unsubscribe occasion id)

def report (stage : Stage) (answer : Option DatagramReceiver.Reply) : Stage × Report :=
  let receiver := stage.world.state
  let events := stage.world.script.events
  let released := events.filterMap fun event =>
    match event with
    | .release connection => stage.names.lookup connection
    | _ => none
  ({ stage with
      world := { stage.world with script := { stage.world.script with events := [] } } },
    { answer
      phase := receiver.acceptor.phase
      bound := receiver.acceptor.active.isSome
      endpoints := (receiver.endpoints.map Prod.fst).mergeSort fun left right =>
        decide (left.text ≤ right.text)
      bytes := receiver.bytesReceived
      events
      released := released.mergeSort fun left right => decide (left ≤ right) })

def run (stage : Stage) : List Step → List Report
  | [] => []
  | step :: rest =>
    let (stage, answer) := stage.perform step.action
    let stage := if step.settles then { stage with world := stage.world.settle } else stage
    let (stage, report) := stage.report answer
    report :: stage.run rest

end Stage

/-- Runs the steps on a new receiver. A loop is woken a few times by each step at most, and once
more for each share of what the step brings. Every loop goes back to a step, so the steps bound the
turns. -/
def run (bindAddress : Address) (limits : ReceiveLimits) (steps : List Step) :
    Except SettingsFault (List Report) := do
  let state ← DatagramReceiver.create bindAddress limits
  let stage : Stage :=
    { world :=
        { component := DatagramReceiver.component conduct
          outside, state
          script := {}
          patience := steps.foldl (fun turns step => turns + step.action.turns) 64 } }
  pure (stage.run steps)

end ReliableTransport.Rehearsal.DatagramReceivers
