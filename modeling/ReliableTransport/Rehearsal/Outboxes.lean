import ReliableTransport.Outbox
import ReliableTransport.Schedule.World
import ReliableTransport.Script
/-!
This module runs an outbox over a scripted transport through a list of steps. Every send is noted
when it begins, and so is every word to a handler of failed sends.
-/

namespace ReliableTransport.Rehearsal.Outboxes

open Mailbox (Role)

/-- What the transport and the handlers saw, with the instant at which they did. -/
inductive Event where
  | sent (instant : Nat) (delivery : Delivery)
  | told (instant : Nat) (handler : String) (failure : Failure) (payload : List Bytes)

/-- A transport that follows a script. -/
structure Transport where
  /-- The transport sends parts as they are. -/
  gathers : Bool
  /-- How long a send takes beside the delay of its outcome. -/
  delay : Nat
  results : Script
  connected : Bool := true
  bytes : UInt64 := 0
  events : List Event := []

def outside : Outside Transport (Outbox.Order String) (Except Failure Nat) where
  perform now order transport :=
    match order with
    | .send delivery =>
      let given := delivery.toTransport transport.gathers
      let (outcome, results) := transport.results.next {}
      ({ transport with results, events := transport.events ++ [.sent now given] },
        some (transport.delay + outcome.delay, outcome.verdict.length given.length))
    | .report handler failure payload =>
      ({ transport with events := transport.events ++ [.told now handler failure payload] }, none)
  arrive answer transport :=
    match answer with
    | .ok length => { transport with bytes := transport.bytes + UInt64.ofNat length }
    | .error _ => transport

inductive Step where
  | call (call : Outbox.Call String)
  /-- Ends the subscription with a place in the order of subscriptions. -/
  | unsubscribe (subscription : Nat)
  /-- Lets go of the outbox, which disposes of it. -/
  | drop
  /-- Adds outcomes to the transport's script. -/
  | script (results : Script)
  | setConnected (value : Bool)
  | settle
  | sleep (millis : Nat)

inductive Answer where
  | nothing
  | checked (result : Except Failure Unit)
  | length (length : Nat)
  | flag (value : Bool)

/-- What an outbox shows of itself. -/
structure Figures where
  messages : UInt64
  packages : UInt64
  connected : Bool
  bytes : UInt64

structure Report where
  answer : Answer
  figures : Option Figures
  now : Nat
  events : List Event

structure Stage where
  world :
    World (Outbox String) Role (Outbox.Call String) (Outbox.Order String) (Except Failure Nat)
      Outbox.Reply Transport
  present : Bool := true
  next : Nat := 0
  /-- The numbers of the subscriptions in their order. -/
  subscriptions : List Nat := []

namespace Stage

def call (stage : Stage) (call : Outbox.Call String) : Stage × Answer :=
  let (world, reply) := stage.world.call (.caller stage.next) call
  let stage := { stage with world, next := stage.next + 1 }
  match reply with
  | some (.checked result) => (stage, .checked result)
  | some (.length length) => (stage, .length length)
  | some (.subscribed id) => ({ stage with subscriptions := stage.subscriptions ++ [id] }, .nothing)
  | some (.unsubscribed found) => (stage, .flag found)
  | _ => (stage, .nothing)

/-- Changes the transport between two steps. -/
def withTransport (stage : Stage) (change : Transport → Transport) : Stage :=
  { stage with world := { stage.world with script := change stage.world.script } }

def perform (stage : Stage) : Step → Stage × Answer
  | .call call => if stage.present then stage.call call else (stage, .nothing)
  | .unsubscribe subscription =>
    match stage.subscriptions[subscription]? with
    | some id => if stage.present then stage.call (.unsubscribe id) else (stage, .nothing)
    | none => (stage, .nothing)
  | .drop =>
    if stage.present then ({ (stage.call .dispose).1 with present := false }, .nothing)
    else (stage, .nothing)
  | .script results =>
    (stage.withTransport fun transport =>
      { transport with results := transport.results ++ results }, .nothing)
  | .setConnected value =>
    (stage.withTransport fun transport => { transport with connected := value }, .nothing)
  | .settle => ({ stage with world := stage.world.settle }, .nothing)
  | .sleep millis => ({ stage with world := (stage.world.sleep millis).settle }, .nothing)

/-- An outbox without its transport is not connected and has sent nothing through it. -/
def figures (stage : Stage) : Figures :=
  let outbox := stage.world.state
  { messages := outbox.messageCount
    packages := outbox.packageCount
    connected := outbox.attached && stage.world.script.connected
    bytes := if outbox.attached then stage.world.script.bytes else 0 }

def report (stage : Stage) (answer : Answer) : Stage × Report :=
  (stage.withTransport fun transport => { transport with events := [] },
    { answer
      figures := if stage.present then some stage.figures else none
      now := stage.world.agenda.now
      events := stage.world.script.events })

def run (stage : Stage) : List Step → List Report
  | [] => []
  | step :: rest =>
    let (stage, answer) := stage.perform step
    let (stage, report) := stage.report answer
    report :: stage.run rest

end Stage

/-- The number of messages that a step queues. -/
def Step.weight : Step → Nat
  | .call (.send messages) => messages.length
  | .call (.sendRange _ _ _) | .call (.deliver _) => 1
  | _ => 0

/-- Runs the steps on a new outbox. Every message is sent once at most, so the messages and the
steps bound the turns. -/
def run (settings : OutboxSettings) (maxFrame : Nat) (transport : Transport)
    (steps : List Step) : Except SettingsFault (Except Defect (List Report)) := do
  let created ← Outbox.create settings maxFrame
  pure do
    let state ← created
    let stage : Stage :=
      { world :=
          { component := Outbox.component
            outside, state
            script := transport
            patience := 16 + 4 * steps.foldl (fun turns step => turns + 1 + step.weight) 0
            agenda := { ready := [some .worker] } } }
    pure (stage.run steps)

end ReliableTransport.Rehearsal.Outboxes
