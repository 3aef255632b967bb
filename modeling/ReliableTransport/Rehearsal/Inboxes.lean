import ReliableTransport.Inbox
import ReliableTransport.Schedule.World
/-!
This module runs an inbox over a source of packages through a list of steps. A handler may end its
own subscription when it is called.
-/

namespace ReliableTransport.Rehearsal.Inboxes

open Mailbox (Role)

structure Handler where
  name : String
  /-- The number of the handler's own subscription, if the handler ends it when it is called. -/
  ends : Option Nat

def react (handler : Handler) (_ : Package) : List (Inbox.Change Handler) :=
  handler.ends.toList.map .unsubscribe

/-- The packages that reached a handler. While they are collected, the latest comes first. -/
abbrev Delivered := List (Inbox.Order Handler)

def outside : Outside Delivered (Inbox.Order Handler) Empty where
  perform _ order delivered := (order :: delivered, none)

inductive Step where
  | fire (packages : List Package)
  | subscribe (name : String) (once : Bool)
  /-- Ends the subscription with a place in the order of subscriptions. -/
  | unsubscribe (subscription : Nat)
  | reset
  | close
  | dispose
  /-- Lets go of the inbox, which disposes of it. The source stays. -/
  | drop
  | settle

/-- What an inbox shows of itself. -/
structure Figures where
  messages : UInt64
  packages : UInt64
  bytes : UInt64

structure Report where
  answer : Option Bool
  figures : Option Figures
  /-- How many listeners the source has. -/
  listeners : Nat
  /-- The packages that reached a handler, in order. -/
  delivered : Delivered

structure Stage where
  world :
    World (Inbox Handler Empty) Role (Inbox.Call Handler) (Inbox.Order Handler) Empty Inbox.Reply
      Delivered
  present : Bool := true
  next : Nat := 0
  /-- The numbers of the subscriptions in their order. -/
  subscriptions : List Nat := []

namespace Stage

def call (stage : Stage) (call : Inbox.Call Handler) : Stage × Option Bool :=
  let (world, reply) := stage.world.call (.caller stage.next) call
  let stage := { stage with world, next := stage.next + 1 }
  match reply with
  | some (.subscribed id) => ({ stage with subscriptions := stage.subscriptions ++ [id] }, none)
  | some (.unsubscribed found) => (stage, some found)
  | _ => (stage, none)

/-- Makes a call on the inbox itself, which is possible as long as nobody let go of it. -/
def callInbox (stage : Stage) (call : Inbox.Call Handler) : Stage × Option Bool :=
  if stage.present then stage.call call else (stage, none)

def perform (stage : Stage) : Step → Stage × Option Bool
  | .fire packages => stage.call (.fire packages)
  | .subscribe name once =>
    let id := stage.world.state.handlers.nextId
    stage.callInbox (.subscribe { name, ends := if once then some id else none })
  | .unsubscribe subscription =>
    match stage.subscriptions[subscription]? with
    | some id => stage.callInbox (.unsubscribe id)
    | none => (stage, none)
  | .reset => stage.callInbox .reset
  | .close => stage.callInbox .close
  | .dispose => stage.callInbox .dispose
  | .drop => ({ (stage.callInbox .dispose).1 with present := false }, none)
  | .settle => ({ stage with world := stage.world.settle }, none)

def report (stage : Stage) (answer : Option Bool) : Stage × Report :=
  let inbox := stage.world.state
  ({ stage with world := { stage.world with script := [] } },
    { answer
      figures :=
        if stage.present then
          some
            { messages := inbox.messageCount
              packages := inbox.packageCount
              bytes := inbox.source.bytesReceived }
        else none
      listeners := inbox.source.listeners.size
      delivered := stage.world.script.reverse })

def run (stage : Stage) : List Step → List Report
  | [] => []
  | step :: rest =>
    let (stage, answer) := stage.perform step
    let (stage, report) := stage.report answer
    report :: stage.run rest

end Stage

/-- Runs the steps on a new inbox. The worker makes all its passes in one turn, so the steps bound
the turns. -/
def run (settings : InboxSettings) (steps : List Step) :
    Except SettingsFault (Except Defect (List Report)) := do
  let created ← Inbox.create settings {}
  pure do
    let state ← created
    let stage : Stage :=
      { world :=
          { component := Inbox.component react
            outside, state
            script := []
            patience := 16 + 4 * steps.length
            agenda := { ready := [some .worker] } } }
    pure (stage.run steps)

end ReliableTransport.Rehearsal.Inboxes
