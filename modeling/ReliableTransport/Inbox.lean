import ReliableTransport.Batch
import ReliableTransport.Mailbox
import ReliableTransport.Package
import ReliableTransport.Registry
import ReliableTransport.Settings
/-!
This module holds inboxes. An inbox subscribes to a source of packages and queues what the source
tells it. Its worker delivers them to the inbox's own handlers, in the order in which they came. A
batched inbox takes every package for a frame and delivers its messages one by one. It drops a
package that is no frame as a whole.
-/

namespace ReliableTransport

namespace Inbox

/-- Who hears of a source's packages. -/
inductive Listener (Other : Type) where
  | inbox
  | other (other : Other)
  deriving Repr, DecidableEq

/-- A change of the inbox's handlers that a handler makes while it is called. -/
inductive Change (Handler : Type) where
  | subscribe (handler : Handler)
  | unsubscribe (id : Nat)

/-- A package on its way to a handler. -/
structure Order (Handler : Type) where
  handler : Handler
  package : Package

end Inbox

/-- A source of packages and those who listen to it. -/
structure Source (Other : Type) where
  listeners : Registry (Inbox.Listener Other) := {}
  bytesReceived : UInt64 := 0

open Inbox in
structure Inbox (Handler Other : Type) where
  source : Source Other
  /-- The number of the inbox's own subscription at the source. -/
  subscription : Option Nat
  mailbox : Mailbox Package
  batched : Bool
  handlers : Registry Handler := {}
  /-- The delivered messages and the packages that they came in. -/
  messageCount : UInt64 := 0
  packageCount : UInt64 := 0

namespace Inbox

open Mailbox (Role)

variable {Handler Other : Type}

/-- A new inbox. It listens to the source behind all others that do. -/
def create (settings : InboxSettings) (source : Source Other) :
    Except SettingsFault (Except Defect (Inbox Handler Other)) := do
  settings.check
  pure do
    let mailbox ← Mailbox.create settings.packagesPerPass Package.slotSize
    let (listeners, id) := source.listeners.subscribe .inbox
    pure
      { source := { source with listeners }
        subscription := some id
        mailbox
        batched := settings.batched }

/-- Makes a handler's changes. -/
def change (inbox : Inbox Handler Other) (changes : List (Change Handler)) :
    Inbox Handler Other :=
  { inbox with
    handlers := changes.foldl (fun handlers change =>
      match change with
      | .subscribe handler => (handlers.subscribe handler).1
      | .unsubscribe id => (handlers.unsubscribe id).1) inbox.handlers }

variable {Result : Type}

/-- Calls handlers one after the other. What they change counts from the next delivery on. -/
def callEach (react : Handler → Package → List (Change Handler)) (package : Package) :
    List Handler → Inbox Handler Other →
      Inbox Handler Other × List (Effect Role (Order Handler) Result)
  | [], inbox => (inbox, [])
  | handler :: rest, inbox =>
    let (inbox, effects) := callEach react package rest (inbox.change (react handler package))
    (inbox, .order .worker { handler, package } :: effects)

/-- Delivers one message to the handlers that are registered now. -/
def deliver (react : Handler → Package → List (Change Handler)) (inbox : Inbox Handler Other)
    (package : Package) : Inbox Handler Other × List (Effect Role (Order Handler) Result) :=
  callEach react package inbox.handlers.handlers
    { inbox with messageCount := inbox.messageCount + 1 }

/-- Delivers messages one after the other. -/
def deliverEach (react : Handler → Package → List (Change Handler)) :
    List Package → Inbox Handler Other →
      Inbox Handler Other × List (Effect Role (Order Handler) Result)
  | [], inbox => (inbox, [])
  | package :: rest, inbox =>
    let (inbox, effects) := inbox.deliver react package
    let (inbox, others) := deliverEach react rest inbox
    (inbox, effects ++ others)

/-- The messages in a package. A package that is no frame has none. -/
def unpack (batched : Bool) (package : Package) : Option (List Package) :=
  if batched then
    match Batch.ofBytes package.data with
    | .ok batch => some (batch.messages.map fun data => { package with data })
    | .error _ => none
  else some [package]

/-- Works on the packages of a pass. -/
def workOn (react : Handler → Package → List (Change Handler)) :
    List Package → Inbox Handler Other →
      Inbox Handler Other × List (Effect Role (Order Handler) Result)
  | [], inbox => (inbox, [])
  | package :: rest, inbox =>
    match unpack inbox.batched package with
    | none => workOn react rest inbox
    | some messages =>
      let (inbox, effects) :=
        deliverEach react messages { inbox with packageCount := inbox.packageCount + 1 }
      let (inbox, others) := workOn react rest inbox
      (inbox, effects ++ others)

/-- Makes passes until no package is queued. Every pass takes a package at least, so the queued
packages bound the passes. -/
def makePasses (react : Handler → Package → List (Change Handler)) :
    Nat → Inbox Handler Other → Turn (Inbox Handler Other) Role (Order Handler) Result
  | 0, inbox => (inbox, [])
  | passes + 1, inbox =>
    match inbox.mailbox.takePass with
    | (mailbox, none) => ({ inbox with mailbox }, mailbox.wakeJoiner)
    | (mailbox, some packages) =>
      let (inbox, effects) := workOn react packages { inbox with mailbox }
      let (inbox, others) :=
        makePasses react passes { inbox with mailbox := inbox.mailbox.endPass }
      (inbox, effects ++ others)

def work (react : Handler → Package → List (Change Handler)) (inbox : Inbox Handler Other) :
    Turn (Inbox Handler Other) Role (Order Handler) Result :=
  makePasses react (inbox.mailbox.queue.length + 1) inbox

/-- Tells a package to everyone who listens to the source now. -/
def fire (inbox : Inbox Handler Other) (package : Package) : Inbox Handler Other :=
  let source := inbox.source
  let told := source.listeners.handlers.filterMap fun listener =>
    match listener with
    | .inbox => some package
    | .other _ => none
  { inbox with
    source :=
      { source with
        bytesReceived := source.bytesReceived + UInt64.ofNat package.data.length }
    mailbox := (inbox.mailbox.pushAll told).1 }

/-- Ends the inbox's own subscription at the source. -/
def unsubscribeFromSource (inbox : Inbox Handler Other) : Inbox Handler Other :=
  match inbox.subscription with
  | none => inbox
  | some id =>
    { inbox with
      source := { inbox.source with listeners := (inbox.source.listeners.unsubscribe id).1 }
      subscription := none }

/-- The calls on an inbox and on its source. -/
inductive Call (Handler : Type) where
  | fire (packages : List Package)
  | subscribe (handler : Handler)
  | unsubscribe (id : Nat)
  | reset
  | close
  | dispose

/-- What a call on an inbox answers. -/
inductive Reply where
  | done
  | subscribed (id : Nat)
  | unsubscribed (found : Bool)
  deriving Repr, DecidableEq

def start (task : Role) (call : Call Handler) (inbox : Inbox Handler Other) :
    Turn (Inbox Handler Other) Role (Order Handler) Reply :=
  match call with
  | .fire packages =>
    let inbox := packages.foldl fire inbox
    (inbox, inbox.mailbox.wakeWorker ++ [.done task .done])
  | .subscribe handler =>
    let (handlers, id) := inbox.handlers.subscribe handler
    ({ inbox with handlers }, [.done task (.subscribed id)])
  | .unsubscribe id =>
    let (handlers, found) := inbox.handlers.unsubscribe id
    ({ inbox with handlers }, [.done task (.unsubscribed found)])
  | .reset => ({ inbox with messageCount := 0, packageCount := 0 }, [.done task .done])
  | .close =>
    let inbox := inbox.unsubscribeFromSource
    let (mailbox, waits) := inbox.mailbox.join task
    ({ inbox with mailbox }, mailbox.wakeWorker ++ if waits then [] else [.done task .done])
  | .dispose =>
    let inbox := inbox.unsubscribeFromSource
    let mailbox := inbox.mailbox.close
    ({ inbox with mailbox }, mailbox.wakeWorker ++ [.done task .done])

/-- The inbox as a component. Its handlers react to what they are given. -/
def component (react : Handler → Package → List (Change Handler)) :
    Component (Inbox Handler Other) Role (Call Handler) (Order Handler) Empty Reply where
  start _ task call inbox := inbox.start task call
  resume _ task inbox :=
    match task with
    | .worker => inbox.work react
    | caller =>
      if inbox.mailbox.isOver && inbox.mailbox.joiner == some caller then
        ({ inbox with mailbox := inbox.mailbox.unjoin caller }, [.done caller .done])
      else (inbox, [])
  answer _ _ nothing _ := nothing.elim
  abandon task inbox := ({ inbox with mailbox := inbox.mailbox.unjoin task }, [])

end Inbox

end ReliableTransport
