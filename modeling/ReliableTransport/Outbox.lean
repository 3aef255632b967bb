import ReliableTransport.Batch
import ReliableTransport.Delivery
import ReliableTransport.Mailbox
import ReliableTransport.Registry
import ReliableTransport.Settings
/-!
This module holds outboxes. An outbox takes messages at any time, and its worker hands them to a
transport, one send at a time and in the order in which they came. A batched outbox collects the
messages of a pass into frames. Failed sends are told to handlers, and the worker goes on.
-/

namespace ReliableTransport

namespace Outbox

/-- The send that the worker waits for, and what it does after it. -/
inductive Flight where
  /-- The message goes alone. -/
  | single (message : Bytes) (rest : List Bytes)
  /-- The batch goes because the next message does not fit beside it. -/
  | crowded (next : Bytes) (rest : List Bytes)
  /-- The batch goes because it has reached the package size. -/
  | full (rest : List Bytes)
  /-- The batch goes because the pass has no further message. -/
  | last
  deriving Repr, DecidableEq

/-- What an outbox asks of the outside. -/
inductive Order (Handler : Type) where
  | send (delivery : Delivery)
  /-- Tells a handler of a failed send and of the messages that were not sent. -/
  | report (handler : Handler) (failure : Failure) (payload : List Bytes)

end Outbox

open Outbox Mailbox in
structure Outbox (Handler : Type) where
  mailbox : Mailbox Bytes
  /-- The outbox still has its transport. Without it, sends do nothing. -/
  attached : Bool := true
  packageSize : Nat
  /-- The messages that wait to be sent together. An outbox that sends each alone has none. -/
  batch : Option Batch
  handlers : Registry Handler := {}
  /-- The messages that were sent, and the sends that it took. -/
  messageCount : UInt64 := 0
  packageCount : UInt64 := 0
  flight : Option Flight := none

namespace Outbox

open Mailbox (Role)

variable {Handler : Type}

/-- A new outbox. A batched one fills frames up to a size. -/
def create (settings : OutboxSettings) (maxFrame : Nat) :
    Except SettingsFault (Except Defect (Outbox Handler)) := do
  settings.check
  pure do
    let mailbox ← Mailbox.create settings.messagesPerPass Bytes.slotSize
    pure
      { mailbox
        packageSize := settings.packageSize
        batch := if settings.batched then some (Batch.withMaxSize maxFrame) else none }

/-- Counts a send that succeeded. -/
def countSent (outbox : Outbox Handler) (messages : Nat) : Outbox Handler :=
  { outbox with
    messageCount := outbox.messageCount + UInt64.ofNat messages
    packageCount := outbox.packageCount + 1 }

/-- Tells every handler that is registered now. -/
def reports {Result : Type} (outbox : Outbox Handler) (failure : Failure)
    (payload : List Bytes) : List (Effect Role (Order Handler) Result) :=
  outbox.handlers.handlers.map fun handler => .order .worker (.report handler failure payload)

/-- How far the worker came in a pass. -/
structure Progress (Handler Result : Type) where
  outbox : Outbox Handler
  effects : List (Effect Role (Order Handler) Result)
  /-- The pass is over. Otherwise the worker waits or broke down. -/
  complete : Bool

variable {Result : Type}

/-- Puts effects in front of those of a progress. -/
def Progress.after (progress : Progress Handler Result)
    (effects : List (Effect Role (Order Handler) Result)) : Progress Handler Result :=
  { progress with effects := effects ++ progress.effects }

/-- Sends messages alone. -/
def sendEach (outbox : Outbox Handler) : List Bytes → Progress Handler Result
  | [] => { outbox, effects := [], complete := true }
  | message :: rest =>
    if outbox.attached then
      { outbox := { outbox with flight := some (.single message rest) }
        effects := [.order .worker (.send (.whole message))]
        complete := false }
    else outbox.sendEach rest

/-- Sends the batch. A batch that has no frame breaks the worker down. -/
def flush (outbox : Outbox Handler) (batch : Batch) (flight : Flight) :
    Progress Handler Result :=
  match batch.toParts with
  | .ok parts =>
    { outbox := { outbox with batch := some batch, flight := some flight }
      effects := [.order .worker (.send (.parts parts))]
      complete := false }
  | .error _ =>
    let mailbox := outbox.mailbox.breakDown
    { outbox := { outbox with mailbox, batch := some batch, flight := none }
      effects := mailbox.wakeJoiner
      complete := false }

/-- A message that would fit into an empty batch has no room beside the ones in this batch. -/
def isCrowded (batch : Batch) (message : Bytes) : Bool :=
  message.length ≤ batch.maxMessageLength && !batch.fits message

/-- Collects messages into frames. An outbox without its transport drops a batch where it would
send it. -/
def sendBatched (outbox : Outbox Handler) (batch : Batch) : List Bytes → Progress Handler Result
  | [] =>
    if batch.isEmpty then
      { outbox := { outbox with batch := some batch }, effects := [], complete := true }
    else if outbox.attached then outbox.flush batch .last
    else { outbox := { outbox with batch := some batch.clear }, effects := [], complete := true }
  | message :: rest =>
    let crowded := isCrowded batch message
    if crowded && outbox.attached then outbox.flush batch (.crowded message rest)
    else
      let batch := if crowded then batch.clear else batch
      match batch.add? message with
      | none =>
        (outbox.sendBatched batch rest).after
          (outbox.reports (.invalidOperation .oversizeMessage) [message])
      | some grown =>
        if grown.size < outbox.packageSize then outbox.sendBatched grown rest
        else if outbox.attached then outbox.flush grown (.full rest)
        else outbox.sendBatched grown.clear rest

/-- Works on the messages of a pass. -/
def workOn (outbox : Outbox Handler) (messages : List Bytes) : Progress Handler Result :=
  match outbox.batch with
  | none => outbox.sendEach messages
  | some batch => outbox.sendBatched batch messages

/-- Begins passes until the worker has to wait. Every pass takes a message at least, so the queued
messages bound the passes. -/
def beginPasses : Nat → Outbox Handler → Turn (Outbox Handler) Role (Order Handler) Result
  | 0, outbox => (outbox, [])
  | passes + 1, outbox =>
    match outbox.mailbox.takePass with
    | (mailbox, none) => ({ outbox with mailbox }, mailbox.wakeJoiner)
    | (mailbox, some messages) =>
      let progress := { outbox with mailbox }.workOn messages
      if progress.complete then
        let outbox := progress.outbox
        let (outbox, effects) :=
          beginPasses passes { outbox with mailbox := outbox.mailbox.endPass }
        (outbox, progress.effects ++ effects)
      else (progress.outbox, progress.effects)

def work (outbox : Outbox Handler) : Turn (Outbox Handler) Role (Order Handler) Result :=
  beginPasses (outbox.mailbox.queue.length + 1) outbox

/-- Goes on after a part of a pass. -/
def Progress.turn (progress : Progress Handler Result) :
    Turn (Outbox Handler) Role (Order Handler) Result :=
  if progress.complete then
    let outbox := progress.outbox
    let (outbox, effects) := { outbox with mailbox := outbox.mailbox.endPass }.work
    (outbox, progress.effects ++ effects)
  else (progress.outbox, progress.effects)

/-- The messages of the send that the worker waits for. -/
def payload (outbox : Outbox Handler) : Flight → List Bytes
  | .single message _ => [message]
  | _ => (outbox.batch.map Batch.messages).getD []

/-- The messages that the pass still has to work on after a send. -/
def Flight.rest : Flight → List Bytes
  | single _ rest => rest
  | crowded next rest => next :: rest
  | full rest => rest
  | last => []

/-- The worker's send has ended. -/
def landed (outbox : Outbox Handler) (answer : Except Failure Nat) :
    Turn (Outbox Handler) Role (Order Handler) Result :=
  match outbox.flight with
  | none => (outbox, [])
  | some flight =>
    let payload := outbox.payload flight
    let (counted, told) :=
      match answer with
      | .ok _ => (outbox.countSent payload.length, [])
      | .error failure => (outbox, outbox.reports failure payload)
    (({ counted with batch := counted.batch.map Batch.clear, flight := none }.workOn
      flight.rest).after told).turn

/-- The calls on an outbox. -/
inductive Call (Handler : Type) where
  | send (messages : List Bytes)
  | sendRange (data : Bytes) (offset length : UInt64)
  /-- Sends as a transport: the answer is the length of the message. -/
  | deliver (delivery : Delivery)
  | subscribe (handler : Handler)
  | unsubscribe (id : Nat)
  | reset
  | close
  | dispose

/-- What a call on an outbox answers. -/
inductive Reply where
  | done
  | checked (result : Except Failure Unit)
  | length (length : Nat)
  | subscribed (id : Nat)
  | unsubscribed (found : Bool)

/-- Queues messages. A closed outbox drops them. -/
def queue (outbox : Outbox Handler) (messages : List Bytes) : Outbox Handler :=
  { outbox with mailbox := (outbox.mailbox.pushAll messages).1 }

/-- The parts of one message are queued as one message. -/
def message : Delivery → Bytes
  | .whole data => data
  | .parts [single] => single
  | .parts pieces => pieces.flatten

/-- Takes the transport away. -/
def detach (outbox : Outbox Handler) : Outbox Handler := { outbox with attached := false }

def start (task : Role) (call : Call Handler) (outbox : Outbox Handler) :
    Turn (Outbox Handler) Role (Order Handler) Reply :=
  match call with
  | .send messages =>
    let outbox := outbox.queue messages
    (outbox, outbox.mailbox.wakeWorker ++ [.done task .done])
  | .sendRange data offset length =>
    match Word.range? data offset length with
    | none => (outbox, [.done task (.checked (.error (.invalidOperation .rangeOutsideBuffer)))])
    | some message =>
      let outbox := outbox.queue [message]
      (outbox, outbox.mailbox.wakeWorker ++ [.done task (.checked (.ok ()))])
  | .deliver delivery =>
    let message := message delivery
    let outbox := outbox.queue [message]
    (outbox, outbox.mailbox.wakeWorker ++ [.done task (.length message.length)])
  | .subscribe handler =>
    let (handlers, id) := outbox.handlers.subscribe handler
    ({ outbox with handlers }, [.done task (.subscribed id)])
  | .unsubscribe id =>
    let (handlers, found) := outbox.handlers.unsubscribe id
    ({ outbox with handlers }, [.done task (.unsubscribed found)])
  | .reset => ({ outbox with messageCount := 0, packageCount := 0 }, [.done task .done])
  | .close =>
    let (mailbox, waits) := outbox.mailbox.join task
    let outbox := { outbox with mailbox }
    if waits then (outbox, mailbox.wakeWorker)
    else (outbox.detach, mailbox.wakeWorker ++ [.done task .done])
  | .dispose =>
    let mailbox := outbox.mailbox.close
    ({ outbox with mailbox }.detach, mailbox.wakeWorker ++ [.done task .done])

/-- The outbox as a component over a transport. -/
def component :
    Component (Outbox Handler) Role (Call Handler) (Order Handler) (Except Failure Nat) Reply where
  start _ task call outbox := outbox.start task call
  resume _ task outbox :=
    match task with
    | .worker => if outbox.flight.isSome then (outbox, []) else outbox.work
    | caller =>
      if outbox.mailbox.isOver && outbox.mailbox.joiner == some caller then
        ({ outbox with mailbox := outbox.mailbox.unjoin caller }.detach, [.done caller .done])
      else (outbox, [])
  answer _ _ answer outbox := outbox.landed answer
  abandon task outbox := ({ outbox with mailbox := outbox.mailbox.unjoin task }, [])

end Outbox

end ReliableTransport
