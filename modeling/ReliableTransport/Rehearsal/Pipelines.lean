import ReliableTransport.DatagramReceiver
import ReliableTransport.DatagramSender
import ReliableTransport.Inbox
import ReliableTransport.Outbox
import ReliableTransport.Rehearsal.Session
/-!
This module runs the whole way of messages: an outbox over a sender of datagrams, a link in memory,
and a receiver of datagrams below an inbox. The link keeps the order and loses nothing.
-/

namespace ReliableTransport.Rehearsal.Pipelines

/-- The datagrams on the link, the oldest first. -/
abbrev Link := List Bytes

/-- A sender over the link. -/
abbrev Sending :=
  Session (DatagramSender Nat) Nat DatagramSender.Call DatagramSender.Order DatagramSender.Answer
    DatagramSender.Result Link

def linkOutside : Outside Link DatagramSender.Order DatagramSender.Answer where
  perform _ order link :=
    match order with
    | .openSocket _ => (link, some (0, .opened (.ok ())))
    | .closeSocket _ => (link, some (0, .closed))
    | .send _ delivery => (link ++ [delivery.data], some (0, .sent (.ok delivery.length)))

def Sending.send (sending : Sending) (delivery : Delivery) : Sending × Except Failure Nat :=
  let (sending, reply) := sending.perform (.call (.send delivery))
  match reply with
  | .result (.sent result) => (sending, result)
  | _ => (sending, .ok 0)

/-- An outbox whose transport is the sender. -/
abbrev Outgoing :=
  World (Outbox Unit) Mailbox.Role (Outbox.Call Unit) (Outbox.Order Unit) (Except Failure Nat)
    Outbox.Reply Sending

def outgoingOutside : Outside Sending (Outbox.Order Unit) (Except Failure Nat) where
  perform _ order sending :=
    match order with
    | .send delivery =>
      let (sending, result) := sending.send delivery
      (sending, some (0, result))
    | .report _ _ _ => (sending, none)

/-- A receiver, and the packages that it passed on. -/
abbrev Receiving :=
  World (DatagramReceiver Unit) DatagramReceiver.Role (DatagramReceiver.Call Unit)
    (DatagramReceiver.Order Unit) (Except Failure Unit) DatagramReceiver.Reply (List Package)

def receivingOutside : Outside (List Package) (DatagramReceiver.Order Unit) (Except Failure Unit)
    where
  perform _ order packages :=
    match order with
    | .bind _ => (packages, some (0, .ok ()))
    | .received _ package => (packages ++ [package], none)
    | _ => (packages, none)

/-- The only handler lets everybody connect. -/
def conduct : DatagramReceiver.Conduct Unit where
  asked _ _ := (true, [])
  received _ _ := []
  ended _ _ _ := []

/-- An inbox, and what it delivered, the latest first. -/
abbrev Incoming :=
  World (Inbox Unit Empty) Mailbox.Role (Inbox.Call Unit) (Inbox.Order Unit) Empty Inbox.Reply
    (List Package)

def incomingOutside : Outside (List Package) (Inbox.Order Unit) Empty where
  perform _ order delivered := (order.package :: delivered, none)

structure Stage where
  outgoing : Outgoing
  receiving : Receiving
  incoming : Incoming
  /-- The number of the next call on any part. -/
  next : Nat := 0
  /-- The datagrams that crossed the link. -/
  crossed : Link := []

namespace Stage

def callOutbox (stage : Stage) (call : Outbox.Call Unit) : Stage :=
  let (outgoing, _) := stage.outgoing.call (.caller stage.next) call
  { stage with outgoing := outgoing.settle, next := stage.next + 1 }

def callReceiver (stage : Stage) (call : DatagramReceiver.Call Unit) : Stage :=
  let (receiving, _) := stage.receiving.call (.caller stage.next) call
  { stage with receiving := receiving.settle, next := stage.next + 1 }

def callInbox (stage : Stage) (call : Inbox.Call Unit) : Stage :=
  let (incoming, _) := stage.incoming.call (.caller stage.next) call
  { stage with incoming := incoming.settle, next := stage.next + 1 }

/-- Connects the sender and lets the receiver take the connection of a peer. -/
def connect (stage : Stage) (peer : Address) : Stage :=
  let (sending, _) := stage.outgoing.script.perform (.call .connect)
  (({ stage with outgoing := { stage.outgoing with script := sending } }.callReceiver
    (.subscribe .reception ())).callReceiver .start).callReceiver (.arrive peer)

/-- Takes the datagrams off the link. -/
def takeLink (stage : Stage) : Stage × Link :=
  let sending := stage.outgoing.script
  ({ stage with
      outgoing :=
        { stage.outgoing with
          script := { sending with world := { sending.world with script := [] } } }
      crossed := stage.crossed ++ sending.world.script }, sending.world.script)

/-- Brings what is on the link to the receiver, and what the receiver passes on to the inbox. -/
def carry (stage : Stage) : Stage :=
  let (stage, datagrams) := stage.takeLink
  let stage := stage.callReceiver (.bring 0 (datagrams.map .ok))
  let packages := stage.receiving.script
  { stage with receiving := { stage.receiving with script := [] } }.callInbox (.fire packages)

/-- Sends messages and carries them all the way. -/
def sendGroup (stage : Stage) (messages : List Bytes) : Stage :=
  (stage.callOutbox (.send messages)).carry

end Stage

/-- How much went through one of the two sides. -/
structure Figures where
  messages : UInt64
  packages : UInt64
  bytes : UInt64

structure Report where
  sent : Figures
  received : Figures
  datagrams : List Bytes
  delivered : List Package

def report (stage : Stage) : Report :=
  let outbox := stage.outgoing.state
  let inbox := stage.incoming.state
  { sent :=
      { messages := outbox.messageCount
        packages := outbox.packageCount
        bytes := stage.outgoing.script.world.state.bytesSent }
    received :=
      { messages := inbox.messageCount
        packages := inbox.packageCount
        bytes := stage.receiving.state.bytesReceived }
    datagrams := stage.crossed
    delivered := stage.incoming.script.reverse }

/-- Makes all parts with room for so many messages, the receiving end first. -/
def create (outboxSettings : OutboxSettings) (inboxSettings : InboxSettings) (messages : Nat) :
    Except SettingsFault (Except Defect Stage) := do
  let inbox ← Inbox.create inboxSettings {}
  let outbox ← Outbox.create outboxSettings Bytes.maxWord
  let sender ← DatagramSender.create (.loopback 0) (.loopback 4530) {}
  let receiver ← DatagramReceiver.create (.loopback 4530) {}
  let patience := 64 + 16 * messages
  pure do
    pure
      { outgoing :=
          { component := Outbox.component
            outside := outgoingOutside
            patience
            state := ← outbox
            agenda := { ready := [some .worker] }
            script :=
              { world :=
                  { component := DatagramSender.component
                    outside := linkOutside
                    patience
                    state := sender
                    script := [] }
                task := id } }
        receiving :=
          { component := DatagramReceiver.component conduct
            outside := receivingOutside
            patience
            state := receiver
            script := [] }
        incoming :=
          { component := Inbox.component fun _ _ => []
            outside := incomingOutside
            patience
            state := ← inbox
            agenda := { ready := [some .worker] }
            script := [] } }

/-- Sends groups of messages, one group after the other, and closes both ends. -/
def run (outboxSettings : OutboxSettings) (inboxSettings : InboxSettings) (peer : Address)
    (groups : List (List Bytes)) : Except SettingsFault (Except Defect Report) := do
  let patience := groups.foldl (fun turns group => turns + group.length + 4) 0
  let created ← create outboxSettings inboxSettings patience
  pure do
    let stage := ((← created).connect peer).callInbox (.subscribe ())
    let stage := groups.foldl Stage.sendGroup stage
    pure (report ((stage.callOutbox .close).carry.callInbox .close))

end ReliableTransport.Rehearsal.Pipelines
