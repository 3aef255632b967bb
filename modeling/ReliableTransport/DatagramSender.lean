import ReliableTransport.Address
import ReliableTransport.Delivery
import ReliableTransport.Schedule.Component
import ReliableTransport.Settings
import ReliableTransport.Turnstile
import ReliableTransport.Word
/-!
This module holds senders of datagrams. A sender owns at most one socket, and its calls exclude
each other: one call at a time uses the socket, in the order in which the calls came. Connecting
again closes the socket that was there before it asks for a new one.
-/

namespace ReliableTransport

namespace DatagramSender

/-- The calls on a sender. -/
inductive Call where
  | connect
  | close
  | send (delivery : Delivery)
  | sendRange (data : Bytes) (offset length : UInt64)
  deriving Repr, DecidableEq

/-- What a call does with the socket once it has it. -/
inductive Job where
  | connect
  | close
  | send (delivery : Delivery)
  deriving Repr, DecidableEq

/-- What a sender asks of the outside. Its sockets are numbered in the order in which it asks for
them. -/
inductive Order where
  | openSocket (socket : Nat)
  | closeSocket (socket : Nat)
  | send (socket : Nat) (delivery : Delivery)
  deriving Repr, DecidableEq

inductive Answer where
  | opened (result : Except Failure Unit)
  | closed
  | sent (result : Except Failure Nat)

/-- What a call answers. -/
inductive Result where
  | connected (result : Except Failure Unit)
  | sent (result : Except Failure Nat)
  | closed

/-- The point at which a call waits. Behind the first point it is the call that uses the socket. -/
inductive Stage where
  /-- Other calls use the socket. -/
  | queued (job : Job)
  /-- The socket that was there before is being closed. -/
  | replacing (socket : Nat)
  | opening (socket : Nat)
  | sending (socket : Nat)
  | closing (socket : Nat)
  deriving Repr, DecidableEq

end DatagramSender

open DatagramSender in
structure DatagramSender (Task : Type) where
  bindAddress : Address
  sendAddress : Address
  limits : SendLimits
  socket : Option Nat := none
  /-- The number of the next socket. -/
  nextSocket : Nat := 0
  connected : Bool := false
  /-- A connect has succeeded since the sender was made or closed. A missing socket then means that
  the connection was lost. -/
  wasConnected : Bool := false
  bytesSent : UInt64 := 0
  turnstile : Turnstile Task := {}
  calls : List (Task × Stage) := []

namespace DatagramSender

variable {Task : Type} [DecidableEq Task]

def create (bindAddress sendAddress : Address) (limits : SendLimits) :
    Except SettingsFault (DatagramSender Task) := do
  limits.check
  pure { bindAddress, sendAddress, limits }

abbrev SenderTurn (Task : Type) := Turn (DatagramSender Task) Task Order Result

/-- Moves a call to a point at which it waits. -/
def park (sender : DatagramSender Task) (task : Task) (stage : Stage) : DatagramSender Task :=
  { sender with calls := (sender.calls.filter fun call => call.1 != task) ++ [(task, stage)] }

/-- Takes a call out and lets the next one have the socket if the call had it. -/
def depart (sender : DatagramSender Task) (task : Task) :
    DatagramSender Task × List (Effect Task Order Result) :=
  let (turnstile, next) := sender.turnstile.leave task
  ({ sender with turnstile, calls := sender.calls.filter fun call => call.1 != task },
    next.toList.map .ready)

/-- Ends a call. -/
def finish (sender : DatagramSender Task) (task : Task) (result : Result) : SenderTurn Task :=
  let (sender, woken) := sender.depart task
  (sender, woken ++ [.done task result])

/-- Asks for a new socket. -/
def openNext (sender : DatagramSender Task) (task : Task) : SenderTurn Task :=
  let socket := sender.nextSocket
  ({ sender with nextSocket := socket + 1 }.park task (.opening socket),
    [.order task (.openSocket socket)])

/-- The sender is closed. -/
def finishClose (sender : DatagramSender Task) (task : Task) : SenderTurn Task :=
  { sender with connected := false, wasConnected := false }.finish task .closed

/-- Why there is no socket to send with. -/
def noSocket (sender : DatagramSender Task) : Failure :=
  if sender.wasConnected then
    .ioText .notConnected ("connection to " ++ sender.sendAddress.text ++ " was lost")
  else .invalidOperation .sendBeforeConnect

/-- A call that is given the socket begins its work. -/
def proceed (task : Task) (job : Job) (sender : DatagramSender Task) : SenderTurn Task :=
  match job, sender.socket with
  | .connect, some socket =>
    ({ sender with socket := none, connected := false }.park task (.replacing socket),
      [.order task (.closeSocket socket)])
  | .connect, none => sender.openNext task
  | .close, some socket =>
    ({ sender with socket := none }.park task (.closing socket),
      [.order task (.closeSocket socket)])
  | .close, none => sender.finishClose task
  | .send delivery, some socket =>
    (sender.park task (.sending socket), [.order task (.send socket delivery)])
  | .send _, none => sender.finish task (.sent (.error sender.noSocket))

/-- Asks for the socket. -/
def ask (task : Task) (job : Job) (sender : DatagramSender Task) : SenderTurn Task :=
  let (turnstile, inside) := sender.turnstile.enter task
  let sender := { sender with turnstile }
  if inside then sender.proceed task job else (sender.park task (.queued job), [])

/-- The first turn of a call. A range is checked before anything else happens. -/
def begin (task : Task) (call : Call) (sender : DatagramSender Task) : SenderTurn Task :=
  match call with
  | .connect => sender.ask task .connect
  | .close => sender.ask task .close
  | .send delivery => sender.ask task (.send delivery)
  | .sendRange data offset length =>
    match Word.range? data offset length with
    | none =>
      (sender, [.done task (.sent (.error (.invalidOperation .rangeOutsideBuffer)))])
    | some message => sender.ask task (.send (.whole message))

/-- A send has ended. A transient failure means that the connection is gone. -/
def countSent (sender : DatagramSender Task) : Except Failure Nat → DatagramSender Task
  | .ok length => { sender with bytesSent := sender.bytesSent + UInt64.ofNat length }
  | .error failure =>
    if failure.isTransientIo then { sender with connected := false } else sender

/-- The new socket is there, or is not to be had. -/
def install (sender : DatagramSender Task) (socket : Nat) :
    Except Failure Unit → DatagramSender Task
  | .ok _ => { sender with socket := some socket, connected := true, wasConnected := true }
  | .error _ => sender

/-- A turn of a call whose order was answered. -/
def answered (task : Task) (answer : Answer) (sender : DatagramSender Task) : SenderTurn Task :=
  match sender.calls.lookup task, answer with
  | some (.replacing _), .closed => sender.openNext task
  | some (.opening socket), .opened result =>
    (sender.install socket result).finish task (.connected result)
  | some (.sending _), .sent result => (sender.countSent result).finish task (.sent result)
  | some (.closing _), .closed => sender.finishClose task
  | _, _ => (sender, [])

/-- A turn of a call that waits for the socket. -/
def resume (task : Task) (sender : DatagramSender Task) : SenderTurn Task :=
  match sender.calls.lookup task with
  | some (.queued job) =>
    if sender.turnstile.inside = some task then sender.proceed task job else (sender, [])
  | _ => (sender, [])

/-- The sender as a component over its sockets. A call that is given up while it has the socket
leaves the sender as it is at that point. -/
def component : Component (DatagramSender Task) Task Call Order Answer Result where
  start _ task call sender := sender.begin task call
  resume _ task sender := sender.resume task
  answer _ task answer sender := sender.answered task answer
  abandon task sender := sender.depart task

end DatagramSender

end ReliableTransport
