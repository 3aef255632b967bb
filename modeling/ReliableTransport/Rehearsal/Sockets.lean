import ReliableTransport.Pool.Fleet
import ReliableTransport.Schedule.World
import ReliableTransport.Script
/-!
This module holds scripted sending sockets. Each connect takes the next outcome of a script, and
its socket has a script of its own for its sends. Everything is noted when it begins. Several
senders can share one provider of sockets.
-/

namespace ReliableTransport.Rehearsal

/-- What the sockets saw. Sockets are numbered by their connect. -/
inductive SocketEvent where
  | connecting (socket : Nat) (bindAddress sendAddress : Address) (limits : SendLimits)
  | sending (socket : Nat) (delivery : Delivery)
  | closing (socket : Nat)

/-- How a connect ends, and how the sends of its socket end. -/
structure ConnectScript where
  outcome : Outcome
  sends : Script

/-- A provider of scripted sockets. -/
structure Sockets where
  bindAddress : Address
  sendAddress : Address
  limits : SendLimits
  connects : List ConnectScript
  /-- The number of the next connect. -/
  next : Nat := 0
  /-- What is left of the sockets' scripts. -/
  sends : List (Nat × Script) := []
  /-- The number of the connect for each sender and its own number of the socket. -/
  owners : List ((Nat × Nat) × Nat) := []
  events : List SocketEvent := []

namespace Sockets

def note (sockets : Sockets) (event : SocketEvent) : Sockets :=
  { sockets with events := sockets.events ++ [event] }

/-- A connect takes the next script. Without one it is refused. -/
def connect (sockets : Sockets) : Sockets × Nat × Outcome :=
  let number := sockets.next
  let noted :=
    sockets.note (.connecting number sockets.bindAddress sockets.sendAddress sockets.limits)
  match sockets.connects with
  | [] =>
    ({ noted with next := number + 1 }, number,
      { verdict := .fails (.io .connectionRefused) })
  | script :: connects =>
    ({ noted with
        next := number + 1
        connects
        sends := sockets.sends ++ [(number, script.sends)] }, number, script.outcome)

def send (sockets : Sockets) (number : Nat) (delivery : Delivery) : Sockets × Outcome :=
  let (outcome, rest) := ((sockets.sends.lookup number).getD []).next {}
  ({ sockets.note (.sending number delivery) with
      sends := sockets.sends.map fun entry => if entry.1 = number then (number, rest) else entry },
    outcome)

def close (sockets : Sockets) (number : Nat) : Sockets := sockets.note (.closing number)

/-- What becomes of an order of one of the senders. -/
def perform (sender : Nat) (order : DatagramSender.Order) (sockets : Sockets) :
    Sockets × Option (Nat × DatagramSender.Answer) :=
  let number (socket : Nat) : Nat := (sockets.owners.lookup (sender, socket)).getD 0
  match order with
  | .openSocket socket =>
    let (sockets, number, outcome) := sockets.connect
    ({ sockets with owners := ((sender, socket), number) :: sockets.owners },
      some (outcome.delay, .opened outcome.verdict.unit))
  | .closeSocket socket => (sockets.close (number socket), some (0, .closed))
  | .send socket delivery =>
    let (sockets, outcome) := sockets.send (number socket) delivery
    (sockets, some (outcome.delay, .sent (outcome.verdict.length delivery.length)))

/-- The outside of a single sender. -/
def outside : Outside Sockets DatagramSender.Order DatagramSender.Answer where
  perform _ order sockets := sockets.perform 0 order

/-- The outside of the senders of a fleet. -/
def fleetOutside : Outside Sockets Fleet.Order DatagramSender.Answer where
  perform _ order sockets := sockets.perform order.sender order.order

end Sockets

end ReliableTransport.Rehearsal
