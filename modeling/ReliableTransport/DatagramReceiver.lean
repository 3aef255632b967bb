import ReliableTransport.Acceptor
import ReliableTransport.Package
import ReliableTransport.Registry
/-!
This module holds receivers of datagrams. A receiver accepts connections and runs a loop for each
of them, which passes on what the connection brings until the connection ends. Handlers are asked
about each new connection and told of each datagram and of each end of a connection.

A remote has one connection at most: a new one takes the place of the one before. The table of
remotes knows the loop of each. A loop that is replaced, disconnected or stopped is told to end,
which it does where it waits, and nobody is told of its end. A loop that never has to wait steps
aside after its share of a turn, and it ends there too if it was told to.
-/

namespace ReliableTransport

namespace DatagramReceiver

/-- Who takes turns on a receiver. -/
inductive Role where
  | caller (number : Nat)
  | acceptLoop (socket : Nat)
  | receiveLoop (id : Nat)
  deriving Repr, DecidableEq

/-- Why a connection ended by itself. -/
inductive EndReason where
  /-- The peer closed it. -/
  | closed
  | failed (kind : IoKind)
  deriving Repr, DecidableEq

structure Connection where
  number : Nat
  remote : Address
  deriving Repr, DecidableEq

/-- What a connection brought and nobody took yet. -/
structure Inflow where
  receptions : List (Except IoKind Bytes) := []
  /-- The peer closed the connection behind that. -/
  closed : Bool := false

/-- A loop that is not over. -/
structure Loop where
  id : Nat
  connection : Connection
  /-- The loop was told to end. -/
  aborted : Bool := false
  deriving Repr, DecidableEq

/-- What a handler does to the receiver while it is called. -/
inductive Command where
  | disconnect (remote : Address)
  | stop
  deriving Repr, DecidableEq

/-- How much a loop takes in one turn before it lets others run. -/
structure Shares where
  /-- How many arrivals the loop of a socket takes. -/
  arrivals : Nat
  /-- How many receptions the loop of a connection takes. -/
  receptions : Nat
  arrivals_pos : 0 < arrivals
  receptions_pos : 0 < receptions

/-- To accept a connection takes two units of a turn, and to receive something takes one. -/
def Shares.usual : Shares where
  arrivals := 64
  receptions := 128
  arrivals_pos := Nat.succ_pos 63
  receptions_pos := Nat.succ_pos 127

/-- How handlers react, and how much the loops take in one turn. -/
structure Conduct (Handler : Type) where
  /-- Whether a handler lets a remote connect. -/
  asked : Handler → Address → Bool × List Command
  received : Handler → Package → List Command
  ended : Handler → Address → EndReason → List Command
  shares : Shares := .usual

/-- What a receiver does outside. Only the binding of a socket is answered. -/
inductive Order (Handler : Type) where
  | bind (socket : Nat)
  | close (socket : Nat)
  /-- A handler was asked about a remote. -/
  | asked (handler : Handler) (remote : Address) (allowed : Bool)
  | received (handler : Handler) (package : Package)
  | ended (handler : Handler) (remote : Address) (reason : EndReason)
  /-- A handler's own call has ended, with what it found. -/
  | disconnected (found : Bool)
  /-- Nobody holds a connection any more. -/
  | release (connection : Nat)

/-- What handlers can be subscribed for. -/
inductive Occasion where
  | acceptance
  | reception
  | ending
  deriving Repr, DecidableEq

end DatagramReceiver

open DatagramReceiver in
structure DatagramReceiver (Handler : Type) where
  acceptor : Acceptor Role
  /-- The connections that wait to be accepted, and the failures among them. -/
  arrivals : List (Except Failure Connection) := []
  nextConnection : Nat := 0
  /-- What came in on the connections that somebody holds. -/
  inflows : List (Nat × Inflow) := []
  /-- The loop of each remote's connection. -/
  endpoints : List (Address × Nat) := []
  loops : List Loop := []
  nextLoop : Nat := 0
  bytesReceived : UInt64 := 0
  acceptHandlers : Registry Handler := {}
  receiveHandlers : Registry Handler := {}
  endHandlers : Registry Handler := {}

namespace DatagramReceiver

variable {Handler : Type}

def create (bindAddress : Address) (limits : ReceiveLimits) :
    Except SettingsFault (DatagramReceiver Handler) := do
  let acceptor ← Acceptor.create bindAddress limits
  pure { acceptor }

/-- What a call on a receiver answers. -/
inductive Reply where
  | done
  | started (result : Except Failure Unit)
  | flag (value : Bool)
  | number (value : Nat)

abbrev ReceiverTurn (Handler : Type) :=
  Turn (DatagramReceiver Handler) Role (Order Handler) Reply

/-- The loop with a number, if it is not over. -/
def loop? (receiver : DatagramReceiver Handler) (id : Nat) : Option Loop :=
  receiver.loops.find? fun loop => loop.id = id

/-- Whether a loop was told to end. -/
def isAborted (receiver : DatagramReceiver Handler) (id : Nat) : Bool :=
  (receiver.loop? id).any Loop.aborted

/-- Tells a loop to end. -/
def abort (receiver : DatagramReceiver Handler) (id : Nat) : ReceiverTurn Handler :=
  ({ receiver with
      loops := receiver.loops.map fun loop =>
        if loop.id = id then { loop with aborted := true } else loop },
    [.ready (.receiveLoop id)])

def abortEach : List Nat → DatagramReceiver Handler → ReceiverTurn Handler
  | [], receiver => (receiver, [])
  | id :: rest, receiver => Turn.andThen (receiver.abort id) (abortEach rest)

/-- Takes a remote out of the table. -/
def strike (receiver : DatagramReceiver Handler) (remote : Address) : DatagramReceiver Handler :=
  { receiver with endpoints := receiver.endpoints.filter fun entry => entry.1 != remote }

/-- Ends the connection of a remote and says whether there was one. -/
def disconnect (receiver : DatagramReceiver Handler) (remote : Address) :
    ReceiverTurn Handler × Bool :=
  match receiver.endpoints.lookup remote with
  | none => ((receiver, []), false)
  | some id => ((receiver.strike remote).abort id, true)

/-- Stops to accept connections and ends those that there are. -/
def stop (receiver : DatagramReceiver Handler) (task : Role) : ReceiverTurn Handler :=
  let (acceptor, closed) := receiver.acceptor.stop
  Turn.andThen
    ({ receiver with acceptor, endpoints := [] },
      closed.toList.flatMap fun socket =>
        [.order task (.close socket), .ready (.acceptLoop socket)])
    (abortEach (receiver.endpoints.map Prod.snd))

/-- Carries out what a handler does. -/
def obey (task : Role) : Command → DatagramReceiver Handler → ReceiverTurn Handler
  | .disconnect remote, receiver =>
    let (turn, found) := receiver.disconnect remote
    Turn.andThen turn fun receiver => (receiver, [.order task (.disconnected found)])
  | .stop, receiver => receiver.stop task

def obeyEach (task : Role) : List Command → DatagramReceiver Handler → ReceiverTurn Handler
  | [], receiver => (receiver, [])
  | command :: rest, receiver => Turn.andThen (receiver.obey task command) (obeyEach task rest)

/-- Nobody holds a connection any more. What it brought is lost. -/
def release (receiver : DatagramReceiver Handler) (task : Role) (connection : Connection) :
    ReceiverTurn Handler :=
  ({ receiver with
      inflows := receiver.inflows.filter fun entry => entry.1 != connection.number },
    [.order task (.release connection.number)])

/-- Asks handlers about a remote, one after the other. A veto does not spare the others the
question. The answer says whether all of them let it connect. -/
def askEach (conduct : Conduct Handler) (task : Role) (remote : Address) :
    List Handler → DatagramReceiver Handler → ReceiverTurn Handler × Bool
  | [], receiver => ((receiver, []), true)
  | handler :: rest, receiver =>
    let (allowed, commands) := conduct.asked handler remote
    let (receiver, effects) := receiver.obeyEach task commands
    let ((receiver, others), allAllow) := askEach conduct task remote rest receiver
    ((receiver, .order task (.asked handler remote allowed) :: (effects ++ others)),
      allowed && allAllow)

/-- Begins the loop of a connection. The connection that its remote had before is over. -/
def register (connection : Connection) (receiver : DatagramReceiver Handler) :
    ReceiverTurn Handler :=
  let id := receiver.nextLoop
  let registered : DatagramReceiver Handler :=
    { receiver.strike connection.remote with
      nextLoop := id + 1
      loops := receiver.loops ++ [{ id, connection }] }
  Turn.andThen
    ({ registered with endpoints := registered.endpoints ++ [(connection.remote, id)] },
      [.ready (.receiveLoop id)])
    (abortEach (receiver.endpoints.lookup connection.remote).toList)

/-- Takes a connection over unless a handler vetoes it. -/
def takeOver (conduct : Conduct Handler) (task : Role) (connection : Connection)
    (receiver : DatagramReceiver Handler) : ReceiverTurn Handler :=
  let (turn, allowed) :=
    askEach conduct task connection.remote receiver.acceptHandlers.handlers receiver
  Turn.andThen turn fun receiver =>
    if allowed then receiver.register connection else receiver.release task connection

/-- The loop of a socket is over. -/
def endAccepting (receiver : DatagramReceiver Handler) (socket : Nat) : ReceiverTurn Handler :=
  ({ receiver with acceptor := receiver.acceptor.endLoop socket }, [])

/-- Accepts what has arrived, one connection after the other, as long as the loop goes on. Once its
share is used up, the loop lets others run before the arrivals that are left. -/
def acceptEach (conduct : Conduct Handler) (socket : Nat) :
    Nat → List (Except Failure Connection) → DatagramReceiver Handler → ReceiverTurn Handler
  | 0, arrivals, receiver => ({ receiver with arrivals }, [.aside (.acceptLoop socket)])
  | _ + 1, [], receiver => ({ receiver with arrivals := [] }, [])
  | share + 1, arrival :: rest, receiver =>
    let receiver := { receiver with arrivals := rest }
    match arrival with
    | .error failure =>
      if Acceptor.isReset failure then acceptEach conduct socket share rest receiver
      else receiver.endAccepting socket
    | .ok connection =>
      Turn.andThen (receiver.takeOver conduct (.acceptLoop socket) connection) fun receiver =>
        if receiver.acceptor.goesOn socket then acceptEach conduct socket share rest receiver
        else receiver.endAccepting socket

/-- A turn of the loop of a socket. -/
def accept (conduct : Conduct Handler) (socket : Nat) (receiver : DatagramReceiver Handler) :
    ReceiverTurn Handler :=
  if receiver.acceptor.goesOn socket then
    acceptEach conduct socket conduct.shares.arrivals receiver.arrivals receiver
  else receiver.endAccepting socket

/-- Tells handlers of a package, one after the other. -/
def tellEach (conduct : Conduct Handler) (task : Role) (package : Package) :
    List Handler → DatagramReceiver Handler → ReceiverTurn Handler
  | [], receiver => (receiver, [])
  | handler :: rest, receiver =>
    Turn.andThen
      (Turn.andThen (receiver, [.order task (.received handler package)])
        (obeyEach task (conduct.received handler package)))
      (tellEach conduct task package rest)

/-- Passes a package on to the handlers that are subscribed now. -/
def deliver (conduct : Conduct Handler) (task : Role) (package : Package)
    (receiver : DatagramReceiver Handler) : ReceiverTurn Handler :=
  tellEach conduct task package receiver.receiveHandlers.handlers
    { receiver with
      bytesReceived := receiver.bytesReceived + UInt64.ofNat package.data.length }

/-- Tells handlers of the end of a connection, one after the other. -/
def tellEndEach (conduct : Conduct Handler) (task : Role) (remote : Address)
    (reason : EndReason) : List Handler → DatagramReceiver Handler → ReceiverTurn Handler
  | [], receiver => (receiver, [])
  | handler :: rest, receiver =>
    Turn.andThen
      (Turn.andThen (receiver, [.order task (.ended handler remote reason)])
        (obeyEach task (conduct.ended handler remote reason)))
      (tellEndEach conduct task remote reason rest)

/-- A loop is over and lets go of its connection. -/
def endLoop (receiver : DatagramReceiver Handler) (loop : Loop) : ReceiverTurn Handler :=
  { receiver with loops := receiver.loops.filter fun other => other.id != loop.id }.release
    (.receiveLoop loop.id) loop.connection

/-- The connection of a loop has ended by itself. The handlers are told if the table still knows
the loop, and then it does not know it any more. -/
def conclude (conduct : Conduct Handler) (loop : Loop) (reason : EndReason)
    (receiver : DatagramReceiver Handler) : ReceiverTurn Handler :=
  let remote := loop.connection.remote
  Turn.andThen (receiver.endLoop loop) fun receiver =>
    if receiver.endpoints.lookup remote = some loop.id then
      tellEndEach conduct (.receiveLoop loop.id) remote reason receiver.endHandlers.handlers
        (receiver.strike remote)
    else (receiver, [])

/-- What has come in on a connection. -/
def inflow (receiver : DatagramReceiver Handler) (connection : Nat) : Inflow :=
  (receiver.inflows.lookup connection).getD {}

/-- Changes what has come in on a connection that somebody holds. -/
def changeInflow (receiver : DatagramReceiver Handler) (connection : Nat)
    (change : Inflow → Inflow) : DatagramReceiver Handler :=
  { receiver with
    inflows := receiver.inflows.map fun entry =>
      if entry.1 = connection then (entry.1, change entry.2) else entry }

/-- A loop comes to a point where it waits. If it was told to end, it does so there. Else it leaves
the receptions that it did not take, and the effects say how it goes on. -/
def pause (receiver : DatagramReceiver Handler) (loop : Loop)
    (receptions : List (Except IoKind Bytes)) (effects : List (Effect Role (Order Handler) Reply)) :
    ReceiverTurn Handler :=
  if receiver.isAborted loop.id then receiver.endLoop loop
  else
    (receiver.changeInflow loop.connection.number fun inflow => { inflow with receptions },
      effects)

/-- Takes what a connection has brought, one reception after the other. Once its share is used up,
the loop lets others run before the receptions that are left. -/
def receiveEach (conduct : Conduct Handler) (loop : Loop) :
    Nat → List (Except IoKind Bytes) → DatagramReceiver Handler → ReceiverTurn Handler
  | 0, receptions, receiver =>
    receiver.pause loop receptions [.aside (.receiveLoop loop.id)]
  | _ + 1, [], receiver =>
    if (receiver.inflow loop.connection.number).closed then receiver.conclude conduct loop .closed
    else receiver.pause loop [] []
  | _ + 1, .error kind :: _, receiver => receiver.conclude conduct loop (.failed kind)
  | share + 1, .ok data :: rest, receiver =>
    Turn.andThen
      (receiver.deliver conduct (.receiveLoop loop.id)
        { remote := loop.connection.remote, data })
      (receiveEach conduct loop share rest)

/-- A turn of the loop of a connection. A loop that was told to end takes nothing more. -/
def receive (conduct : Conduct Handler) (id : Nat) (receiver : DatagramReceiver Handler) :
    ReceiverTurn Handler :=
  match receiver.loop? id with
  | none => (receiver, [])
  | some loop =>
    if loop.aborted then receiver.endLoop loop
    else
      receiveEach conduct loop conduct.shares.receptions
        (receiver.inflow loop.connection.number).receptions receiver

/-- The calls on a receiver, and what the network does to it. -/
inductive Call (Handler : Type) where
  | start
  | stop
  | disconnect (remote : Address)
  | subscribe (occasion : Occasion) (handler : Handler)
  | unsubscribe (occasion : Occasion) (id : Nat)
  /-- A new connection waits to be accepted. -/
  | arrive (remote : Address)
  /-- The next connection cannot be accepted. -/
  | arriveFailed (failure : Failure)
  /-- A connection brings something. -/
  | bring (connection : Nat) (receptions : List (Except IoKind Bytes))
  /-- The peer closes a connection. -/
  | hangUp (connection : Nat)

/-- The handlers for an occasion. -/
def handlers (receiver : DatagramReceiver Handler) : Occasion → Registry Handler
  | .acceptance => receiver.acceptHandlers
  | .reception => receiver.receiveHandlers
  | .ending => receiver.endHandlers

def withHandlers (receiver : DatagramReceiver Handler) (handlers : Registry Handler) :
    Occasion → DatagramReceiver Handler
  | .acceptance => { receiver with acceptHandlers := handlers }
  | .reception => { receiver with receiveHandlers := handlers }
  | .ending => { receiver with endHandlers := handlers }

/-- Lets the loops that accept connections have a turn. -/
def wakeAccepting (receiver : DatagramReceiver Handler) :
    List (Effect Role (Order Handler) Reply) :=
  receiver.acceptor.loops.map fun loop => .ready (.acceptLoop loop.socket)

/-- Lets the loop of a connection have a turn. -/
def wakeReceiving (receiver : DatagramReceiver Handler) (connection : Nat) :
    List (Effect Role (Order Handler) Reply) :=
  (receiver.loops.filter fun loop => loop.connection.number = connection).map fun loop =>
    .ready (.receiveLoop loop.id)

/-- Puts something behind the arrivals. -/
def enqueue (receiver : DatagramReceiver Handler) (arrival : Except Failure Connection) :
    DatagramReceiver Handler :=
  { receiver with arrivals := receiver.arrivals ++ [arrival] }

/-- A new connection is held by the arrivals. -/
def arrive (receiver : DatagramReceiver Handler) (remote : Address) : DatagramReceiver Handler :=
  let number := receiver.nextConnection
  { receiver.enqueue (.ok { number, remote }) with
    nextConnection := number + 1
    inflows := receiver.inflows ++ [(number, {})] }

def begin (task : Role) (call : Call Handler) (receiver : DatagramReceiver Handler) :
    ReceiverTurn Handler :=
  match call with
  | .start =>
    match receiver.acceptor.beginStart task with
    | .ok (acceptor, socket) => ({ receiver with acceptor }, [.order task (.bind socket)])
    | .error failure => (receiver, [.done task (.started (.error failure))])
  | .stop =>
    Turn.andThen (receiver.stop task) fun receiver => (receiver, [.done task .done])
  | .disconnect remote =>
    let (turn, found) := receiver.disconnect remote
    Turn.andThen turn fun receiver => (receiver, [.done task (.flag found)])
  | .subscribe occasion handler =>
    let (handlers, id) := (receiver.handlers occasion).subscribe handler
    (receiver.withHandlers handlers occasion, [.done task (.number id)])
  | .unsubscribe occasion id =>
    let (handlers, found) := (receiver.handlers occasion).unsubscribe id
    (receiver.withHandlers handlers occasion, [.done task (.flag found)])
  | .arrive remote =>
    let number := receiver.nextConnection
    (receiver.arrive remote, receiver.wakeAccepting ++ [.done task (.number number)])
  | .arriveFailed failure =>
    (receiver.enqueue (.error failure), receiver.wakeAccepting ++ [.done task .done])
  | .bring connection receptions =>
    let held := receiver.inflows.any fun entry => entry.1 = connection
    (receiver.changeInflow connection fun inflow =>
        { inflow with receptions := inflow.receptions ++ receptions },
      (if receptions.isEmpty then [] else receiver.wakeReceiving connection) ++
        [.done task (.flag held)])
  | .hangUp connection =>
    (receiver.changeInflow connection fun inflow => { inflow with closed := true },
      receiver.wakeReceiving connection ++ [.done task .done])

/-- A turn of a start whose socket is bound or not to be had. -/
def bound (task : Role) (result : Except Failure Unit) (receiver : DatagramReceiver Handler) :
    ReceiverTurn Handler :=
  match receiver.acceptor.starts.lookup task with
  | none => (receiver, [])
  | some start =>
    let (acceptor, ending) := (receiver.acceptor.forgetStart task).endStart start result
    ({ receiver with acceptor },
      match ending with
      | .failed failure => [.done task (.started (.error failure))]
      | .unwanted socket failure =>
        [.order task (.close socket), .done task (.started (.error failure))]
      | .installed socket => [.ready (.acceptLoop socket), .done task (.started (.ok ()))])

/-- The receiver as a component over its sockets and handlers. -/
def component (conduct : Conduct Handler) :
    Component (DatagramReceiver Handler) Role (Call Handler) (Order Handler)
      (Except Failure Unit) Reply where
  start _ task call receiver := receiver.begin task call
  resume _ task receiver :=
    match task with
    | .caller _ => (receiver, [])
    | .acceptLoop socket => receiver.accept conduct socket
    | .receiveLoop id => receiver.receive conduct id
  answer _ task result receiver := receiver.bound task result
  abandon task receiver :=
    ({ receiver with acceptor := receiver.acceptor.forgetStart task }, [])

end DatagramReceiver

end ReliableTransport
