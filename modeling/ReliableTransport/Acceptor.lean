import ReliableTransport.Schedule.Component
import ReliableTransport.Settings
/-!
This module holds acceptors. A start binds a listening socket, and a loop of its own then accepts
connections on it and hands them over, one after the other. A stop closes the socket and ends the
loop, and it wins over every start that is still binding. A connection that was reset before it was
accepted does not count. Any other failure to accept ends the loop but does not stop the acceptor.
-/

namespace ReliableTransport

namespace Acceptor

inductive Phase where
  | stopped
  | starting
  | running
  deriving Repr, DecidableEq

def Phase.name : Phase → String
  | stopped => "Stopped"
  | starting => "Starting"
  | running => "Running"

/-- A start that waits for its socket. -/
structure Start where
  /-- The generation that the start began. -/
  generation : Nat
  socket : Nat
  deriving Repr, DecidableEq

/-- A loop that is not over. Each socket has one loop at most. -/
structure Loop where
  socket : Nat
  /-- The loop has had a turn. -/
  begun : Bool := false
  /-- The loop ends at its next turn. -/
  stopped : Bool := false
  deriving Repr, DecidableEq

end Acceptor

open Acceptor in
structure Acceptor (Task : Type) where
  bindAddress : Address
  limits : ReceiveLimits
  phase : Phase := .stopped
  /-- Counts the starts and the stops. A start that finds another count was overtaken. -/
  generation : Nat := 0
  /-- The socket that accepts connections. -/
  active : Option Nat := none
  /-- The number of the next socket. -/
  nextSocket : Nat := 0
  starts : List (Task × Start) := []
  loops : List Loop := []

namespace Acceptor

variable {Task : Type} [DecidableEq Task]

def create (bindAddress : Address) (limits : ReceiveLimits) :
    Except SettingsFault (Acceptor Task) := do
  limits.check
  pure { bindAddress, limits }

/-- Why a start is refused. -/
def refusal (acceptor : Acceptor Task) : Failure :=
  .plain ("listener on " ++ acceptor.bindAddress.text ++ " can not be started in state " ++
    acceptor.phase.name)

/-- Why a start fails that was overtaken. -/
def overtaken (acceptor : Acceptor Task) : Failure :=
  .plain ("listener on " ++ acceptor.bindAddress.text ++ " was stopped while starting")

/-- Begins a start and says which socket it has to bind. -/
def beginStart (acceptor : Acceptor Task) (task : Task) :
    Except Failure (Acceptor Task × Nat) :=
  if acceptor.phase = .stopped then
    let generation := acceptor.generation + 1
    let socket := acceptor.nextSocket
    .ok
      ({ acceptor with
          phase := .starting
          generation
          nextSocket := socket + 1
          starts := acceptor.starts ++ [(task, { generation, socket })] }, socket)
  else .error acceptor.refusal

/-- Forgets a start. One that is given up leaves everything else as it is. -/
def forgetStart (acceptor : Acceptor Task) (task : Task) : Acceptor Task :=
  { acceptor with starts := acceptor.starts.filter fun start => start.1 != task }

/-- How a start ends. -/
inductive Ending where
  | failed (failure : Failure)
  /-- Something else was started or stopped first, and the socket is not wanted. -/
  | unwanted (socket : Nat) (failure : Failure)
  /-- The socket accepts connections. -/
  | installed (socket : Nat)

/-- Makes a bound socket the one that accepts connections. -/
def install (acceptor : Acceptor Task) (socket : Nat) : Acceptor Task :=
  { acceptor with
    phase := .running
    active := some socket
    loops := acceptor.loops ++ [{ socket }] }

/-- Ends a start whose socket is bound or not to be had. A start that was overtaken leaves
everything as it is. -/
def endStart (acceptor : Acceptor Task) (start : Start) :
    Except Failure Unit → Acceptor Task × Ending
  | .error failure =>
    if acceptor.generation = start.generation then
      ({ acceptor with phase := .stopped }, .failed failure)
    else (acceptor, .failed failure)
  | .ok _ =>
    if acceptor.phase = .starting && acceptor.generation = start.generation then
      (acceptor.install start.socket, .installed start.socket)
    else (acceptor, .unwanted start.socket acceptor.overtaken)

/-- Stops and says which socket has to be closed. -/
def stop (acceptor : Acceptor Task) : Acceptor Task × Option Nat :=
  ({ acceptor with
      phase := .stopped
      generation := acceptor.generation + 1
      active := none
      loops := acceptor.loops.map fun loop =>
        if some loop.socket = acceptor.active then { loop with stopped := true } else loop },
    acceptor.active)

/-- The loop of a socket, if it is not over. -/
def loop? (acceptor : Acceptor Task) (socket : Nat) : Option Loop :=
  acceptor.loops.find? fun loop => loop.socket = socket

/-- Whether the loop of a socket goes on to accept connections. -/
def goesOn (acceptor : Acceptor Task) (socket : Nat) : Bool :=
  (acceptor.loop? socket).any fun loop => !loop.stopped

/-- Notes that the loop of a socket has had a turn. -/
def beginLoop (acceptor : Acceptor Task) (socket : Nat) : Acceptor Task :=
  { acceptor with
    loops := acceptor.loops.map fun loop =>
      if loop.socket = socket then { loop with begun := true } else loop }

/-- The loop of a socket is over. -/
def endLoop (acceptor : Acceptor Task) (socket : Nat) : Acceptor Task :=
  { acceptor with loops := acceptor.loops.filter fun loop => loop.socket != socket }

/-- Whether connections are accepted. -/
def isAccepting (acceptor : Acceptor Task) : Bool :=
  acceptor.active.any fun socket => (acceptor.loop? socket).isSome

/-- A connection that was reset before it was accepted is none. -/
def isReset (failure : Failure) : Bool := failure.ioKind? = some .connectionReset

/-- Who takes turns on an acceptor. -/
inductive Role where
  | caller (number : Nat)
  | loop (socket : Nat)
  deriving Repr, DecidableEq

inductive Call where
  | start
  | stop
  deriving Repr, DecidableEq

/-- What an acceptor asks of the outside. Sockets are numbered in the order in which they are
bound. -/
inductive Order where
  | bind (socket : Nat)
  | accept (socket : Nat)
  /-- Hands a connection over. -/
  | handOver (remote : Address)
  | close (socket : Nat)
  deriving Repr, DecidableEq

inductive Answer where
  | bound (result : Except Failure Unit)
  | accepted (result : Except Failure Address)
  /-- The connection was taken over. Whoever took it may have the acceptor stopped. -/
  | handedOver (stops : Bool)

/-- What a call answers. -/
inductive Result where
  | started (result : Except Failure Unit)
  | stopped

abbrev AcceptorTurn := Turn (Acceptor Role) Role Order Result

/-- Stops on behalf of a task. -/
def stopFor (acceptor : Acceptor Role) (task : Role) : AcceptorTurn :=
  let (acceptor, closed) := acceptor.stop
  (acceptor, closed.toList.flatMap fun socket =>
    [.order task (.close socket), .ready (.loop socket)])

def begin (task : Role) (call : Call) (acceptor : Acceptor Role) : AcceptorTurn :=
  match call with
  | .start =>
    match acceptor.beginStart task with
    | .ok (acceptor, socket) => (acceptor, [.order task (.bind socket)])
    | .error failure => (acceptor, [.done task (.started (.error failure))])
  | .stop =>
    let (acceptor, effects) := acceptor.stopFor task
    (acceptor, effects ++ [.done task .stopped])

/-- A turn of a start whose socket is bound or not to be had. -/
def bound (task : Role) (result : Except Failure Unit) (acceptor : Acceptor Role) : AcceptorTurn :=
  match acceptor.starts.lookup task with
  | none => (acceptor, [])
  | some start =>
    let (acceptor, ending) := (acceptor.forgetStart task).endStart start result
    (acceptor,
      match ending with
      | .failed failure => [.done task (.started (.error failure))]
      | .unwanted socket failure =>
        [.order task (.close socket), .done task (.started (.error failure))]
      | .installed socket => [.ready (.loop socket), .done task (.started (.ok ()))])

/-- A loop accepts the next connection if it goes on. -/
def acceptNext (socket : Nat) (acceptor : Acceptor Role) : AcceptorTurn :=
  if acceptor.goesOn socket then (acceptor, [.order (.loop socket) (.accept socket)])
  else (acceptor.endLoop socket, [])

/-- A turn of a loop that waited for a connection. A loop that was stopped meanwhile takes none. -/
def accepted (socket : Nat) (result : Except Failure Address) (acceptor : Acceptor Role) :
    AcceptorTurn :=
  if acceptor.goesOn socket then
    match result with
    | .ok remote => (acceptor, [.order (.loop socket) (.handOver remote)])
    | .error failure =>
      if isReset failure then acceptor.acceptNext socket else (acceptor.endLoop socket, [])
  else (acceptor.endLoop socket, [])

/-- A turn of a loop that handed a connection over. -/
def handedOver (socket : Nat) (stops : Bool) (acceptor : Acceptor Role) : AcceptorTurn :=
  let (acceptor, effects) :=
    if stops then acceptor.stopFor (.loop socket) else (acceptor, [])
  let (acceptor, others) := acceptor.acceptNext socket
  (acceptor, effects ++ others)

/-- A turn of a loop that begins or was stopped. -/
def resumeLoop (socket : Nat) (acceptor : Acceptor Role) : AcceptorTurn :=
  match acceptor.loop? socket with
  | none => (acceptor, [])
  | some loop =>
    if loop.stopped then (acceptor.endLoop socket, [])
    else if loop.begun then (acceptor, [])
    else (acceptor.beginLoop socket).acceptNext socket

/-- The acceptor as a component over its sockets. -/
def component : Component (Acceptor Role) Role Call Order Answer Result where
  start _ task call acceptor := acceptor.begin task call
  resume _ task acceptor :=
    match task with
    | .caller _ => (acceptor, [])
    | .loop socket => acceptor.resumeLoop socket
  answer _ task answer acceptor :=
    match task, answer with
    | .caller _, .bound result => acceptor.bound task result
    | .loop socket, .accepted result => acceptor.accepted socket result
    | .loop socket, .handedOver stops => acceptor.handedOver socket stops
    | _, _ => (acceptor, [])
  abandon task acceptor := (acceptor.forgetStart task, [])

end Acceptor

end ReliableTransport
