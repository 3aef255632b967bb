import ReliableTransport.BoundedQueue
import ReliableTransport.Bytes
/-!
This module holds pools of senders. A pool keeps a fixed number of connected senders. A send takes
a sender out of the pool, waits for one if it has to, and puts it back when it is over, however it
is over. A send that fails because its connection broke lets its sender connect again, once.
Closing a pool takes its senders out and closes them one by one.
-/

namespace ReliableTransport

namespace Pool

/-- The calls on a pool. -/
inductive Call where
  /-- Makes and connects the senders of a new pool. Nobody uses the pool before that is over. -/
  | fill
  | send (data : Bytes)
  | close
  deriving Repr, DecidableEq

/-- What a pool asks of the outside. Senders are numbered in the order in which they are made. -/
inductive Order where
  | create (sender : Nat)
  | connect (sender : Nat)
  | send (sender : Nat) (data : Bytes)
  | close (sender : Nat)
  deriving Repr, DecidableEq

inductive Answer where
  | created (result : Except Failure Unit)
  | connected (result : Except Failure Unit)
  | sent (result : Except Failure Nat)
  | closed

/-- What a call answers. -/
inductive Result where
  | filled (result : Except Failure Unit)
  | sent (result : Except Failure Nat)
  | closed (result : Except Failure Unit)

/-- The point at which a call waits. -/
inductive Stage where
  /-- A new sender is made. -/
  | creating (sender : Nat)
  /-- A new sender connects. -/
  | joining (sender : Nat)
  /-- The send waits for a sender. -/
  | waiting (data : Bytes)
  /-- The send has a sender, which sends. -/
  | sending (sender : Nat)
  /-- The send has failed, and its sender connects again. -/
  | reconnecting (sender : Nat) (failure : Failure)
  /-- The close waits for a sender. -/
  | draining
  /-- The close has a sender, which is being closed. -/
  | closing (sender : Nat)
  deriving Repr, DecidableEq

/-- The sender that a call has for itself. -/
def Stage.sender? : Stage → Option Nat
  | creating _ | waiting _ | draining => none
  | joining sender | sending sender | reconnecting sender _ | closing sender => some sender

end Pool

open Pool in
structure Pool (Task : Type) where
  /-- The senders that are free. -/
  queue : BoundedQueue Nat Task
  /-- How many senders the pool owns, free or not. -/
  live : Nat := 0
  /-- How long a call waits for a sender, in milliseconds. -/
  timeout : Nat
  closed : Bool := false
  calls : List (Task × Stage) := []

namespace Pool

variable {Task : Type} [DecidableEq Task]

/-- The bytes that a free sender takes. -/
def senderSize : Nat := 128

/-- A pool without senders. -/
def create (size timeout : Nat) : Except Defect (Pool Task) := do
  let queue ← BoundedQueue.create size senderSize
  pure { queue, timeout }

/-- How many senders are free. -/
def available (pool : Pool Task) : Nat := pool.queue.items.length

def capacity (pool : Pool Task) : Nat := pool.queue.capacity

abbrev PoolTurn (Task : Type) := Turn (Pool Task) Task Order Result

/-- Moves a call to a point at which it waits. -/
def park (pool : Pool Task) (task : Task) (stage : Stage) : Pool Task :=
  { pool with calls := (pool.calls.filter fun call => call.1 != task) ++ [(task, stage)] }

def remove (pool : Pool Task) (task : Task) : Pool Task :=
  { pool with calls := pool.calls.filter fun call => call.1 != task }

/-- Ends a call. -/
def finish (pool : Pool Task) (task : Task) (result : Result) : PoolTurn Task :=
  (pool.remove task, [.done task result])

/-- Puts effects in front of those of a turn. -/
def after (turn : PoolTurn Task) (effects : List (Effect Task Order Result)) : PoolTurn Task :=
  (turn.1, effects ++ turn.2)

/-- Puts a sender back behind the free ones. The pool has room for each of its senders. A sender
that found none would be lost. -/
def giveBack (pool : Pool Task) (sender : Nat) :
    Pool Task × List (Effect Task Order Result) :=
  match pool.queue.push? sender with
  | some (queue, woken) => ({ pool with queue }, woken.map .ready)
  | none => ({ pool with live := pool.live - 1 }, [])

/-- Ends a send: its sender goes back to the pool first. -/
def finishSend (pool : Pool Task) (task : Task) (sender : Nat) (result : Except Failure Nat) :
    PoolTurn Task :=
  let (pool, woken) := pool.giveBack sender
  after (pool.finish task (.sent result)) woken

/-- What a look at the free senders means for a call: the call has a sender, goes on waiting until
its deadline, or has waited for too long. -/
def afterLook (task : Task) (waiting : Stage) (given : Nat → Pool Task → PoolTurn Task)
    (late : Failure → Result) (look : BoundedQueue.Look Nat Task) (pool : Pool Task) :
    PoolTurn Task :=
  let pool := { pool with queue := look.queue }
  after
    (match look.outcome with
    | some (.popped sender) => given sender pool
    | some (.timedOut failure) => pool.finish task (late failure)
    | _ =>
      (pool.park task waiting,
        (look.queue.waiter? task).toList.map fun waiter => .alarm task waiter.deadline))
    (look.woken.map .ready)

/-- A send that looked for a sender. -/
def sendAfter (task : Task) (data : Bytes) (look : BoundedQueue.Look Nat Task)
    (pool : Pool Task) : PoolTurn Task :=
  pool.afterLook task (.waiting data)
    (fun sender pool => (pool.park task (.sending sender), [.order task (.send sender data)]))
    (fun failure => .sent (.error failure)) look

/-- A close that looked for a sender. -/
def closeAfter (task : Task) (look : BoundedQueue.Look Nat Task) (pool : Pool Task) :
    PoolTurn Task :=
  pool.afterLook task .draining
    (fun sender pool => (pool.park task (.closing sender), [.order task (.close sender)]))
    (fun failure => .closed (.error failure)) look

/-- A close is over when the pool owns no sender any more, and takes the next one otherwise. -/
def drain (now : Nat) (task : Task) (pool : Pool Task) : PoolTurn Task :=
  if pool.live = 0 then pool.finish task (.closed (.ok ()))
  else pool.closeAfter task (pool.queue.start now task .pop pool.timeout)

/-- Makes the next sender of a new pool. -/
def fillNext (pool : Pool Task) (task : Task) : PoolTurn Task :=
  if pool.live < pool.capacity then
    (pool.park task (.creating pool.live), [.order task (.create pool.live)])
  else pool.finish task (.filled (.ok ()))

/-- Takes a new sender in. -/
def takeIn (pool : Pool Task) (task : Task) (sender : Nat) : PoolTurn Task :=
  match pool.queue.push? sender with
  | some (queue, woken) =>
    after (fillNext { pool with queue, live := pool.live + 1 } task) (woken.map .ready)
  | none =>
    pool.finish task (.filled (.error (.timeout (.ofMillis pool.timeout) "enqueue")))

def begin (now : Nat) (task : Task) (call : Call) (pool : Pool Task) : PoolTurn Task :=
  match call with
  | .fill => pool.fillNext task
  | .send data =>
    if pool.closed then pool.finish task (.sent (.error (.invalidOperation .poolClosed)))
    else pool.sendAfter task data (pool.queue.start now task .pop pool.timeout)
  | .close => { pool with closed := true }.drain now task

/-- A turn of a call that waits for a sender. -/
def resume (now : Nat) (task : Task) (pool : Pool Task) : PoolTurn Task :=
  match pool.calls.lookup task with
  | some (.waiting data) => pool.sendAfter task data (pool.queue.resume now task)
  | some .draining => pool.closeAfter task (pool.queue.resume now task)
  | _ => (pool, [])

/-- A turn of a call whose order was answered. -/
def answered (now : Nat) (task : Task) (answer : Answer) (pool : Pool Task) : PoolTurn Task :=
  match pool.calls.lookup task, answer with
  | some (.creating sender), .created (.ok _) =>
    (pool.park task (.joining sender), [.order task (.connect sender)])
  | some (.creating _), .created (.error failure) => pool.finish task (.filled (.error failure))
  | some (.joining sender), .connected (.ok _) => pool.takeIn task sender
  | some (.joining _), .connected (.error failure) => pool.finish task (.filled (.error failure))
  | some (.sending sender), .sent (.error failure) =>
    if failure.isTransient then
      (pool.park task (.reconnecting sender failure), [.order task (.connect sender)])
    else pool.finishSend task sender (.error failure)
  | some (.sending sender), .sent (.ok length) => pool.finishSend task sender (.ok length)
  | some (.reconnecting sender failure), .connected _ =>
    pool.finishSend task sender (.error failure)
  | some (.closing _), .closed => { pool with live := pool.live - 1 }.drain now task
  | _, _ => (pool, [])

/-- Gives a call up. A send puts its sender back. A close that has a sender keeps it from the
pool. -/
def abandon (task : Task) (pool : Pool Task) : PoolTurn Task :=
  match pool.calls.lookup task with
  | some (.waiting _) | some .draining =>
    let (queue, woken) := pool.queue.abandon task
    ({ pool with queue }.remove task, woken.map .ready)
  | some (.sending sender) | some (.reconnecting sender _) => (pool.remove task).giveBack sender
  | _ => (pool.remove task, [])

/-- The pool as a component over its senders. -/
def component : Component (Pool Task) Task Call Order Answer Result where
  start := begin
  resume := resume
  answer := answered
  abandon := abandon

end Pool

end ReliableTransport
