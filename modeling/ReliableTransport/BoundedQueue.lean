import ReliableTransport.Defect
import ReliableTransport.Failure
import ReliableTransport.Memory
import ReliableTransport.Schedule.Component
import ReliableTransport.Signal
/-!
This module holds bounded queues. Adding to a full queue and taking from an empty one wait, but no
longer than a timeout. A queue is looked at before a call waits, so a call without patience can
still succeed.
-/

namespace ReliableTransport

namespace BoundedQueue

/-- What a waiting call wants. -/
inductive Demand (Item : Type) where
  | push (item : Item)
  | pop
  deriving Repr, DecidableEq

/-- How a call ended. -/
inductive Outcome (Item : Type) where
  | pushed (item : Item)
  | popped (item : Item)
  | timedOut (failure : Failure)
  /-- There was no room, and the item goes back to the caller. -/
  | refused (item : Item)
  /-- There was no item. -/
  | nothing
  deriving Repr, DecidableEq

structure Waiter (Item Task : Type) where
  task : Task
  demand : Demand Item
  /-- How long the call waits, in milliseconds. -/
  timeout : Nat
  /-- The instant at which the call gives up. -/
  deadline : Nat
  deriving Repr, DecidableEq

end BoundedQueue

open BoundedQueue in
structure BoundedQueue (Item Task : Type) where
  capacity : Nat
  /-- The oldest item comes first. -/
  items : List Item := []
  /-- Told of each item that was added. -/
  notEmpty : Signal Task := {}
  /-- Told of each item that was taken. -/
  notFull : Signal Task := {}
  waiters : List (Waiter Item Task) := []

namespace BoundedQueue

variable {Item Task : Type} [DecidableEq Task]

/-- A queue for items of a size in bytes. It has room for an element at least, and reserves all its
room at once. -/
def create (capacity itemSize : Nat) : Except Defect (BoundedQueue Item Task) :=
  if capacity = 0 then .error .noRoom
  else if Memory.hasRoom capacity itemSize then .ok { capacity }
  else .error .noMemory

/-- What a look at the queue led to: the tasks that it woke, and the end of the call if it ended. -/
structure Look (Item Task : Type) where
  queue : BoundedQueue Item Task
  woken : List Task
  outcome : Option (Outcome Item)

/-- Adds an item if there is room. -/
def push? (queue : BoundedQueue Item Task) (item : Item) :
    Option (BoundedQueue Item Task × List Task) :=
  if queue.items.length < queue.capacity then
    let (notEmpty, woken) := queue.notEmpty.notify
    some ({ queue with items := queue.items ++ [item], notEmpty }, woken.toList)
  else none

/-- Takes the oldest item if there is one. -/
def pop? (queue : BoundedQueue Item Task) : Option (Item × BoundedQueue Item Task × List Task) :=
  match queue.items with
  | [] => none
  | item :: items =>
    let (notFull, woken) := queue.notFull.notify
    some (item, { queue with items, notFull }, woken.toList)

/-- Meets a demand if the queue allows it now. -/
def meet? (queue : BoundedQueue Item Task) :
    Demand Item → Option (BoundedQueue Item Task × List Task × Outcome Item)
  | .push item => (queue.push? item).map fun (queue, woken) => (queue, woken, .pushed item)
  | .pop => queue.pop?.map fun (item, queue, woken) => (queue, woken, .popped item)

/-- The signal that a demand waits for. -/
def signal (queue : BoundedQueue Item Task) : Demand Item → Signal Task
  | .push _ => queue.notFull
  | .pop => queue.notEmpty

def withSignal (queue : BoundedQueue Item Task) (demand : Demand Item) (signal : Signal Task) :
    BoundedQueue Item Task :=
  match demand with
  | .push _ => { queue with notFull := signal }
  | .pop => { queue with notEmpty := signal }

/-- The failure of a call that waited for too long. -/
def timeoutFailure (waiter : Waiter Item Task) : Failure :=
  .timeout (.ofMillis waiter.timeout)
    (match waiter.demand with
    | .push _ => "enqueue"
    | .pop => "dequeue")

/-- Takes a waiter out of the queue. A wake-up that it did not use goes to the next one. -/
def leave (queue : BoundedQueue Item Task) (waiter : Waiter Item Task) :
    BoundedQueue Item Task × List Task :=
  let (signal, woken) := (queue.signal waiter.demand).leave waiter.task
  ({ queue.withSignal waiter.demand signal with
    waiters := queue.waiters.filter fun other => other.task != waiter.task }, woken.toList)

/-- Waits for the demand's signal. A permit that the signal kept is used up by the look that just
found nothing: nothing can change between that look and the next one. -/
def enroll (queue : BoundedQueue Item Task) (waiter : Waiter Item Task) :
    BoundedQueue Item Task :=
  let (signal, _) := (queue.signal waiter.demand).takePermit
  { queue.withSignal waiter.demand (signal.enroll waiter.task) with
    waiters := queue.waiters ++ [waiter] }

/-- Gives up a wait whose deadline has come. -/
def expire (now : Nat) (waiter : Waiter Item Task) (queue : BoundedQueue Item Task) :
    Look Item Task :=
  if waiter.deadline ≤ now then
    let (queue, woken) := queue.leave waiter
    { queue, woken, outcome := some (.timedOut (timeoutFailure waiter)) }
  else { queue, woken := [], outcome := none }

/-- Looks at the queue, and waits if it does not allow the demand. -/
def look (now : Nat) (waiter : Waiter Item Task) (queue : BoundedQueue Item Task) :
    Look Item Task :=
  match queue.meet? waiter.demand with
  | some (queue, woken, outcome) => { queue, woken, outcome := some outcome }
  | none => (queue.enroll waiter).expire now waiter

/-- The first look of a call. -/
def start (now : Nat) (task : Task) (demand : Demand Item) (timeout : Nat)
    (queue : BoundedQueue Item Task) : Look Item Task :=
  queue.look now { task, demand, timeout, deadline := now + timeout }

/-- The waiting call of a task. -/
def waiter? (queue : BoundedQueue Item Task) (task : Task) : Option (Waiter Item Task) :=
  queue.waiters.find? fun waiter => waiter.task = task

/-- A turn of a waiting call. A wake-up counts before the deadline. A woken call that finds its
item or room gone waits again behind all others, with the deadline that it had. -/
def resume (now : Nat) (task : Task) (queue : BoundedQueue Item Task) : Look Item Task :=
  match queue.waiter? task with
  | none => { queue, woken := [], outcome := none }
  | some waiter =>
    let signal := queue.signal waiter.demand
    if task ∈ signal.woken then
      { queue.withSignal waiter.demand (signal.receive task) with
        waiters := queue.waiters.filter fun other => other.task != task }.look now waiter
    else queue.expire now waiter

/-- Gives a waiting call up. -/
def abandon (task : Task) (queue : BoundedQueue Item Task) : BoundedQueue Item Task × List Task :=
  match queue.waiter? task with
  | none => (queue, [])
  | some waiter => queue.leave waiter

/-- The calls on a queue. Timeouts are in milliseconds. -/
inductive Call (Item : Type) where
  | enqueue (item : Item) (timeout : Nat)
  | dequeue (timeout : Nat)
  | tryEnqueue (item : Item)
  | tryDequeue

/-- What a look means to the schedule. A call that goes on waiting needs an alarm at its
deadline. -/
def Look.turn (task : Task) (look : Look Item Task) :
    Turn (BoundedQueue Item Task) Task Empty (Outcome Item) :=
  let woken := look.woken.map Effect.ready
  match look.outcome with
  | some outcome => (look.queue, woken ++ [.done task outcome])
  | none =>
    match look.queue.waiter? task with
    | some waiter => (look.queue, woken ++ [.alarm task waiter.deadline])
    | none => (look.queue, woken)

def begin (now : Nat) (task : Task) (call : Call Item) (queue : BoundedQueue Item Task) :
    Turn (BoundedQueue Item Task) Task Empty (Outcome Item) :=
  match call with
  | .enqueue item timeout => (queue.start now task (.push item) timeout).turn task
  | .dequeue timeout => (queue.start now task .pop timeout).turn task
  | .tryEnqueue item =>
    match queue.push? item with
    | some (queue, woken) => (queue, woken.map .ready ++ [.done task (.pushed item)])
    | none => (queue, [.done task (.refused item)])
  | .tryDequeue =>
    match queue.pop? with
    | some (item, queue, woken) => (queue, woken.map .ready ++ [.done task (.popped item)])
    | none => (queue, [.done task .nothing])

/-- The queue as a component. It asks the outside for nothing. -/
def component : Component (BoundedQueue Item Task) Task (Call Item) Empty Empty (Outcome Item) where
  start := begin
  resume now task queue := (queue.resume now task).turn task
  answer _ _ nothing _ := nothing.elim
  abandon task queue :=
    let (queue, woken) := queue.abandon task
    (queue, woken.map .ready)

end BoundedQueue

end ReliableTransport
