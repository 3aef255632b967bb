import ReliableTransport.Defect
import ReliableTransport.Memory
import ReliableTransport.Schedule.Component
/-!
This module holds mailboxes. Any number of callers put items in, and one worker takes them out in
passes: as many of the oldest items as a pass holds. A pass begins when the one before it is over.
A mailbox that was closed takes no further item, and its worker ends when it has taken the last.
The worker reserves the room for a pass when it begins, and breaks down if memory does not have it.
-/

namespace ReliableTransport

namespace Mailbox

/-- Who takes turns on a mailbox. -/
inductive Role where
  | worker
  | caller (number : Nat)
  deriving Repr, DecidableEq

/-- Where the worker is. -/
inductive Worker where
  /-- The worker waits for items, or had no turn yet. -/
  | waiting
  /-- The worker is busy with a pass. -/
  | busy
  /-- The mailbox was closed, and all items were taken. -/
  | ended
  /-- The worker broke down. The items that were left are lost. -/
  | broken
  deriving Repr, DecidableEq

end Mailbox

open Mailbox in
structure Mailbox (Item : Type) where
  /-- How many items a pass holds. -/
  limit : Nat
  limit_pos : 0 < limit
  /-- Memory has the room for a pass. -/
  hasRoom : Bool := true
  /-- The oldest item comes first. -/
  queue : List Item := []
  closed : Bool := false
  worker : Worker := .waiting
  /-- The right to wait for the worker's end is still to be had. It is given out once. -/
  joinable : Bool := true
  /-- The caller that waits for the worker's end. -/
  joiner : Option Role := none

namespace Mailbox

variable {Item : Type}

/-- A new mailbox for items of a size in bytes. -/
def create (limit itemSize : Nat) : Except Defect (Mailbox Item) :=
  if positive : 0 < limit then
    .ok { limit, limit_pos := positive, hasRoom := Memory.hasRoom limit itemSize }
  else .error .emptyPasses

/-- Whether the worker takes no further turn. -/
def isOver (mailbox : Mailbox Item) : Bool :=
  mailbox.worker == .ended || mailbox.worker == .broken

/-- Puts an item in and says whether it was taken. -/
def push (mailbox : Mailbox Item) (item : Item) : Mailbox Item × Bool :=
  if mailbox.closed || mailbox.isOver then (mailbox, false)
  else ({ mailbox with queue := mailbox.queue ++ [item] }, true)

/-- Puts items in one after the other. -/
def pushAll (mailbox : Mailbox Item) : List Item → Mailbox Item × List Bool
  | [] => (mailbox, [])
  | item :: rest =>
    let (mailbox, taken) := mailbox.push item
    let (mailbox, others) := mailbox.pushAll rest
    (mailbox, taken :: others)

def close (mailbox : Mailbox Item) : Mailbox Item := { mailbox with closed := true }

/-- The worker breaks down. -/
def breakDown (mailbox : Mailbox Item) : Mailbox Item :=
  { mailbox with queue := [], worker := .broken }

/-- Begins the next pass if there is an item. A worker that finds none ends in a closed mailbox. -/
def takePass (mailbox : Mailbox Item) : Mailbox Item × Option (List Item) :=
  if mailbox.worker ≠ .waiting then (mailbox, none)
  else if !mailbox.hasRoom then (mailbox.breakDown, none)
  else if mailbox.queue.isEmpty then
    (if mailbox.closed then { mailbox with worker := .ended } else mailbox, none)
  else
    ({ mailbox with queue := mailbox.queue.drop mailbox.limit, worker := .busy },
      some (mailbox.queue.take mailbox.limit))

/-- The pass is over. -/
def endPass (mailbox : Mailbox Item) : Mailbox Item := { mailbox with worker := .waiting }

/-- Closes the mailbox and waits for the worker's end. Only the first caller that asks waits, and
only if the worker is not over. The answer says whether the caller has to wait. -/
def join (mailbox : Mailbox Item) (caller : Role) : Mailbox Item × Bool :=
  let closed := mailbox.close
  if mailbox.joinable then
    if closed.isOver then ({ closed with joinable := false }, false)
    else ({ closed with joinable := false, joiner := some caller }, true)
  else (closed, false)

/-- A caller that waited for the worker's end gives up. Nobody else can wait for it then. -/
def unjoin (mailbox : Mailbox Item) (caller : Role) : Mailbox Item :=
  if mailbox.joiner = some caller then { mailbox with joiner := none } else mailbox

variable {Order Result : Type}

/-- Lets a worker that waits have a turn. -/
def wakeWorker (mailbox : Mailbox Item) : List (Effect Role Order Result) :=
  if mailbox.worker = .waiting then [.ready .worker] else []

/-- Lets the caller that waits for the worker's end have a turn once the worker is over. -/
def wakeJoiner (mailbox : Mailbox Item) : List (Effect Role Order Result) :=
  if mailbox.isOver then mailbox.joiner.toList.map .ready else []

/-- The calls on a mailbox. -/
inductive Call (Item : Type) where
  | push (items : List Item)
  | close
  | closeAndWait

/-- How a pass ended. -/
inductive PassEnd where
  | complete
  | brokeDown

/-- What a call on a mailbox answers. -/
inductive Reply where
  | taken (flags : List Bool)
  | closed

/-- A turn of the worker between two passes. The pass itself is left to the outside. -/
def work (mailbox : Mailbox Item) : Turn (Mailbox Item) Role (List Item) Reply :=
  match mailbox.takePass with
  | (mailbox, some items) => (mailbox, [.order .worker items])
  | (mailbox, none) => (mailbox, mailbox.wakeJoiner)

/-- The mailbox as a component whose passes are made outside. -/
def component : Component (Mailbox Item) Role (Call Item) (List Item) PassEnd Reply where
  start _ task call mailbox :=
    match call with
    | .push items =>
      let (mailbox, flags) := mailbox.pushAll items
      (mailbox, mailbox.wakeWorker ++ [.done task (.taken flags)])
    | .close =>
      let mailbox := mailbox.close
      (mailbox, mailbox.wakeWorker ++ [.done task .closed])
    | .closeAndWait =>
      let (mailbox, waits) := mailbox.join task
      (mailbox, mailbox.wakeWorker ++ if waits then [] else [.done task .closed])
  resume _ task mailbox :=
    match task with
    | .worker => mailbox.work
    | caller => (mailbox, if mailbox.isOver then [.done caller .closed] else [])
  answer _ _ answer mailbox :=
    match answer with
    | .complete => mailbox.endPass.work
    | .brokeDown =>
      let mailbox := mailbox.breakDown
      (mailbox, mailbox.wakeJoiner)
  abandon task mailbox := (mailbox.unjoin task, [])

end Mailbox

end ReliableTransport
