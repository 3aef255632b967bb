import ReliableTransport.BoundedQueue
import ReliableTransport.Rehearsal.Session
/-!
This module runs a bounded queue of numbers through a list of steps.
-/

namespace ReliableTransport.Rehearsal.Queues

open BoundedQueue (Call component create)

structure Step where
  directive : Directive (Call Int)
  /-- The other tasks run after the step. -/
  settles : Bool

structure Report where
  answer : Reply (BoundedQueue.Outcome Int)
  length : Nat
  capacity : Nat
  now : Nat
  ended : List (Ended (BoundedQueue.Outcome Int))

/-- A queue of numbers in a world that has nothing to answer. -/
abbrev Stage :=
  Session (BoundedQueue Int Nat) Nat (Call Int) Empty Empty (BoundedQueue.Outcome Int) Unit

def stage (queue : BoundedQueue Int Nat) (patience : Nat) : Stage where
  world :=
    { component := component
      outside := { perform := fun _ order _ => order.elim }
      patience
      state := queue
      script := () }
  task := id

def perform (stage : Stage) (step : Step) : Stage × Report :=
  let (stage, answer) := stage.perform step.directive
  let stage := if step.settles then stage.settle else stage
  let (stage, ended) := stage.collect
  (stage,
    { answer
      length := stage.world.state.items.length
      capacity := stage.world.state.capacity
      now := stage.world.agenda.now
      ended })

def runFrom (stage : Stage) : List Step → List Report
  | [] => []
  | step :: rest =>
    let (stage, report) := perform stage step
    report :: runFrom stage rest

/-- The bytes of a number. -/
def numberSize : Nat := 8

/-- Every call begins once and is woken or reaches its deadline a few times for each other call,
so the square of their number bounds the turns. -/
def run (capacity : Nat) (steps : List Step) : Except Defect (List Report) := do
  let queue ← create capacity numberSize
  pure (runFrom (stage queue (16 + 4 * steps.length * steps.length)) steps)

end ReliableTransport.Rehearsal.Queues
