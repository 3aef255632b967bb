/-!
This module holds signals. A signal wakes one waiter for each notification, the one that has
waited longest first. A notification that finds nobody waiting is kept, but never more than one.
-/

namespace ReliableTransport

structure Signal (Task : Type) where
  /-- The waiters that were not woken, the one that has waited longest first. -/
  waiting : List Task := []
  /-- The waiters that were woken and did not run yet. -/
  woken : List Task := []
  /-- A notification is kept for the next waiter. -/
  permit : Bool := false
  deriving Repr, DecidableEq

namespace Signal

variable {Task : Type} [DecidableEq Task]

/-- Wakes the oldest waiter and says which one it was. -/
def notify (signal : Signal Task) : Signal Task × Option Task :=
  match signal.waiting with
  | [] => ({ signal with permit := true }, none)
  | task :: waiting => ({ signal with waiting, woken := signal.woken ++ [task] }, some task)

/-- Whether a waiter would be woken at once. -/
def takePermit (signal : Signal Task) : Signal Task × Bool :=
  ({ signal with permit := false }, signal.permit)

/-- Begins to wait behind all others. -/
def enroll (signal : Signal Task) (task : Task) : Signal Task :=
  { signal with waiting := signal.waiting ++ [task] }

/-- A woken waiter runs. -/
def receive (signal : Signal Task) (task : Task) : Signal Task :=
  { signal with woken := signal.woken.erase task }

/-- A waiter gives up. The notification of a woken waiter goes to the next one. -/
def leave (signal : Signal Task) (task : Task) : Signal Task × Option Task :=
  if task ∈ signal.woken then (signal.receive task).notify
  else ({ signal with waiting := signal.waiting.erase task }, none)

end Signal

end ReliableTransport
