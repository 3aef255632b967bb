/-!
This module holds turnstiles. One task at a time is inside. The others wait in the order in which
they came, and a task that leaves lets the next one in.
-/

namespace ReliableTransport

structure Turnstile (Task : Type) where
  /-- The task that is inside. -/
  inside : Option Task := none
  /-- The tasks that wait, the one that came first in front. -/
  queue : List Task := []
  deriving Repr, DecidableEq

namespace Turnstile

variable {Task : Type} [DecidableEq Task]

/-- Goes in if nobody is inside, and waits otherwise. The answer says whether the task is inside. -/
def enter (turnstile : Turnstile Task) (task : Task) : Turnstile Task × Bool :=
  match turnstile.inside with
  | none => ({ turnstile with inside := some task }, true)
  | some _ => ({ turnstile with queue := turnstile.queue ++ [task] }, false)

/-- The task that is inside goes out, and the next one is let in. -/
def exit (turnstile : Turnstile Task) : Turnstile Task × Option Task :=
  match turnstile.queue with
  | [] => ({ inside := none, queue := [] }, none)
  | next :: queue => ({ inside := some next, queue }, some next)

/-- A task leaves, from inside or from the queue. -/
def leave (turnstile : Turnstile Task) (task : Task) : Turnstile Task × Option Task :=
  if turnstile.inside = some task then turnstile.exit
  else ({ turnstile with queue := turnstile.queue.erase task }, none)

end Turnstile

end ReliableTransport
