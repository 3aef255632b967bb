import ReliableTransport.Failure
/-!
This module holds the gates through which streams come in. A gate gives each connection to the task
that has waited longest for one, and keeps it if nobody waits. Closing a gate sends everyone away
who waits, and everyone who comes later.
-/

namespace ReliableTransport

structure Gate (Task Connection : Type) where
  isOpen : Bool := true
  /-- The connections that nobody took yet. -/
  backlog : List Connection := []
  /-- The tasks that wait for a connection. -/
  waiting : List Task := []

namespace Gate

variable {Task Connection : Type}

/-- Why nobody is let in any more. -/
def closedFailure : Failure := .ioText .notConnected "listen socket is closed"

/-- Why a task that waited is sent away. -/
def closedMeanwhile : Failure := .ioText .notConnected "listen socket was closed"

/-- Asks for a connection. Without an answer the task waits. -/
def accept (gate : Gate Task Connection) (task : Task) :
    Gate Task Connection × Option (Except Failure Connection) :=
  if gate.isOpen then
    match gate.backlog with
    | [] => ({ gate with waiting := gate.waiting ++ [task] }, none)
    | connection :: backlog => ({ gate with backlog }, some (.ok connection))
  else (gate, some (.error closedFailure))

/-- A connection comes in, and goes to a task if one waits. -/
def arrive (gate : Gate Task Connection) (connection : Connection) :
    Gate Task Connection × Option Task :=
  match gate.waiting with
  | [] => ({ gate with backlog := gate.backlog ++ [connection] }, none)
  | task :: waiting => ({ gate with waiting }, some task)

/-- Closes the gate and says which tasks are sent away. -/
def close (gate : Gate Task Connection) : Gate Task Connection × List Task :=
  ({ gate with isOpen := false, backlog := [], waiting := [] }, gate.waiting)

/-- Whether the gate has an address. -/
def check (gate : Gate Task Connection) : Except Failure Unit :=
  if gate.isOpen then .ok () else .error closedFailure

end Gate

end ReliableTransport
