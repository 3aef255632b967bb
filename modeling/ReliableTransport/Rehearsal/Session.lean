import ReliableTransport.Schedule.World
/-!
This module holds sessions: a component in a scripted world whose calls are made one after the
other or in the background. Calls in the background have names, and a session tells which of them
ended since it was asked last.
-/

namespace ReliableTransport.Rehearsal

/-- What a session is told to do. -/
inductive Directive (Call : Type) where
  /-- Makes a call and waits for its result. -/
  | call (call : Call)
  /-- Makes a call in the background. -/
  | spawn (name : String) (call : Call)
  /-- Gives a call in the background up. -/
  | cancel (name : String)
  /-- Lets milliseconds pass. -/
  | sleep (millis : Nat)

/-- What a directive answers. -/
inductive Reply (Result : Type) where
  | nothing
  | result (result : Result)
  /-- Whether there was something to give up. -/
  | flag (value : Bool)

/-- A call in the background that is over, with the instant at which it ended. -/
structure Ended (Result : Type) where
  name : String
  instant : Nat
  result : Result

structure Session (State Task Call Order Answer Result Script : Type) where
  world : World State Task Call Order Answer Result Script
  /-- The task of the call with a number. -/
  task : Nat → Task
  /-- The number of the next call. -/
  next : Nat := 0
  /-- The calls in the background that were not reported as ended, and their names. -/
  names : List (String × Nat) := []
  /-- The names that were given to calls, the latest first. A name stands for the latest call that
  it was given to. -/
  given : List (String × Nat) := []

namespace Session

variable {State Task Call Order Answer Result Script : Type} [DecidableEq Task]

/-- Whether a call in the background goes on. -/
def isPending (session : Session State Task Call Order Answer Result Script) (number : Nat) :
    Bool :=
  (session.names.any fun entry => entry.2 = number) &&
    (session.world.result? (session.task number)).isNone

def perform (session : Session State Task Call Order Answer Result Script) :
    Directive Call → Session State Task Call Order Answer Result Script × Reply Result
  | .call call =>
    let (world, result) := session.world.call (session.task session.next) call
    ({ session with world, next := session.next + 1 }, result.elim .nothing .result)
  | .spawn name call =>
    ({ session with
        world := session.world.spawn (session.task session.next) call
        next := session.next + 1
        names := (name, session.next) :: session.names
        given := (name, session.next) :: session.given }, .nothing)
  | .cancel name =>
    match (session.given.lookup name).filter session.isPending with
    | none => (session, .flag false)
    | some number =>
      ({ session with
          world := session.world.abandon (session.task number)
          names := session.names.filter fun entry => entry.2 != number }, .flag true)
  | .sleep millis => ({ session with world := session.world.sleep millis }, .nothing)

def settle (session : Session State Task Call Order Answer Result Script) :
    Session State Task Call Order Answer Result Script :=
  { session with world := session.world.settle }

/-- The calls in the background that ended since the last time, by instant and name. -/
def collect (session : Session State Task Call Order Answer Result Script) :
    Session State Task Call Order Answer Result Script × List (Ended Result) :=
  let ended := session.world.finished.filterMap fun entry =>
    (session.names.find? fun name => session.task name.2 = entry.1).map fun name =>
      { name := name.1, instant := entry.2.1, result := entry.2.2 }
  ({ session with
      world := { session.world with finished := [] }
      names := session.names.filter fun name =>
        session.world.finished.all fun entry => session.task name.2 != entry.1 },
    ended.mergeSort fun left right =>
      left.instant < right.instant ||
        (left.instant == right.instant && decide (left.name ≤ right.name)))

end Session

end ReliableTransport.Rehearsal
