import ReliableTransport.Schedule.Agenda
import ReliableTransport.Schedule.Component
/-!
This module runs a component in a scripted world. The world answers the component's orders after
the delays that its script gives, moves the clock when all tasks wait, and keeps the results of
the calls that are over. Whoever observes the world sleeps on its agenda too, as the task without
a name.
-/

namespace ReliableTransport

/-- An outside that follows a script. -/
structure Outside (Script Order Answer : Type) where
  /-- What becomes of an order at an instant: the script that is left, and the answer with its delay
  if there will be one. -/
  perform : Nat → Order → Script → Script × Option (Nat × Answer)
  /-- What the outside notes when an answer arrives. -/
  arrive : Answer → Script → Script := fun _ script => script

structure World (State Task Call Order Answer Result Script : Type) where
  component : Component State Task Call Order Answer Result
  outside : Outside Script Order Answer
  /-- How many turns the tasks get before the world counts as restless. -/
  patience : Nat
  state : State
  script : Script
  agenda : Agenda (Option Task) := {}
  /-- The calls that had no turn yet. -/
  unbegun : List (Task × Call) := []
  /-- The answers on their way, each with the instant at which it arrives. -/
  answers : List (Task × Nat × Answer) := []
  /-- The calls that were given up and still have to let go of what they hold. -/
  givenUp : List Task := []
  /-- The results of the calls that are over, each with the instant at which it came. -/
  finished : List (Task × Nat × Result) := []

namespace World

variable {State Task Call Order Answer Result Script : Type} [DecidableEq Task]

/-- Carries one effect out. An answer without delay lets its task go on at once. -/
def carryOut (world : World State Task Call Order Answer Result Script) :
    Effect Task Order Result → World State Task Call Order Answer Result Script
  | .ready task => { world with agenda := world.agenda.wake (some task) }
  | .aside task => { world with agenda := world.agenda.stepAside (some task) }
  | .alarm task due => { world with agenda := world.agenda.setAlarm due (some task) }
  | .order task what =>
    let now := world.agenda.now
    match world.outside.perform now what world.script with
    | (script, none) => { world with script }
    | (script, some (delay, answer)) =>
      { world with
        script
        answers := world.answers ++ [(task, now + delay, answer)]
        agenda :=
          if delay = 0 then world.agenda.goOn (some task)
          else world.agenda.setAlarm (now + delay) (some task) }
  | .done task result =>
    { world with
      finished := world.finished ++ [(task, world.agenda.now, result)]
      agenda := world.agenda.forget (some task) }

/-- Takes over what a turn did. -/
def take (world : World State Task Call Order Answer Result Script)
    (turn : Turn State Task Order Result) : World State Task Call Order Answer Result Script :=
  turn.2.foldl carryOut { world with state := turn.1 }

/-- Whether an answer has arrived for a task. -/
def arrived (world : World State Task Call Order Answer Result Script) (task : Task)
    (entry : Task × Nat × Answer) : Bool :=
  entry.1 = task && entry.2.1 ≤ world.agenda.now

/-- Ends a call where it waits. A call without a turn yet leaves no trace. -/
def drop (world : World State Task Call Order Answer Result Script) (task : Task) :
    World State Task Call Order Answer Result Script :=
  let rest :=
    { world with
      unbegun := world.unbegun.filter fun entry => entry.1 != task
      answers := world.answers.filter fun entry => entry.1 != task
      givenUp := world.givenUp.filter (· != task)
      agenda := world.agenda.forget (some task) }
  if world.unbegun.any fun entry => entry.1 = task then rest
  else rest.take (world.component.abandon task world.state)

/-- Lets a call that was not given up go on. -/
def goOn (world : World State Task Call Order Answer Result Script) (task : Task) :
    World State Task Call Order Answer Result Script :=
  let now := world.agenda.now
  match world.unbegun.find? fun entry => entry.1 = task with
  | some (_, call) =>
    { world with unbegun := world.unbegun.filter fun entry => entry.1 != task }.take
      (world.component.start now task call world.state)
  | none =>
    match world.answers.find? (world.arrived task) with
    | some (_, _, answer) =>
      { world with
        script := world.outside.arrive answer world.script
        answers := world.answers.filter fun entry => entry.1 != task }.take
        (world.component.answer now task answer world.state)
    | none => world.take (world.component.resume now task world.state)

/-- Gives a task a turn. A call that was given up ends in it. The observer does nothing. -/
def turn (world : World State Task Call Order Answer Result Script) :
    Option Task → World State Task Call Order Answer Result Script
  | none => world
  | some task => if task ∈ world.givenUp then world.drop task else world.goOn task

/-- Lets the tasks run until each waits. The clock stands still. -/
def settleFor : Nat → World State Task Call Order Answer Result Script →
    World State Task Call Order Answer Result Script
  | 0, world => world
  | patience + 1, world =>
    match world.agenda.next? with
    | none => world
    | some (task, agenda) => ({ world with agenda }.turn task).settleFor patience

def settle (world : World State Task Call Order Answer Result Script) :
    World State Task Call Order Answer Result Script :=
  world.settleFor world.patience

/-- Lets tasks run and time pass until it is the observer's turn. -/
def sleepFor : Nat → World State Task Call Order Answer Result Script →
    World State Task Call Order Answer Result Script
  | 0, world => world
  | patience + 1, world =>
    match world.agenda.next? with
    | some (none, agenda) => { world with agenda }
    | some (some task, agenda) => ({ world with agenda }.turn (some task)).sleepFor patience
    | none =>
      match world.agenda.earliest? with
      | some earliest =>
        { world with agenda := world.agenda.moveTo earliest }.sleepFor patience
      | none => world

/-- Lets a number of milliseconds pass for the observer. Nobody has a turn in no time. -/
def sleep (world : World State Task Call Order Answer Result Script) (millis : Nat) :
    World State Task Call Order Answer Result Script :=
  if millis = 0 then world
  else
    { world with agenda := world.agenda.setAlarm (world.agenda.now + millis) none }.sleepFor
      world.patience

/-- The result of a call that is over. -/
def result? (world : World State Task Call Order Answer Result Script) (task : Task) :
    Option Result :=
  (world.finished.find? fun entry => entry.1 = task).map fun entry => entry.2.2

/-- Lets tasks run and time pass until a call is over. -/
def awaitFor (task : Task) : Nat → World State Task Call Order Answer Result Script →
    World State Task Call Order Answer Result Script
  | 0, world => world
  | patience + 1, world =>
    if (world.result? task).isSome then world
    else
      match world.agenda.next? with
      | some (next, agenda) => awaitFor task patience ({ world with agenda }.turn next)
      | none =>
        match world.agenda.earliest? with
        | some earliest =>
          awaitFor task patience { world with agenda := world.agenda.moveTo earliest }
        | none => world

/-- Makes a call and waits until it is over. -/
def call (world : World State Task Call Order Answer Result Script) (task : Task) (call : Call) :
    World State Task Call Order Answer Result Script × Option Result :=
  let begun := world.take (world.component.start world.agenda.now task call world.state)
  let ended := begun.awaitFor task begun.patience
  ({ ended with finished := ended.finished.filter fun entry => entry.1 != task },
    ended.result? task)

/-- Puts a call on the agenda. It begins when its turn comes. -/
def spawn (world : World State Task Call Order Answer Result Script) (task : Task) (call : Call) :
    World State Task Call Order Answer Result Script :=
  { world with
    unbegun := world.unbegun ++ [(task, call)]
    agenda := world.agenda.wake (some task) }

/-- Gives a call up. It does nothing more, and lets go of what it holds when its turn comes. -/
def abandon (world : World State Task Call Order Answer Result Script) (task : Task) :
    World State Task Call Order Answer Result Script :=
  { world with
    givenUp := task :: world.givenUp
    agenda := world.agenda.wake (some task) }

end World

end ReliableTransport
