import ReliableTransport.Mailbox
import ReliableTransport.Schedule.World
/-!
This module runs a mailbox of numbers through a list of steps. Its passes are noted when they
begin. They take a fixed time, and a pass with a certain number in it breaks down.
-/

namespace ReliableTransport.Rehearsal.Mailboxes

open Mailbox

inductive Step where
  | call (call : Call Int)
  | name
  /-- Lets go of the mailbox, which closes it. -/
  | drop
  | settle
  | sleep (millis : Nat)

/-- A pass with the instant at which it began. -/
structure Pass where
  instant : Nat
  items : List Int

/-- How passes go, and those that began. -/
structure Script where
  delay : Nat
  breaksOn : Option Int
  passes : List Pass := []

def outside : Outside Script (List Int) PassEnd where
  perform now items script :=
    let noted := { script with passes := script.passes ++ [{ instant := now, items }] }
    if script.breaksOn.any fun item => items.contains item then (noted, some (0, .brokeDown))
    else (noted, some (script.delay, .complete))

inductive Answer where
  | nothing
  | taken (flags : List Bool)
  | name (name : String)

structure Report where
  answer : Answer
  /-- Nothing is known of a mailbox that was let go of. -/
  closed : Option Bool
  now : Nat
  passes : List Pass

structure Stage where
  world : World (Mailbox Int) Role (Call Int) (List Int) PassEnd Reply Script
  name : String
  present : Bool := true
  next : Nat := 0

namespace Stage

def call (stage : Stage) (call : Call Int) : Stage × Answer :=
  let (world, reply) := stage.world.call (.caller stage.next) call
  ({ stage with world, next := stage.next + 1 },
    match reply with
    | some (.taken flags) => .taken flags
    | _ => .nothing)

def perform (stage : Stage) : Step → Stage × Answer
  | .call call => if stage.present then stage.call call else (stage, .nothing)
  | .name => (stage, if stage.present then .name stage.name else .nothing)
  | .drop =>
    if stage.present then ({ (stage.call .close).1 with present := false }, .nothing)
    else (stage, .nothing)
  | .settle => ({ stage with world := stage.world.settle }, .nothing)
  | .sleep millis => ({ stage with world := (stage.world.sleep millis).settle }, .nothing)

def report (stage : Stage) (answer : Answer) : Stage × Report :=
  ({ stage with world := { stage.world with script := { stage.world.script with passes := [] } } },
    { answer
      closed := if stage.present then some stage.world.state.closed else none
      now := stage.world.agenda.now
      passes := stage.world.script.passes })

def run (stage : Stage) : List Step → List Report
  | [] => []
  | step :: rest =>
    let (stage, answer) := stage.perform step
    let (stage, report) := stage.report answer
    report :: stage.run rest

end Stage

/-- The number of items that a step puts in. -/
def Step.weight : Step → Nat
  | .call (.push items) => items.length
  | _ => 0

/-- The bytes of a number. -/
def numberSize : Nat := 8

/-- Runs the steps on a new mailbox. Every item has a part in one pass, and a pass takes two turns,
so the items and the steps bound the turns. -/
def run (name : String) (limit : Nat) (script : Script) (steps : List Step) :
    Except Defect (List Report) := do
  let state ← create limit numberSize
  let stage : Stage :=
    { name
      world :=
        { component, outside, state, script
          patience := 16 + 4 * steps.foldl (fun turns step => turns + 1 + step.weight) 0
          agenda := { ready := [some .worker] } } }
  pure (stage.run steps)

end ReliableTransport.Rehearsal.Mailboxes
