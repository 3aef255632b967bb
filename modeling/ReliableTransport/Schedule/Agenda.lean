/-!
This module holds the agenda of a schedule: a clock, the tasks that can run, and the alarms of
tasks that wait for an instant. Tasks run in the order in which they became able to run, except that
a task can step aside until no other can run. The clock stands still while a task can run.
-/

namespace ReliableTransport

/-- An instant is a number of milliseconds since the start. -/
structure Agenda (Task : Type) where
  now : Nat := 0
  /-- The tasks that can run, each once. -/
  ready : List Task := []
  /-- The tasks that let all of those run first. -/
  aside : List Task := []
  /-- The instants at which waiting tasks become able to run. -/
  alarms : List (Nat × Task) := []

namespace Agenda

variable {Task : Type} [DecidableEq Task]

/-- Lets a task run behind all others that can run. -/
def wake (agenda : Agenda Task) (task : Task) : Agenda Task :=
  if task ∈ agenda.ready then agenda else { agenda with ready := agenda.ready ++ [task] }

/-- Lets a task go on before all others. -/
def goOn (agenda : Agenda Task) (task : Task) : Agenda Task :=
  { agenda with ready := task :: agenda.ready.erase task }

/-- Lets a task run as soon as no other can. -/
def stepAside (agenda : Agenda Task) (task : Task) : Agenda Task :=
  if task ∈ agenda.aside then agenda else { agenda with aside := agenda.aside ++ [task] }

/-- Lets a task run at an instant. A task has one alarm at most. -/
def setAlarm (agenda : Agenda Task) (due : Nat) (task : Task) : Agenda Task :=
  { agenda with alarms := (agenda.alarms.filter fun alarm => alarm.2 != task) ++ [(due, task)] }

/-- A task that is over neither runs nor waits. -/
def forget (agenda : Agenda Task) (task : Task) : Agenda Task :=
  { agenda with
    ready := agenda.ready.erase task
    aside := agenda.aside.erase task
    alarms := agenda.alarms.filter fun alarm => alarm.2 != task }

/-- The task whose turn it is. Once no other can run, those that stepped aside all can. -/
def next? (agenda : Agenda Task) : Option (Task × Agenda Task) :=
  match agenda.ready, agenda.aside with
  | task :: ready, _ => some (task, { agenda with ready })
  | [], task :: ready => some (task, { agenda with ready, aside := [] })
  | [], [] => none

/-- The instant of the earliest alarm. -/
def earliest? (agenda : Agenda Task) : Option Nat := (agenda.alarms.map Prod.fst).min?

/-- Moves the clock to an instant and wakes the tasks whose alarm is due, those whose alarm was set
first before the others. -/
def moveTo (agenda : Agenda Task) (instant : Nat) : Agenda Task :=
  let due := agenda.alarms.filter fun alarm => alarm.1 ≤ instant
  let later := agenda.alarms.filter fun alarm => instant < alarm.1
  due.foldl (fun agenda alarm => agenda.wake alarm.2)
    { agenda with now := max agenda.now instant, alarms := later }

end Agenda

end ReliableTransport
