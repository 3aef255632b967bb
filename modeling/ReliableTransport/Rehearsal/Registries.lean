import ReliableTransport.Registry
/-!
This module runs two registries through a list of steps. Handlers may subscribe and unsubscribe
while they are called.
-/

namespace ReliableTransport.Rehearsal.Registries

/-- A change of one of the registries. The handler of a new subscription makes changes of its own
each time that it is called. -/
inductive Change where
  | subscribe (second : Bool) (name : String) (reactions : List Change)
  /-- The subscription is named by its place among all subscriptions of both registries. -/
  | unsubscribe (second : Bool) (subscription : Nat)

structure Handler where
  name : String
  reactions : List Change

inductive Step where
  | change (change : Change)
  | notify (second : Bool)
  | sameId (left right : Nat)

/-- What a change answers. -/
inductive Outcome where
  | subscribed (id : Nat)
  | unsubscribed (found : Bool)
  /-- There is no such subscription yet. -/
  | unknown

inductive Answer where
  | outcome (outcome : Outcome)
  /-- The called handlers in order, each with the outcomes of its changes. -/
  | called (calls : List (String × List Outcome))
  | flag (value : Bool)
  | unknown

structure State where
  first : Registry Handler := {}
  second : Registry Handler := {}
  /-- The numbers of all subscriptions in the order in which they were made. -/
  ids : List Nat := []

namespace State

def registry (state : State) (second : Bool) : Registry Handler :=
  if second then state.second else state.first

def withRegistry (state : State) (second : Bool) (registry : Registry Handler) : State :=
  if second then { state with second := registry } else { state with first := registry }

def make (state : State) : Change → State × Outcome
  | .subscribe second name reactions =>
    let (registry, id) := (state.registry second).subscribe { name, reactions }
    ({ state.withRegistry second registry with ids := state.ids ++ [id] }, .subscribed id)
  | .unsubscribe second subscription =>
    match state.ids[subscription]? with
    | none => (state, .unknown)
    | some id =>
      let (registry, found) := (state.registry second).unsubscribe id
      (state.withRegistry second registry, .unsubscribed found)

/-- Makes changes one after the other. -/
def makeAll (state : State) : List Change → State × List Outcome
  | [] => (state, [])
  | change :: rest =>
    let (state, outcome) := state.make change
    let (state, outcomes) := state.makeAll rest
    (state, outcome :: outcomes)

/-- Calls handlers one after the other. -/
def call (state : State) : List Handler → State × List (String × List Outcome)
  | [] => (state, [])
  | handler :: rest =>
    let (state, outcomes) := state.makeAll handler.reactions
    let (state, calls) := state.call rest
    (state, (handler.name, outcomes) :: calls)

def perform (state : State) : Step → State × Answer
  | .change change =>
    let (state, outcome) := state.make change
    (state, .outcome outcome)
  | .notify second =>
    let (state, calls) := state.call (state.registry second).handlers
    (state, .called calls)
  | .sameId left right =>
    match state.ids[left]?, state.ids[right]? with
    | some left, some right => (state, .flag (left == right))
    | _, _ => (state, .unknown)

end State

structure Report where
  answer : Answer
  sizes : Nat × Nat
  empty : Bool × Bool

def runFrom (state : State) : List Step → List Report
  | [] => []
  | step :: rest =>
    let (state, answer) := state.perform step
    { answer
      sizes := (state.first.size, state.second.size)
      empty := (state.first.isEmpty, state.second.isEmpty) } :: runFrom state rest

def run (steps : List Step) : List Report := runFrom {} steps

end ReliableTransport.Rehearsal.Registries
