import ReliableTransport.Rehearsal.Session
import ReliableTransport.Rehearsal.Sockets
/-!
This module runs pools of senders through lists of steps. The senders of a pool are scripted
themselves, or they are senders of datagrams over scripted sockets.
-/

namespace ReliableTransport.Rehearsal.Pools

/-- How the operations of one sender end. -/
structure SenderScript where
  /-- Why the sender cannot be made, if it cannot. -/
  refusal : Option String
  connects : Script
  sends : Script

/-- What the scripted senders were asked. -/
inductive SenderEvent where
  | connecting (sender : Nat)
  | sending (sender : Nat) (data : Bytes)
  | closing (sender : Nat)

/-- The scripted senders of a pool. A pool that asks for more of them gets none. -/
structure Troop where
  scripts : List SenderScript
  events : List SenderEvent := []

namespace Troop

def note (troop : Troop) (event : SenderEvent) : Troop :=
  { troop with events := troop.events ++ [event] }

def create (troop : Troop) (sender : Nat) : Except Failure Unit :=
  match troop.scripts[sender]? with
  | none => .error (.plain "no more senders")
  | some script => script.refusal.elim (.ok ()) fun text => .error (.plain text)

/-- The next outcome of a sender's connects. -/
def connect (troop : Troop) (sender : Nat) : Troop × Outcome :=
  match troop.scripts[sender]? with
  | none => (troop, {})
  | some script =>
    let (outcome, connects) := script.connects.next {}
    ({ troop with scripts := troop.scripts.set sender { script with connects } }, outcome)

/-- The next outcome of a sender's sends. -/
def send (troop : Troop) (sender : Nat) : Troop × Outcome :=
  match troop.scripts[sender]? with
  | none => (troop, {})
  | some script =>
    let (outcome, sends) := script.sends.next {}
    ({ troop with scripts := troop.scripts.set sender { script with sends } }, outcome)

def outside : Outside Troop Pool.Order Pool.Answer where
  perform _ order troop :=
    match order with
    | .create sender => (troop, some (0, .created (troop.create sender)))
    | .connect sender =>
      let (troop, outcome) := (troop.note (.connecting sender)).connect sender
      (troop, some (outcome.delay, .connected outcome.verdict.unit))
    | .send sender data =>
      let (troop, outcome) := (troop.note (.sending sender data)).send sender
      (troop, some (outcome.delay, .sent (outcome.verdict.length data.length)))
    | .close sender => (troop.note (.closing sender), some (0, .closed))

end Troop

structure Step where
  directive : Directive Pool.Call
  /-- The other tasks run after the step. -/
  settles : Bool

structure Report (Event : Type) where
  /-- The reply to the step. The first report has none: it tells of the new pool. -/
  reply : Option (Reply Pool.Result)
  available : Nat
  live : Nat
  capacity : Nat
  now : Nat
  events : List Event
  /-- The calls that ended. Their instants count from the one at which the pool was ready. -/
  ended : List (Ended Pool.Result)

/-- A run of a pool, if the pool came to be. -/
inductive Run (Event : Type) where
  | notCreated (failure : Failure) (events : List Event)
  | ran (reports : List (Report Event))

/-- How to look at a kind of pool and at its outside. -/
structure View (State Script Event : Type) where
  pool : State → Pool Nat
  events : Script → List Event
  /-- The outside without the events that were reported. -/
  clear : Script → Script

variable {State Order Answer Script Event : Type}

abbrev Stage (State Order Answer Script : Type) :=
  Session State Nat Pool.Call Order Answer Pool.Result Script

/-- The state of a pool after a step. -/
def report (view : View State Script Event) (filled : Nat)
    (stage : Stage State Order Answer Script) (reply : Option (Reply Pool.Result)) :
    Stage State Order Answer Script × Report Event :=
  let (stage, ended) := stage.collect
  let world := stage.world
  let pool := view.pool world.state
  ({ stage with world := { world with script := view.clear world.script } },
    { reply
      available := pool.available
      live := pool.live
      capacity := pool.capacity
      now := world.agenda.now
      events := view.events world.script
      ended := ended.map fun call => { call with instant := call.instant - filled } })

def runFrom (view : View State Script Event) (filled : Nat)
    (stage : Stage State Order Answer Script) : List Step → List (Report Event)
  | [] => []
  | step :: rest =>
    let (stage, reply) := stage.perform step.directive
    let stage := if step.settles then stage.settle else stage
    let (stage, report) := report view filled stage (some reply)
    report :: runFrom view filled stage rest

/-- Fills a new pool and runs the steps on it. -/
def runOn (view : View State Script Event)
    (component : Component State Nat Pool.Call Order Answer Pool.Result)
    (outside : Outside Script Order Answer) (state : State) (script : Script)
    (steps : List Step) : Run Event :=
  let size := (view.pool state).capacity
  let stage : Stage State Order Answer Script :=
    { world :=
        { component
          outside
          patience := 64 + 16 * (steps.length + 1) * (size + steps.length + 1)
          state
          script }
      task := id }
  let (stage, reply) := stage.perform (.call .fill)
  match reply with
  | .result (.filled (.error failure)) => .notCreated failure (view.events stage.world.script)
  | _ =>
    let filled := stage.world.agenda.now
    let (stage, first) := report view filled stage none
    .ran (first :: runFrom view filled stage steps)

/-- Runs the steps on a pool of scripted senders. -/
def run (size timeout : Nat) (scripts : List SenderScript) (steps : List Step) :
    Except Defect (Run SenderEvent) := do
  let pool ← Pool.create size timeout
  let view : View (Pool Nat) Troop SenderEvent :=
    { pool := id, events := Troop.events, clear := fun troop => { troop with events := [] } }
  pure (runOn view Pool.component Troop.outside pool { scripts } steps)

/-- Runs the steps on a pool of datagram senders over scripted sockets. -/
def runFleet (settings : PoolSettings) (connects : List ConnectScript) (steps : List Step) :
    Except Defect (Run SocketEvent) :=
  match Fleet.create settings with
  | .error fault => pure (.notCreated fault.toFailure [])
  | .ok fleet => do
    let sockets : Sockets :=
      { bindAddress := settings.bindAddress
        sendAddress := settings.sendAddress
        limits := settings.limits
        connects }
    let view : View (Fleet Nat) Sockets SocketEvent :=
      { pool := Fleet.pool
        events := Sockets.events
        clear := fun sockets => { sockets with events := [] } }
    pure (runOn view Fleet.component Sockets.fleetOutside (← fleet) sockets steps)

end ReliableTransport.Rehearsal.Pools
