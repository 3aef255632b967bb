import ReliableTransport.DatagramSender
import ReliableTransport.Pool
/-!
This module holds fleets: pools whose senders are senders of datagrams. What the pool asks of a
sender is a call on that sender, and what the senders ask of their sockets goes outside.
-/

namespace ReliableTransport

structure Fleet (Task : Type) where
  pool : Pool Task
  bindAddress : Address
  sendAddress : Address
  limits : SendLimits
  /-- The senders in the order in which they were made. -/
  senders : List (DatagramSender Task) := []

namespace Fleet

/-- What a sender asks of its sockets. -/
structure Order where
  sender : Nat
  order : DatagramSender.Order

variable {Task : Type} [DecidableEq Task]

def create (settings : PoolSettings) :
    Except SettingsFault (Except Defect (Fleet Task)) := do
  settings.check
  pure do
    let pool ← Pool.create settings.size settings.timeoutMillis
    pure
      { pool
        bindAddress := settings.bindAddress
        sendAddress := settings.sendAddress
        limits := settings.limits }

abbrev FleetTurn (Task : Type) := Turn (Fleet Task) Task Order Pool.Result

/-- What the end of a sender's call means to the pool. -/
def toAnswer : DatagramSender.Result → Pool.Answer
  | .connected result => .connected result
  | .sent result => .sent result
  | .closed => .closed

/-- The call on a sender that an order of the pool stands for. -/
def toCall? : Pool.Order → Option (Nat × DatagramSender.Call)
  | .create _ => none
  | .connect sender => some (sender, .connect)
  | .send sender data => some (sender, .send (.whole data))
  | .close sender => some (sender, .close)

/-- Makes a new sender. -/
def enlist (fleet : Fleet Task) : Fleet Task × Except Failure Unit :=
  match DatagramSender.create fleet.bindAddress fleet.sendAddress fleet.limits with
  | .ok sender => ({ fleet with senders := fleet.senders ++ [sender] }, .ok ())
  | .error fault => (fleet, .error fault.toFailure)

/-- Gives one sender a turn. -/
def withSender (fleet : Fleet Task) (sender : Nat)
    (turn : DatagramSender Task → DatagramSender.SenderTurn Task) :
    Fleet Task × List (Effect Task DatagramSender.Order DatagramSender.Result) :=
  match fleet.senders[sender]? with
  | none => (fleet, [])
  | some state =>
    let (state, effects) := turn state
    ({ fleet with senders := fleet.senders.set sender state }, effects)

/-- An effect that is still to be carried out inside the fleet. -/
inductive Work (Task : Type) where
  | ofPool (effect : Effect Task Pool.Order Pool.Result)
  | ofSender (sender : Nat) (effect : Effect Task DatagramSender.Order DatagramSender.Result)

/-- Carries one effect out: what it leads to inside the fleet, and what it means outside. -/
def carryOut (now : Nat) (fleet : Fleet Task) :
    Work Task → Fleet Task × List (Work Task) × List (Effect Task Order Pool.Result)
  | .ofPool (.ready task) => (fleet, [], [.ready task])
  | .ofPool (.aside task) => (fleet, [], [.aside task])
  | .ofPool (.alarm task due) => (fleet, [], [.alarm task due])
  | .ofPool (.done task result) => (fleet, [], [.done task result])
  | .ofPool (.order task order) =>
    match toCall? order with
    | none =>
      let (fleet, made) := fleet.enlist
      let (pool, effects) := fleet.pool.answered now task (.created made)
      ({ fleet with pool }, effects.map .ofPool, [])
    | some (sender, call) =>
      let (fleet, effects) := fleet.withSender sender (·.begin task call)
      (fleet, effects.map (.ofSender sender), [])
  | .ofSender _ (.ready task) => (fleet, [], [.ready task])
  | .ofSender _ (.aside task) => (fleet, [], [.aside task])
  | .ofSender _ (.alarm task due) => (fleet, [], [.alarm task due])
  | .ofSender sender (.order task order) => (fleet, [], [.order task { sender, order }])
  | .ofSender _ (.done task result) =>
    let (pool, effects) := fleet.pool.answered now task (toAnswer result)
    ({ fleet with pool }, effects.map .ofPool, [])

/-- Carries effects out, one after the other, with all that they lead to. -/
def carryOutAll (now : Nat) : Nat → List (Work Task) → Fleet Task → FleetTurn Task
  | 0, _, fleet => (fleet, [])
  | _ + 1, [], fleet => (fleet, [])
  | steps + 1, work :: rest, fleet =>
    let (fleet, more, outside) := fleet.carryOut now work
    let (fleet, effects) := carryOutAll now steps (more ++ rest) fleet
    (fleet, outside ++ effects)

/-- A call uses each sender once at most before it waits or is over, and each use leads to a few
effects, so the size of the pool bounds the steps. -/
def settle (now : Nat) (work : List (Work Task)) (fleet : Fleet Task) : FleetTurn Task :=
  carryOutAll now (16 + 16 * fleet.pool.capacity + work.length) work fleet

/-- A turn of the pool, carried out. -/
def ofPool (now : Nat) (fleet : Fleet Task) (turn : Pool.PoolTurn Task) : FleetTurn Task :=
  { fleet with pool := turn.1 }.settle now (turn.2.map .ofPool)

/-- The sender that a call uses. -/
def sender? (fleet : Fleet Task) (task : Task) : Option Nat :=
  (fleet.pool.calls.lookup task).bind Pool.Stage.sender?

/-- A turn of the sender that a call uses, carried out. -/
def ofSender (now : Nat) (fleet : Fleet Task) (task : Task)
    (turn : DatagramSender Task → DatagramSender.SenderTurn Task) : FleetTurn Task :=
  match fleet.sender? task with
  | none => (fleet, [])
  | some sender =>
    let (fleet, effects) := fleet.withSender sender turn
    fleet.settle now (effects.map (.ofSender sender))

/-- Gives a call up: first on the sender that it uses, then on the pool. Nothing begins to wait by
that, so the instant does not matter. -/
def abandon (task : Task) (fleet : Fleet Task) : FleetTurn Task :=
  let (fleet, first) := fleet.ofSender 0 task (·.depart task)
  let (fleet, second) := fleet.ofPool 0 (fleet.pool.abandon task)
  (fleet, first ++ second)

/-- The fleet as a component over its sockets. -/
def component :
    Component (Fleet Task) Task Pool.Call Order DatagramSender.Answer Pool.Result where
  start now task call fleet := fleet.ofPool now (fleet.pool.begin now task call)
  resume now task fleet :=
    match fleet.sender? task with
    | some _ => fleet.ofSender now task (·.resume task)
    | none => fleet.ofPool now (fleet.pool.resume now task)
  answer now task answer fleet := fleet.ofSender now task (·.answered task answer)
  abandon := abandon

end Fleet

end ReliableTransport
