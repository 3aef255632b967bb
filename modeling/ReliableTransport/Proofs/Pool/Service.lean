import ReliableTransport.Proofs.Pool.Search
/-!
This module follows the calls on a filled pool. Sends and closes begin, take turns, get answers from
their senders and are given up in any order while time passes. Each has a number.
-/

namespace ReliableTransport

namespace Pool

open BoundedQueue (Look Waiter)

namespace Stage

/-- The call waits for a sender. -/
def seeks : Stage → Bool
  | .waiting _ | .draining => true
  | _ => false

/-- The sender that a send has. -/
def leased? : Stage → Option Nat
  | .sending sender | .reconnecting sender _ => some sender
  | _ => none

/-- The sender that a close has. -/
def closing? : Stage → Option Nat
  | .closing sender => some sender
  | _ => none

/-- The call waits for such an answer. -/
def awaits : Stage → Answer → Bool
  | .sending _, .sent _ | .reconnecting _ _, .connected _ | .closing _, .closed => true
  | _, _ => false

/-- An answer ends a send, whose sender is free after it. -/
inductive Concludes : Stage → Answer → Nat → Except Failure Nat → Prop where
  | sent {sender length : Nat} :
      Concludes (.sending sender) (.sent (.ok length)) sender (.ok length)
  | failed {sender : Nat} {failure : Failure} (lasting : failure.isTransient = false) :
      Concludes (.sending sender) (.sent (.error failure)) sender (.error failure)
  | reconnected {sender : Nat} {failure : Failure} {result : Except Failure Unit} :
      Concludes (.reconnecting sender failure) (.connected result) sender (.error failure)

theorem Concludes.leased? {stage : Stage} {answer : Answer} {sender : Nat}
    {result : Except Failure Nat} (concludes : stage.Concludes answer sender result) :
    stage.leased? = some sender := by
  cases concludes <;> rfl

end Stage

/-- The senders that sends have. -/
def leased (pool : Pool Nat) : List Nat := pool.calls.filterMap fun call => call.2.leased?

/-- The senders that closes have. -/
def closing (pool : Pool Nat) : List Nat := pool.calls.filterMap fun call => call.2.closing?

/-- The calls that wait for a sender. -/
def seekers (pool : Pool Nat) : List Nat :=
  (pool.calls.filter fun call => call.2.seeks).map Prod.fst

/-- The sender that an order makes. -/
def Order.creates? : Order → Option Nat
  | .create sender => some sender
  | _ => none

/-- The sender that an order closes. -/
def Order.closes? : Order → Option Nat
  | .close sender => some sender
  | _ => none

/-- The end of a call. -/
structure Ending where
  number : Nat
  instant : Nat
  result : Result

/-- A pool and what happened to it so far. -/
structure Service where
  pool : Pool Nat
  now : Nat := 0
  /-- The calls that began. The number of a call is its place among them. -/
  requests : List Request := []
  /-- What was asked of the outside. -/
  orders : List Order := []
  endings : List Ending := []
  /-- The senders whose close is over. -/
  closed : List Nat := []
  /-- The calls that were given up, and the points at which they waited. -/
  dropped : List (Nat × Stage) := []

namespace Service

/-- What can happen to a pool. -/
inductive Event where
  | request (request : Request)
  | turn (number : Nat)
  | answer (number : Nat) (answer : Answer)
  | abandon (number : Nat)
  | pass (millis : Nat)

/-- The turn that an event gives to a call. -/
def turn (service : Service) : Event → PoolTurn Nat
  | .request request =>
    component.start service.now service.requests.length request.call service.pool
  | .turn number => component.resume service.now number service.pool
  | .answer number answer => component.answer service.now number answer service.pool
  | .abandon number => component.abandon number service.pool
  | .pass _ => (service.pool, [])

/-- The sender whose close is over with an answer. -/
def closes? (service : Service) (number : Nat) : Answer → Option Nat
  | .closed => (service.pool.calls.lookup number).bind Stage.closing?
  | _ => none

/-- The event finds a call at a point at which it matters to the call. -/
def reaches (service : Service) : Event → Bool
  | .request _ | .pass _ => true
  | .turn number => (service.pool.calls.lookup number).any Stage.seeks
  | .answer number answer => (service.pool.calls.lookup number).any fun stage => stage.awaits answer
  | .abandon number => (service.pool.calls.lookup number).isSome

/-- Takes an event down. -/
def note (service : Service) : Event → Service
  | .request request => { service with requests := service.requests ++ [request] }
  | .turn _ => service
  | .answer number answer =>
    { service with closed := service.closed ++ (service.closes? number answer).toList }
  | .abandon number =>
    { service with
      dropped := service.dropped ++
        (service.pool.calls.lookup number).toList.map fun stage => (number, stage) }
  | .pass millis => { service with now := service.now + millis }

/-- Takes over what a turn did. -/
def took (service : Service) (turn : PoolTurn Nat) : Service :=
  { service with
    pool := turn.1
    orders := service.orders ++ Effect.orders turn.2
    endings := service.endings ++ (Effect.results turn.2).map fun result =>
      { number := result.1, instant := service.now, result := result.2 } }

def step (service : Service) (event : Event) : Service :=
  (service.note event).took (service.turn event)

def run (service : Service) (events : List Event) : Service :=
  events.foldl step service

theorem run_append (service : Service) (events more : List Event) :
    service.run (events ++ more) = (service.run events).run more :=
  List.foldl_append

/-- The senders that a close kept when it was given up. -/
def lost (service : Service) : List Nat :=
  service.dropped.filterMap fun entry => entry.2.closing?

/-- A new call has its first turn. -/
def accept (service : Service) (request : Request) : Service :=
  { service with
    requests := service.requests ++ [request]
    pool :=
      match request with
      | .send _ => service.pool
      | .close => { service.pool with closed := true } }

/-- A call leaves the point at which it waited. -/
def lift (service : Service) (number : Nat) : Service :=
  { service with pool := service.pool.remove number }

/-- The queue of free senders changes. -/
def requeue (service : Service) (queue : BoundedQueue Nat Nat) : Service :=
  { service with pool := { service.pool with queue } }

/-- A call asks something of its sender. -/
def ask (service : Service) (order : Order) : Service :=
  { service with orders := service.orders ++ [order] }

/-- A call waits. -/
def wait (service : Service) (number : Nat) (stage : Stage) : Service :=
  { service with pool := { service.pool with calls := service.pool.calls ++ [(number, stage)] } }

/-- A call is over. -/
def conclude (service : Service) (number : Nat) (result : Result) : Service :=
  { service with endings := service.endings ++ [{ number, instant := service.now, result }] }

/-- A sender is closed. -/
def retire (service : Service) (sender : Nat) : Service :=
  { service with
    pool := { service.pool with live := service.pool.live - 1 }
    closed := service.closed ++ [sender] }

/-- A call was given up. -/
def drop (service : Service) (number : Nat) (stage : Stage) : Service :=
  { service with dropped := service.dropped ++ [(number, stage)] }

/-- A call has looked for a sender. -/
def seek (service : Service) (number : Nat) (request : Request) (look : Look Nat Nat) : Service :=
  match look.outcome with
  | some (.popped sender) =>
    ((service.requeue look.queue).ask (request.order sender)).wait number (request.having sender)
  | some (.timedOut failure) => (service.requeue look.queue).conclude number (request.late failure)
  | _ => (service.requeue look.queue).wait number request.waiting

variable {service after : Service} {event : Event}

/-- What can happen to a pool, event by event. A call leaves its place first, and then finds a new
one. -/
inductive Happens (service : Service) : Event → Service → Prop where
  /-- A send finds the pool closed. -/
  | refuses {data : Bytes} (shut : service.pool.closed = true) :
      Happens service (.request (.send data))
        (((service.accept (.send data)).lift service.requests.length).conclude
          service.requests.length (.sent (.error (.invalidOperation .poolClosed))))
  | sends {data : Bytes} {look : Look Nat Nat} (unshut : service.pool.closed = false)
      (search : Search service.now service.pool.timeout service.requests.length []
        service.pool.queue look) :
      Happens service (.request (.send data))
        (((service.accept (.send data)).lift service.requests.length).seek
          service.requests.length (.send data) look)
  /-- A close finds that all senders are closed. -/
  | succeeds (drained : service.pool.live = 0) :
      Happens service (.request .close)
        (((service.accept .close).lift service.requests.length).conclude
          service.requests.length (.closed (.ok ())))
  | closes {look : Look Nat Nat} (live : 0 < service.pool.live)
      (search : Search service.now service.pool.timeout service.requests.length []
        service.pool.queue look) :
      Happens service (.request .close)
        (((service.accept .close).lift service.requests.length).seek
          service.requests.length .close look)
  | resumes {number : Nat} {request : Request} {look : Look Nat Nat}
      (found : service.pool.calls.lookup number = some request.waiting)
      (search : Search service.now service.pool.timeout number [number] service.pool.queue look) :
      Happens service (.turn number) ((service.lift number).seek number request look)
  /-- A send is over, and its sender goes back. -/
  | returns {number sender : Nat} {stage : Stage} {answer : Answer} {result : Except Failure Nat}
      {queue : BoundedQueue Nat Nat} {woken : List Nat}
      (found : service.pool.calls.lookup number = some stage)
      (concludes : stage.Concludes answer sender result)
      (pushed : service.pool.queue.push? sender = some (queue, woken)) :
      Happens service (.answer number answer)
        (((service.lift number).requeue queue).conclude number (.sent result))
  | reconnects {number sender : Nat} {failure : Failure}
      (found : service.pool.calls.lookup number = some (.sending sender))
      (broken : failure.isTransient = true) :
      Happens service (.answer number (.sent (.error failure)))
        (((service.lift number).ask (.connect sender)).wait number
          (.reconnecting sender failure))
  /-- A close has closed a sender that was not the last one. -/
  | retires {number sender : Nat} {look : Look Nat Nat}
      (found : service.pool.calls.lookup number = some (.closing sender))
      (others : 1 < service.pool.live)
      (search : Search service.now service.pool.timeout number [] service.pool.queue look) :
      Happens service (.answer number .closed)
        (((service.lift number).retire sender).seek number .close look)
  /-- A close has closed the last sender. -/
  | finishes {number sender : Nat}
      (found : service.pool.calls.lookup number = some (.closing sender))
      (last : service.pool.live ≤ 1) :
      Happens service (.answer number .closed)
        (((service.lift number).retire sender).conclude number (.closed (.ok ())))
  | leaves {number : Nat} {stage : Stage} {waiter : Waiter Nat Nat}
      (found : service.pool.calls.lookup number = some stage) (seeks : stage.seeks = true)
      (waits : waiter ∈ service.pool.queue.waiters) (own : waiter.task = number) :
      Happens service (.abandon number)
        (((service.lift number).requeue (service.pool.queue.leave waiter).1).drop number stage)
  /-- A send is given up, and its sender goes back. -/
  | yields {number sender : Nat} {stage : Stage} {queue : BoundedQueue Nat Nat}
      {woken : List Nat} (found : service.pool.calls.lookup number = some stage)
      (leased : stage.leased? = some sender)
      (pushed : service.pool.queue.push? sender = some (queue, woken)) :
      Happens service (.abandon number) (((service.lift number).requeue queue).drop number stage)
  /-- A close is given up while its sender is being closed. -/
  | loses {number sender : Nat}
      (found : service.pool.calls.lookup number = some (.closing sender)) :
      Happens service (.abandon number)
        ((service.lift number).drop number (.closing sender))
  | stays {event : Event} (missed : service.reaches event = false) :
      Happens service event service
  | passes {millis : Nat} :
      Happens service (.pass millis) { service with now := service.now + millis }

/-- What a turn does beyond the pool does not depend on the tasks that it wakes. -/
theorem took_after (turn : PoolTurn Nat) (woken : List Nat) :
    service.took (Pool.after turn (woken.map .ready)) = service.took turn := by
  simp [took, Pool.after]

theorem took_nothing : service.took (service.pool, []) = service := by
  simp [took, Effect.results]

theorem took_ready (pool : Pool Nat) (woken : List Nat) :
    service.took (pool, woken.map .ready) = { service with pool } := by
  simp [took]

theorem took_finish (number : Nat) (result : Result) :
    service.took (service.pool.finish number result) =
      (service.lift number).conclude number result := by
  simp [took, finish, conclude, lift, Effect.orders, Effect.results]

theorem took_order (number : Nat) (stage : Stage) (order : Order) :
    service.took (service.pool.park number stage, [.order number order]) =
      ((service.lift number).ask order).wait number stage := by
  simp [took, park, lift, ask, wait, remove, Effect.orders, Effect.results]

/-- A call has looked for a sender. -/
theorem took_look {timeout number : Nat} {free rest : List Nat} {look : Look Nat Nat}
    (finds : Finds timeout free look.outcome rest) (request : Request) :
    service.took (service.pool.afterLook number request.waiting
        (fun sender pool =>
          (pool.park number (request.having sender), [.order number (request.order sender)]))
        request.late look) =
      (service.lift number).seek number request look := by
  obtain ⟨queue, woken, outcome⟩ := look
  rw [afterLook, took_after]
  cases finds with
  | sender first =>
      exact (service.requeue queue).took_order number (request.having _) (request.order _)
  | nothing =>
      have quiet : Effect.orders ((queue.waiter? number).toList.map fun waiter =>
            (.alarm number waiter.deadline : Effect Nat Order Result)) = [] ∧
          Effect.results ((queue.waiter? number).toList.map fun waiter =>
            (.alarm number waiter.deadline : Effect Nat Order Result)) = [] := by
        cases queue.waiter? number <;> exact ⟨rfl, rfl⟩
      simp [took, seek, requeue, wait, lift, park, remove, quiet]
  | late => exact (service.requeue queue).took_finish number (request.late _)

end Service

end Pool

end ReliableTransport
