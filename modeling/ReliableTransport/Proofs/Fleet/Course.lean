import ReliableTransport.Proofs.Fleet.Founding
import ReliableTransport.Proofs.Pool.Lending
/-!
This module follows a fleet that sends use. They begin, have turns, get the answers of the sockets
and are given up in any order while time passes. The pool lends a sender to one send at a time, and
only that send uses the sender.
-/

namespace ReliableTransport

namespace Fleet

open DatagramSender (Answer)

/-- What can happen to a fleet before it is closed. -/
inductive Event where
  /-- A send begins. -/
  | send (data : Bytes)
  | turn (number : Nat)
  | answer (number : Nat) (answer : Answer)
  | abandon (number : Nat)
  | pass (millis : Nat)

/-- A socket that can not send says so with a socket error. -/
def Event.Sound : Event → Prop
  | .answer _ (.sent (.error failure)) => failure.ioKind?.isSome = true
  | _ => True

/-- A fleet and what happened to it so far. -/
structure History where
  fleet : Fleet Nat
  now : Nat := 0
  /-- The sends that began. The number of a send is its place among them. -/
  sends : List Bytes := []
  deeds : List Deed := []

/-- The socket that a sender has. -/
def socket? (fleet : Fleet Nat) (sender : Nat) : Option Nat :=
  (fleet.senders[sender]?).bind DatagramSender.socket

/-- A send that had no sender has one after a turn. -/
def lent (fleet after : Fleet Nat) (number : Nat) : List Deed :=
  match fleet.sender? number, after.sender? number with
  | none, some sender => [.leases number sender (fleet.socket? sender)]
  | _, _ => []

/-- The sender of a call waits for a new socket, which it has after a turn. -/
def joined (fleet : Fleet Nat) (number : Nat) : List Deed :=
  match fleet.sender? number with
  | none => []
  | some sender =>
    match (fleet.senders[sender]?).bind fun state => state.calls.lookup number with
    | some (.opening socket) => [.joins number sender socket]
    | _ => []

/-- A sender that asked for a socket has it, or does not get it. -/
def opened (number sender socket : Nat) : Except Failure Unit → List Deed
  | .ok _ => [.joins number sender socket]
  | .error _ => []

/-- A call that has begun and is not over is given up. -/
def dropped (fleet : Fleet Nat) (number : Nat) : List Deed :=
  (fleet.pool.calls.lookup number).toList.map fun _ => .drops number

namespace History

/-- The turn that an event gives to a call. -/
def turn (history : History) : Event → FleetTurn Nat
  | .send data => component.start history.now history.sends.length (.send data) history.fleet
  | .turn number => component.resume history.now number history.fleet
  | .answer number answer => component.answer history.now number answer history.fleet
  | .abandon number => component.abandon number history.fleet
  | .pass _ => (history.fleet, [])

/-- What an event means besides what is heard of it outside. -/
def notes (history : History) (after : Fleet Nat) : Event → List Deed
  | .send _ => lent history.fleet after history.sends.length
  | .turn number => lent history.fleet after number
  | .answer number (.opened (.ok _)) => joined history.fleet number
  | .abandon number => dropped history.fleet number
  | _ => []

/-- What an event adds to the log. -/
def adds (history : History) (event : Event) : List Deed :=
  history.notes (history.turn event).1 event ++ told (history.turn event).2

def step (history : History) (event : Event) : History where
  fleet := (history.turn event).1
  now :=
    match event with
    | .pass millis => history.now + millis
    | _ => history.now
  sends :=
    match event with
    | .send data => history.sends ++ [data]
    | _ => history.sends
  deeds := history.deeds ++ history.adds event

def run (history : History) (events : List Event) : History := events.foldl step history

end History

/-- What the sender of a send is doing for it. -/
inductive Holds (number : Nat) : Pool.Stage → DatagramSender Nat → Prop where
  | sends {sender socket : Nat} {state : DatagramSender Nat} (owns : state.socket = some socket)
      (used : state.Used number (.sending socket)) : Holds number (.sending sender) state
  | replaces {sender socket : Nat} {failure : Failure} {state : DatagramSender Nat}
      (broken : failure.isTransient = true) (bare : state.socket = none)
      (used : state.Used number (.replacing socket)) :
      Holds number (.reconnecting sender failure) state
  | opens {sender socket : Nat} {failure : Failure} {state : DatagramSender Nat}
      (broken : failure.isTransient = true) (bare : state.socket = none)
      (used : state.Used number (.opening socket)) :
      Holds number (.reconnecting sender failure) state

/-- A fleet whose senders do what the pool knows of them. All of them were connected. -/
structure Staffed (address : Address) (fleet : Fleet Nat) : Prop where
  towards : fleet.sendAddress = address
  unshut : fleet.pool.closed = false
  lasting : ∀ (sender : Nat) (state : DatagramSender Nat), fleet.senders[sender]? = some state →
    state.wasConnected = true ∧ state.sendAddress = address
  free : ∀ sender ∈ fleet.pool.queue.items, ∃ state,
    fleet.senders[sender]? = some state ∧ state.Idle
  leased : ∀ number stage sender, fleet.pool.calls.lookup number = some stage →
    stage.leased? = some sender → ∃ state,
      fleet.senders[sender]? = some state ∧ Holds number stage state

/-- A send looks for a sender: it is new, or it has waited for one. -/
inductive Seeks (history : History) : Event → Nat → Bytes → Prop where
  | begins {data : Bytes} : Seeks history (.send data) history.sends.length data
  | resumes {number : Nat} {data : Bytes}
      (waits : history.fleet.pool.calls.lookup number = some (.waiting data))
      (known : history.sends[number]? = some data) : Seeks history (.turn number) number data

/-- What can happen to a fleet, event by event. -/
inductive Acts (history : History) : Event → Fleet Nat → List Deed → Prop where
  /-- A send finds no sender. -/
  | waits {event : Event} {number : Nat} {data : Bytes} {queue : BoundedQueue Nat Nat}
      (seeks : Seeks history event number data)
      (same : queue.items = history.fleet.pool.queue.items) :
      Acts history event
        (history.fleet.pooled ({ history.fleet.pool with queue }.park number (.waiting data))) []
  /-- A send has waited for a sender for too long. -/
  | late {event : Event} {number : Nat} {data : Bytes} {queue : BoundedQueue Nat Nat}
      (seeks : Seeks history event number data)
      (same : queue.items = history.fleet.pool.queue.items) :
      Acts history event (history.fleet.pooled ({ history.fleet.pool with queue }.remove number))
        [.ends number (.sent (.error (Pool.lateFailure history.fleet.pool.timeout)))]
  /-- A send is lent a sender with a socket. -/
  | sends {event : Event} {number sender socket : Nat} {data : Bytes}
      {queue : BoundedQueue Nat Nat} {state : DatagramSender Nat}
      (seeks : Seeks history event number data)
      (first : history.fleet.pool.queue.items = sender :: queue.items)
      (known : history.fleet.senders[sender]? = some state) (owns : state.socket = some socket) :
      Acts history event
        ((history.fleet.pooled
          ({ history.fleet.pool with queue }.park number (.sending sender))).posted sender
            (state.used number (.sending socket)))
        [.leases number sender (some socket),
          .asks number { sender, order := .send socket (.whole data) }]
  /-- A send is lent a sender without a socket, and the sender asks for a new one. -/
  | retries {event : Event} {number sender : Nat} {data : Bytes}
      {queue : BoundedQueue Nat Nat} {state : DatagramSender Nat}
      (seeks : Seeks history event number data)
      (first : history.fleet.pool.queue.items = sender :: queue.items)
      (known : history.fleet.senders[sender]? = some state) (bare : state.socket = none) :
      Acts history event
        ((history.fleet.pooled
          (({ history.fleet.pool with queue }.park number (.sending sender)).park number
            (.reconnecting sender state.noSocket))).posted sender
              (state.numbered.used number (.opening state.nextSocket)))
        [.leases number sender none,
          .asks number { sender, order := .openSocket state.nextSocket }]
  /-- A send finds that the connection is gone, and its sender closes the socket. -/
  | breaks {number sender socket : Nat} {failure : Failure} {state : DatagramSender Nat}
      (found : history.fleet.pool.calls.lookup number = some (.sending sender))
      (known : history.fleet.senders[sender]? = some state)
      (used : state.Used number (.sending socket)) (broken : failure.isTransient = true) :
      Acts history (.answer number (.sent (.error failure)))
        ((history.fleet.pooled
          (history.fleet.pool.park number (.reconnecting sender failure))).posted sender
            ((state.countSent (.error failure)).freed.stripped.used number (.replacing socket)))
        [.asks number { sender, order := .closeSocket socket }]
  /-- The old socket is closed, and the sender asks for a new one. -/
  | reopens {number sender socket : Nat} {failure : Failure} {state : DatagramSender Nat}
      (found : history.fleet.pool.calls.lookup number = some (.reconnecting sender failure))
      (known : history.fleet.senders[sender]? = some state)
      (used : state.Used number (.replacing socket)) :
      Acts history (.answer number .closed)
        (history.fleet.posted sender (state.numbered.used number (.opening state.nextSocket)))
        [.asks number { sender, order := .openSocket state.nextSocket }]
  /-- A send is over once its sender has connected, or could not. -/
  | connects {number sender socket : Nat} {failure : Failure} {result : Except Failure Unit}
      {state : DatagramSender Nat} {queue : BoundedQueue Nat Nat}
      (found : history.fleet.pool.calls.lookup number = some (.reconnecting sender failure))
      (known : history.fleet.senders[sender]? = some state)
      (used : state.Used number (.opening socket))
      (back : queue.items = history.fleet.pool.queue.items ++ [sender]) :
      Acts history (.answer number (.opened result))
        ((history.fleet.pooled ({ history.fleet.pool with queue }.remove number)).posted sender
          (state.install socket result).freed)
        (opened number sender socket result ++ [.ends number (.sent (.error failure))])
  /-- A send is over, and its sender has kept its socket. -/
  | returns {number sender socket : Nat} {result : Except Failure Nat}
      {state : DatagramSender Nat} {queue : BoundedQueue Nat Nat}
      (found : history.fleet.pool.calls.lookup number = some (.sending sender))
      (known : history.fleet.senders[sender]? = some state)
      (used : state.Used number (.sending socket))
      (back : queue.items = history.fleet.pool.queue.items ++ [sender]) :
      Acts history (.answer number (.sent result))
        ((history.fleet.pooled ({ history.fleet.pool with queue }.remove number)).posted sender
          (state.countSent result).freed)
        [.ends number (.sent result)]
  /-- A send is given up while it waits for a sender. -/
  | leaves {number : Nat} {data : Bytes} {queue : BoundedQueue Nat Nat}
      (found : history.fleet.pool.calls.lookup number = some (.waiting data))
      (same : queue.items = history.fleet.pool.queue.items) :
      Acts history (.abandon number)
        (history.fleet.pooled ({ history.fleet.pool with queue }.remove number)) [.drops number]
  /-- A send is given up while it has a sender, which goes back as it is. -/
  | yields {number sender : Nat} {stage : Pool.Stage} {state : DatagramSender Nat}
      {queue : BoundedQueue Nat Nat}
      (found : history.fleet.pool.calls.lookup number = some stage)
      (leased : stage.leased? = some sender)
      (known : history.fleet.senders[sender]? = some state)
      (back : queue.items = history.fleet.pool.queue.items ++ [sender]) :
      Acts history (.abandon number)
        ((history.fleet.pooled ({ history.fleet.pool with queue }.remove number)).posted sender
          state.freed)
        [.drops number]
  | stays {event : Event} : Acts history event history.fleet []

variable {size number sender : Nat} {address : Address} {fleet last : Fleet Nat}
  {history : History} {event : Event} {data : Bytes} {heard : List Deed} {stage : Pool.Stage}

/-- A call that parks in the pool has the sender that it parks with. -/
theorem sender?_parked (fleet : Fleet Nat) (pool : Pool Nat) (number : Nat) (stage : Pool.Stage) :
    (fleet.pooled (pool.park number stage)).sender? number = stage.sender? :=
  sender?_of_found ((Pool.lookup_park pool number stage number).trans (if_pos rfl))

theorem sender?_removed (fleet : Fleet Nat) (pool : Pool Nat) (number : Nat) :
    (fleet.pooled (pool.remove number)).sender? number = none :=
  sender?_of_missed ((Pool.lookup_remove pool number number).trans (if_pos rfl))

theorem lent_of_some (unlent : fleet.sender? number = none)
    (uses : last.sender? number = some sender) :
    lent fleet last number = [.leases number sender (fleet.socket? sender)] := by
  rw [lent, unlent, uses]

theorem lent_of_none (unlent : last.sender? number = none) : lent fleet last number = [] := by
  rw [lent, unlent]
  cases fleet.sender? number <;> rfl

theorem Seeks.unlent (seeks : Seeks history event number data)
    (lending : Pool.Lending size history.now history.sends history.fleet.pool) :
    history.fleet.sender? number = none := by
  cases seeks with
  | begins => exact sender?_of_missed lending.fresh
  | resumes waits => exact sender?_of_found waits

theorem Seeks.notes_eq (seeks : Seeks history event number data) (after : Fleet Nat) :
    history.notes after event = lent history.fleet after number := by
  cases seeks <;> rfl

/-- What an event does, and that the pool remains one that only sends have used. -/
structure Moves (size : Nat) (history : History) (event : Event) : Prop where
  acts : Acts history event (history.step event).fleet (history.adds event)
  lending : Pool.Lending size (history.step event).now (history.step event).sends
    (history.step event).fleet.pool

theorem moves_of_reaches (reaches : Reaches (history.turn event) last heard)
    (acts : Acts history event last (history.notes last event ++ heard))
    (lending : Pool.Lending size (history.step event).now (history.step event).sends last.pool) :
    Moves size history event := by
  obtain ⟨rfl, rfl⟩ := reaches
  exact ⟨acts, lending⟩

/-- A send that looked has a sender, which has a socket or asks for a new one. -/
theorem Staffed.finds (staffed : Staffed address history.fleet)
    (seeks : Seeks history event number data) {queue : BoundedQueue Nat Nat} {woken : List Nat}
    (unlent : history.fleet.sender? number = none)
    (first : history.fleet.pool.queue.items = sender :: queue.items)
    (turned : history.turn event = history.fleet.ofPool history.now
      ({ history.fleet.pool with queue }.park number (.sending sender),
        woken.map .ready ++ [.order number (.send sender data)]))
    (lending : Pool.Lending size (history.step event).now (history.step event).sends
      ({ history.fleet.pool with queue }.park number (.sending sender))) :
    Moves size history event := by
  let pool : Pool Nat := { history.fleet.pool with queue }.park number (.sending sender)
  obtain ⟨state, known, idle⟩ := staffed.free sender (first ▸ List.mem_cons_self)
  have held : history.fleet.socket? sender = state.socket := by
    rw [socket?, known]
    rfl
  have sends : (history.fleet.pooled pool).pool.calls.lookup number = some (.sending sender) := by
    show pool.calls.lookup number = _
    rw [Pool.lookup_park, if_pos rfl]
  have stands : (history.fleet.pooled pool).senders[sender]? = some state := known
  cases owns : state.socket with
  | some socket =>
      let last : Fleet Nat :=
        (history.fleet.pooled pool).posted sender (state.used number (.sending socket))
      have led : Leads history.now 2 [.ofPool (.order number (.send sender data))]
          (history.fleet.pooled pool) last _ := leads_send stands idle owns number data
      have reaches := Leads.reaches_of_woken woken [.order number (.send sender data)] led
        (by omega)
      have uses : last.sender? number = some sender := sender?_parked history.fleet _ number _
      refine moves_of_reaches (turned ▸ reaches) ?_ lending
      rw [seeks.notes_eq, lent_of_some unlent uses, held, owns]
      exact .sends seeks first known owns
  | none =>
      -- The sender answers at once that it has no socket, and is told to connect in the same turn.
      let last : Fleet Nat :=
        (history.fleet.pooled (pool.park number (.reconnecting sender state.noSocket))).posted
          sender (state.numbered.used number (.opening state.nextSocket))
      have lasting := (staffed.lasting sender state known).1
      have led : Leads history.now 4 [.ofPool (.order number (.send sender data))]
          (history.fleet.pooled pool) last _ :=
        leads_send_bare stands idle owns lasting sends data
      have reaches := Leads.reaches_of_woken woken [.order number (.send sender data)] led
        (by omega)
      have uses : last.sender? number = some sender := sender?_parked history.fleet pool number _
      have retries : Pool.Lending size (history.step event).now (history.step event).sends
          ((history.fleet.pooled pool).pool.answered (history.step event).now number
            (.sent (.error state.noSocket))).1 := lending.answer number _
      rw [answered_transient sends (state.noSocket_transient lasting)] at retries
      refine moves_of_reaches (turned ▸ reaches) ?_ retries
      rw [seeks.notes_eq, lent_of_some unlent uses, held, owns]
      exact .retries seeks first known owns

/-- A send has looked for a sender. -/
theorem Staffed.looks (staffed : Staffed address history.fleet)
    (seeks : Seeks history event number data) (unlent : history.fleet.sender? number = none)
    {waited : List Nat} {look : BoundedQueue.Look Nat Nat}
    (search : Pool.Search history.now history.fleet.pool.timeout number waited
      history.fleet.pool.queue look)
    (turned : history.turn event =
      history.fleet.ofPool history.now (history.fleet.pool.sendAfter number data look))
    (lending : Pool.Lending size (history.step event).now (history.step event).sends
      (history.fleet.pool.sendAfter number data look).1) :
    Moves size history event := by
  obtain ⟨queue, woken, outcome⟩ := look
  have finds : Pool.Finds _ history.fleet.pool.queue.items outcome queue.items := search.finds
  generalize rest : queue.items = free at finds
  let pool : Pool Nat := { history.fleet.pool with queue }
  cases finds with
  | sender first =>
      subst rest
      exact staffed.finds seeks unlent first turned lending
  | nothing =>
      let alarms : List (Effect Nat Pool.Order Pool.Result) :=
        (queue.waiter? number).toList.map fun waiter => .alarm number waiter.deadline
      let last : Fleet Nat := history.fleet.pooled (pool.park number (.waiting data))
      have led : ∃ steps, steps ≤ 1 ∧
          Leads history.now steps (alarms.map .ofPool) last last [] := by
        cases waiter : queue.waiter? number with
        | none => exact ⟨0, by omega, by simp only [alarms, waiter]; exact .rests⟩
        | some waiter =>
            exact ⟨1, by omega, by simp only [alarms, waiter]; exact .carries rfl .rests⟩
      obtain ⟨steps, few, led⟩ := led
      have reaches := Leads.reaches_of_woken woken alarms led (by omega)
      refine moves_of_reaches (turned ▸ reaches) ?_ lending
      have waits : last.sender? number = none := sender?_parked history.fleet pool number _
      rw [seeks.notes_eq, lent_of_none waits]
      exact .waits seeks rest
  | late =>
      let late : Pool.Result :=
        .sent (.error (Pool.lateFailure history.fleet.pool.timeout))
      let last : Fleet Nat := history.fleet.pooled (pool.remove number)
      have led : Leads history.now 1 _ last last _ := Leads.rests.ends number late
      have reaches := Leads.reaches_of_woken woken [.done number late] led (by omega)
      refine moves_of_reaches (turned ▸ reaches) ?_ lending
      have ended : last.sender? number = none := sender?_removed history.fleet pool number
      rw [seeks.notes_eq, lent_of_none ended]
      exact .late seeks rest

theorem Staffed.moves_send (staffed : Staffed address history.fleet)
    (lending : Pool.Lending size history.now history.sends history.fleet.pool) (data : Bytes) :
    Moves size history (.send data) := by
  have begun : history.fleet.pool.begin history.now history.sends.length (.send data) =
      history.fleet.pool.sendAfter history.sends.length data
        (history.fleet.pool.queue.start history.now history.sends.length .pop
          history.fleet.pool.timeout) := by
    rw [Pool.begin, staffed.unshut]
    rfl
  have turned : history.turn (.send data) = history.fleet.ofPool history.now _ :=
    congrArg (history.fleet.ofPool history.now) begun
  have lends := lending.send data
  rw [begun] at lends
  have seeks : Seeks history (.send data) history.sends.length data := .begins
  exact staffed.looks seeks (seeks.unlent lending) lending.search_start turned lends

theorem moves_of_still (lending : Pool.Lending size history.now history.sends history.fleet.pool)
    (later : (history.step event).now = history.now)
    (same : (history.step event).sends = history.sends)
    (reaches : Reaches (history.turn event) history.fleet [])
    (silent : history.notes history.fleet event = []) : Moves size history event := by
  refine moves_of_reaches reaches ?_ (by rwa [later, same])
  rw [silent]
  exact .stays

theorem Staffed.moves_turn (staffed : Staffed address history.fleet)
    (lending : Pool.Lending size history.now history.sends history.fleet.pool) (number : Nat) :
    Moves size history (.turn number) := by
  have busy {sender : Nat} {state : DatagramSender Nat} {stage : DatagramSender.Stage}
      (uses : history.fleet.sender? number = some sender)
      (known : history.fleet.senders[sender]? = some state) (used : state.Used number stage)
      (works : ∀ job, stage ≠ .queued job) : Moves size history (.turn number) := by
    refine moves_of_still lending rfl rfl ?_ (by rw [History.notes, lent, uses])
    have turned : history.turn (.turn number) =
        history.fleet.ofSender history.now number (·.resume number) := by
      simp only [History.turn, component, uses]
    rw [turned]
    exact reaches_of_same uses known (used.resume_eq works) history.now
  cases found : history.fleet.pool.calls.lookup number with
  | none =>
      have uses := sender?_of_missed found
      refine moves_of_still lending rfl rfl ?_ (lent_of_none uses)
      have turned : history.turn (.turn number) =
          history.fleet.ofPool history.now (history.fleet.pool, []) := by
        simp only [History.turn, component, uses, Pool.resume, found]
      rw [turned]
      exact Leads.reaches_of_pool .rests (Nat.zero_le _)
  | some stage =>
      have uses := sender?_of_found found
      obtain ⟨data, known, rfl | ⟨sender, rfl⟩ | ⟨sender, failure, rfl⟩⟩ :=
        lending.cases_stage found
      · have resumed : history.fleet.pool.resume history.now number =
            history.fleet.pool.sendAfter number data
              (history.fleet.pool.queue.resume history.now number) := by
          simp only [Pool.resume, found]
        have turned : history.turn (.turn number) =
            history.fleet.ofPool history.now (history.fleet.pool.sendAfter number data
              (history.fleet.pool.queue.resume history.now number)) := by
          simp only [History.turn, component, uses, Pool.Stage.sender?, resumed]
        have lends := lending.turn number
        rw [resumed] at lends
        exact staffed.looks (.resumes found known) uses (lending.search_resume found) turned lends
      · obtain ⟨state, stands, holds⟩ := staffed.leased number _ sender found rfl
        cases holds with
        | sends owns used => exact busy uses stands used fun _ same => by cases same
      · obtain ⟨state, stands, holds⟩ := staffed.leased number _ sender found rfl
        cases holds with
        | replaces _ _ used | opens _ _ used =>
            exact busy uses stands used fun _ same => by cases same

/-- The sender of a send has ended its call, and the pool ends the send with it. The sender goes
back. -/
theorem reaches_finish
    (lending : Pool.Lending size history.now history.sends history.fleet.pool)
    (found : history.fleet.pool.calls.lookup number = some stage)
    (leased : stage.leased? = some sender) (uses : stage.sender? = some sender)
    {state settled : DatagramSender Nat} {answer : Answer} {result : DatagramSender.Result}
    {ended : Except Failure Nat} (known : history.fleet.senders[sender]? = some state)
    (answered : state.answered number answer = (settled, [.done number result]))
    (finishes : history.fleet.pool.answered history.now number (toAnswer result) =
      history.fleet.pool.finishSend number sender ended) :
    ∃ queue : BoundedQueue Nat Nat,
      queue.items = history.fleet.pool.queue.items ++ [sender] ∧
      Reaches (history.turn (.answer number answer))
        ((history.fleet.pooled ({ history.fleet.pool with queue }.remove number)).posted sender
          settled)
        [.ends number (.sent ended)] ∧
      Pool.Lending size history.now history.sends
        ({ history.fleet.pool with queue }.remove number) := by
  obtain ⟨queue, woken, pushed, back⟩ := lending.push found leased
  obtain ⟨steps, few, led⟩ := @leads_finish number sender (history.fleet.posted sender settled)
    queue woken history.now result ended finishes pushed
  have reaches : Reaches (history.turn (.answer number answer)) _ _ :=
    Leads.reaches_of_sender ((sender?_of_found found).trans uses) known answered led
      (show steps ≤ 16 + 1 by omega)
  have given : (history.fleet.pool.finishSend number sender ended).1 =
      { history.fleet.pool with queue }.remove number := by
    rw [Pool.finishSend, Pool.giveBack, pushed]
    rfl
  have lends := lending.answer number (toAnswer result)
  rw [finishes, given] at lends
  exact ⟨queue, back, reaches, lends⟩

/-- A socket has sent, or it has not. -/
theorem moves_sent
    (lending : Pool.Lending size history.now history.sends history.fleet.pool)
    (found : history.fleet.pool.calls.lookup number = some (.sending sender))
    {state : DatagramSender Nat} {socket : Nat}
    (known : history.fleet.senders[sender]? = some state) (owns : state.socket = some socket)
    (used : state.Used number (.sending socket)) (result : Except Failure Nat) :
    Moves size history (.answer number (.sent result)) := by
  by_cases broken : ∃ failure, result = .error failure ∧ failure.isTransient = true
  · obtain ⟨failure, rfl, broken⟩ := broken
    let freed : Fleet Nat :=
      history.fleet.posted sender (state.countSent (.error failure)).freed
    have stands : freed.senders[sender]? = some (state.countSent (.error failure)).freed :=
      getElem?_posted known _
    have owned : (state.countSent (.error failure)).freed.socket = some socket := by
      obtain ⟨bytesSent, connected, counted⟩ :=
        DatagramSender.Usage.countSent_eq state (.error failure)
      rw [counted]
      exact owns
    let parked : Pool Nat := history.fleet.pool.park number (.reconnecting sender failure)
    let last : Fleet Nat := (history.fleet.pooled parked).posted sender
      ((state.countSent (.error failure)).freed.stripped.used number (.replacing socket))
    have led : Leads history.now 3 [.ofSender sender (.done number (.sent (.error failure)))] freed
        last [.asks number { sender, order := .closeSocket socket }] := by
      refine .answers (answered_transient found broken history.now) ?_ sender
      have led := @leads_connect history.now sender (freed.pooled parked) _ socket stands
        (DatagramSender.freed_idle _) owned number
      rw [show freed.pooled parked = (history.fleet.pooled parked).posted sender _ from rfl,
        posted_posted] at led
      exact led
    have reaches := Leads.reaches_of_sender (sender?_of_found found) known
      (used.answered_sent _) led (by simp)
    have lends := lending.answer number (.sent (.error failure))
    rw [answered_transient found broken] at lends
    refine moves_of_reaches reaches ?_ lends
    exact .breaks found known used broken
  · have finishes : history.fleet.pool.answered history.now number (.sent result) =
        history.fleet.pool.finishSend number sender result := by
      cases result with
      | ok length => simp only [Pool.answered, found]
      | error failure =>
          have lasting : ¬failure.isTransient = true := fun transient =>
            broken ⟨failure, rfl, transient⟩
          simp [Pool.answered, found, lasting]
    obtain ⟨queue, back, reaches, lends⟩ :=
      reaches_finish lending found rfl rfl known (used.answered_sent result) finishes
    refine moves_of_reaches reaches ?_ lends
    exact .returns found known used back

/-- An old socket is closed. -/
theorem moves_closed {failure : Failure} {state : DatagramSender Nat} {socket : Nat}
    (lending : Pool.Lending size history.now history.sends history.fleet.pool)
    (found : history.fleet.pool.calls.lookup number = some (.reconnecting sender failure))
    (known : history.fleet.senders[sender]? = some state)
    (used : state.Used number (.replacing socket)) :
    Moves size history (.answer number .closed) := by
  have reaches : Reaches (history.turn (.answer number .closed)) _ _ :=
    Leads.reaches_of_sender (sender?_of_found found) known used.answered_closed
      (Leads.rests.asks number sender _) (Nat.le_add_left 1 16)
  exact moves_of_reaches reaches (.reopens found known used) lending

/-- What an answer means for the sender that waits for a socket. -/
theorem joined_eq {state : DatagramSender Nat} {stage : DatagramSender.Stage}
    (uses : fleet.sender? number = some sender) (known : fleet.senders[sender]? = some state)
    (used : state.Used number stage) :
    joined fleet number =
      match stage with
      | .opening socket => [.joins number sender socket]
      | _ => [] := by
  have found : ((fleet.senders[sender]?).bind fun state => state.calls.lookup number) =
      some stage := by
    rw [known]
    exact used.lookup_eq
  simp only [joined, uses, found]
  cases stage <;> rfl

/-- A new socket is there, or is not to be had. Either way the send is over, with the failure that
it had. -/
theorem moves_opened {failure : Failure} {state : DatagramSender Nat} {socket : Nat}
    (lending : Pool.Lending size history.now history.sends history.fleet.pool)
    (found : history.fleet.pool.calls.lookup number = some (.reconnecting sender failure))
    (known : history.fleet.senders[sender]? = some state)
    (used : state.Used number (.opening socket)) (result : Except Failure Unit) :
    Moves size history (.answer number (.opened result)) ∧
      history.adds (.answer number (.opened result)) =
        opened number sender socket result ++ [.ends number (.sent (.error failure))] := by
  have finishes : history.fleet.pool.answered history.now number (.connected result) =
      history.fleet.pool.finishSend number sender (.error failure) := by
    simp only [Pool.answered, found]
  obtain ⟨queue, back, reaches, lends⟩ :=
    reaches_finish lending found rfl rfl known (used.answered_opened result) finishes
  have noted (after : Fleet Nat) : history.notes after (.answer number (.opened result)) =
      opened number sender socket result := by
    cases result with
    | ok _ =>
        rw [History.notes, joined_eq (sender?_of_found found) known used]
        rfl
    | error _ => rfl
  refine ⟨moves_of_reaches reaches ?_ lends, ?_⟩
  · rw [noted]
    exact .connects found known used back
  · rw [History.adds, noted, reaches.heard]

theorem Staffed.moves_answer (staffed : Staffed address history.fleet)
    (lending : Pool.Lending size history.now history.sends history.fleet.pool) (number : Nat)
    (answer : Answer) : Moves size history (.answer number answer) := by
  have other {sender : Nat} {state : DatagramSender Nat} {stage : DatagramSender.Stage}
      (uses : history.fleet.sender? number = some sender)
      (known : history.fleet.senders[sender]? = some state) (used : state.Used number stage)
      (other : stage.awaits answer = false) : Moves size history (.answer number answer) := by
    refine moves_of_still lending rfl rfl
      (reaches_of_same uses known (used.answered_other other) history.now) ?_
    cases answer with
    | closed | sent => rfl
    | opened result =>
        cases result with
        | error _ => rfl
        | ok _ =>
            rw [History.notes, joined_eq uses known used]
            cases stage <;> first | rfl | cases other
  have unused (uses : history.fleet.sender? number = none) :
      Moves size history (.answer number answer) := by
    refine moves_of_still lending rfl rfl (reaches_of_none uses history.now _) ?_
    cases answer with
    | closed | sent => rfl
    | opened result =>
        cases result with
        | error _ => rfl
        | ok _ => simp only [History.notes, joined, uses]
  cases found : history.fleet.pool.calls.lookup number with
  | none => exact unused (sender?_of_missed found)
  | some stage =>
      have uses := sender?_of_found found
      obtain ⟨data, _, rfl | ⟨sender, rfl⟩ | ⟨sender, failure, rfl⟩⟩ := lending.cases_stage found
      · exact unused uses
      · obtain ⟨state, known, holds⟩ := staffed.leased number _ sender found rfl
        cases holds with
        | sends owns used =>
            cases answer with
            | sent result => exact moves_sent lending found known owns used result
            | opened | closed => exact other uses known used rfl
      · obtain ⟨state, known, holds⟩ := staffed.leased number _ sender found rfl
        cases holds with
        | replaces _ _ used =>
            cases answer with
            | closed => exact moves_closed lending found known used
            | opened | sent => exact other uses known used rfl
        | opens _ _ used =>
            cases answer with
            | opened result => exact (moves_opened lending found known used result).1
            | closed | sent => exact other uses known used rfl

/-- A call is given up on its sender first, and then on the pool. -/
theorem reaches_abandon {between : Fleet Nat} {pool : Pool Nat} {woken : List Nat}
    (left : Reaches (fleet.ofSender 0 number (·.depart number)) between [])
    (gone : between.pool.abandon number = (pool, woken.map .ready)) :
    Reaches (fleet.abandon number) (between.pooled pool) [] := by
  have given :
      Reaches (between.ofPool 0 (between.pool.abandon number)) (between.pooled pool) [] := by
    have woke := @Leads.reaches_of_woken 0 0 between (between.pooled pool) [] pool woken [] .rests
      (Nat.zero_le 16)
    rw [List.append_nil] at woke
    rwa [gone]
  obtain ⟨rfl, silent⟩ := left
  obtain ⟨reached, quiet⟩ := given
  refine ⟨reached, ?_⟩
  rw [abandon, told_append, silent]
  exact quiet

/-- A send that is given up gives its sender back. -/
theorem moves_yield (lending : Pool.Lending size history.now history.sends history.fleet.pool)
    (found : history.fleet.pool.calls.lookup number = some stage)
    (leased : stage.leased? = some sender) (uses : stage.sender? = some sender)
    {state : DatagramSender Nat} {point : DatagramSender.Stage}
    (known : history.fleet.senders[sender]? = some state) (used : state.Used number point)
    (gives : history.fleet.pool.abandon number =
      (history.fleet.pool.remove number).giveBack sender) :
    Moves size history (.abandon number) := by
  obtain ⟨queue, woken, pushed, back⟩ := lending.push found leased
  have gone : history.fleet.pool.abandon number =
      ({ history.fleet.pool with queue }.remove number, woken.map .ready) := by
    have same : (history.fleet.pool.remove number).queue.push? sender = some (queue, woken) :=
      pushed
    rw [gives, Pool.giveBack, same]
    rfl
  have left : Reaches (history.fleet.ofSender 0 number (·.depart number)) _ [] :=
    Leads.reaches_of_sender ((sender?_of_found found).trans uses) known used.depart_eq .rests
      (Nat.zero_le _)
  have lends := lending.abandon number
  rw [gone] at lends
  refine moves_of_reaches (reaches_abandon left gone) ?_ lends
  rw [History.notes, dropped, found]
  exact .yields found leased known back

theorem Staffed.moves_abandon (staffed : Staffed address history.fleet)
    (lending : Pool.Lending size history.now history.sends history.fleet.pool) (number : Nat) :
    Moves size history (.abandon number) := by
  cases found : history.fleet.pool.calls.lookup number with
  | none =>
      have uses := sender?_of_missed found
      have gone : history.fleet.pool.abandon number =
          (history.fleet.pool, ([] : List Nat).map .ready) := by
        simp only [Pool.abandon, found, Pool.remove, struck_of_absent (absent_of_lookup found),
          List.map_nil]
      refine moves_of_still lending rfl rfl (reaches_abandon (reaches_of_none uses 0 _) gone) ?_
      rw [History.notes, dropped, found]
      rfl
  | some stage =>
      obtain ⟨data, _, rfl | ⟨sender, rfl⟩ | ⟨sender, failure, rfl⟩⟩ := lending.cases_stage found
      · let given := history.fleet.pool.queue.abandon number
        have gone : history.fleet.pool.abandon number =
            ({ history.fleet.pool with queue := given.1 }.remove number, given.2.map .ready) := by
          simp only [Pool.abandon, found, given]
        have lends := lending.abandon number
        rw [gone] at lends
        have still := reaches_of_none (sender?_of_found found) 0 (·.depart number)
        refine moves_of_reaches (reaches_abandon still gone) ?_ lends
        rw [History.notes, dropped, found]
        exact .leaves found (Pool.items_abandon _ _)
      · obtain ⟨state, known, holds⟩ := staffed.leased number _ sender found rfl
        cases holds with
        | sends owns used =>
            exact moves_yield lending found rfl rfl known used (by simp only [Pool.abandon, found])
      · obtain ⟨state, known, holds⟩ := staffed.leased number _ sender found rfl
        cases holds with
        | replaces _ _ used | opens _ _ used =>
            exact moves_yield lending found rfl rfl known used (by simp only [Pool.abandon, found])

theorem Staffed.moves (staffed : Staffed address history.fleet)
    (lending : Pool.Lending size history.now history.sends history.fleet.pool) (event : Event) :
    Moves size history event := by
  cases event with
  | send data => exact staffed.moves_send lending data
  | turn number => exact staffed.moves_turn lending number
  | answer number answer => exact staffed.moves_answer lending number answer
  | abandon number => exact staffed.moves_abandon lending number
  | pass millis => exact ⟨.stays, lending.pass millis⟩

end Fleet

end ReliableTransport
