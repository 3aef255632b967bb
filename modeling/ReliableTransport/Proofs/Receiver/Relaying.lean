import ReliableTransport.Proofs.Receiver.Runs
import ReliableTransport.Proofs.Receiver.Unfolding
/-!
This module says what a receiver passes on and whom it turns away. The data of a connection reaches
the handlers in the order in which it came, and it is counted once. Every handler is asked about a
new connection, and one that is vetoed leaves no trace. A turn of a loop is a run of moments, so all
this holds of the turns as well.
-/

namespace ReliableTransport

namespace DatagramReceiver

variable {Handler : Type}

/-- A handler is told of data. -/
def Order.passes : Order Handler → Bool
  | .received _ _ => true
  | _ => false

/-- A handler is asked about a remote. -/
def Order.asks : Order Handler → Bool
  | .asked _ _ _ => true
  | _ => false

/-- A call that a handler made while it was called does that. -/
def Order.isOwn : Order Handler → Bool
  | .disconnected _ | .close _ => true
  | _ => false

section Passing

variable (receiver : DatagramReceiver Handler)

/-- Whoever is told of data is told. -/
theorem filter_passes (turn : ReceiverTurn Handler) :
    (Effect.orders turn.2).filter Order.passes = (told turn).filter Order.passes := by
  rw [told, List.filter_filter]
  refine List.filter_congr fun order _ => ?_
  cases order <;> rfl

theorem filter_passes_conclude (conduct : Conduct Handler) (loop : Loop) (reason : EndReason) :
    (told (receiver.conclude conduct loop reason)).filter Order.passes = [] := by
  rw [told_conclude, List.filter_eq_nil_iff]
  intro order among
  split at among
  · obtain ⟨_, _, rfl⟩ := List.mem_map.mp among
    exact Bool.false_ne_true
  · cases among

/-- The data that a loop takes goes to the handlers that are subscribed then, once to each. -/
theorem passed_take (conduct : Conduct Handler) (loop : Loop) :
    (told (receiver.take conduct loop)).filter Order.passes =
      (receiver.passes loop).flatMap fun delivery =>
        receiver.receiveHandlers.handlers.map fun handler =>
          .received handler { remote := delivery.1.remote, data := delivery.2 } := by
  match found : (receiver.inflow loop.connection.number).receptions with
  | .ok data :: rest =>
      simp only [take, DatagramReceiver.passes, found, deliver, told_tellEach]
      rw [List.filter_eq_self.mpr (by simp [Order.passes]), List.flatMap_singleton]
      rfl
  | .error kind :: rest =>
      simp only [take, DatagramReceiver.passes, found]
      exact receiver.filter_passes_conclude conduct loop _
  | [] =>
      simp only [take, DatagramReceiver.passes, found]
      split
      · exact receiver.filter_passes_conclude conduct loop _
      · rfl

theorem Moment.passed_turn (moment : Moment Handler) :
    (Effect.orders (moment.turn receiver).2).filter Order.passes =
      (moment.delivers receiver).flatMap fun delivery =>
        receiver.receiveHandlers.handlers.map fun handler =>
          .received handler { remote := delivery.1.remote, data := delivery.2 } := by
  rw [filter_passes]
  have quiet {turn : ReceiverTurn Handler} (silent : told turn = []) :
      (told turn).filter Order.passes = [] := by
    rw [silent]
    rfl
  cases moment with
  | call number made => exact quiet (receiver.told_begin (.caller number) made)
  | answer role result => exact quiet (receiver.told_bound role result)
  | abandon role => rfl
  | accept conduct socket =>
      refine quiet ?_
      rw [Moment.turn]
      split
      · exact told_acceptEach conduct receiver socket 1 receiver.arrivals
      · rfl
  | hear conduct id =>
      rw [Moment.turn, Moment.delivers]
      cases receiver.loop? id with
      | none => rfl
      | some loop => exact receiver.passed_take conduct loop
  | quit id =>
      refine quiet ?_
      rw [Moment.turn]
      split
      · split <;> rfl
      · rfl

/-- A moment passes one message on at most. -/
theorem Moment.length_delivers_le (moment : Moment Handler) :
    (moment.delivers receiver).length ≤ 1 := by
  rw [Moment.delivers.eq_def]
  split
  · split
    · rw [DatagramReceiver.passes]
      split <;> simp
    · exact Nat.zero_le _
  · exact Nat.zero_le _

end Passing

section Asking

variable (receiver : DatagramReceiver Handler) (conduct : Conduct Handler) (task : Role)

theorem isOwn_of_mem_stop {order : Order Handler}
    (among : order ∈ Effect.orders (receiver.stop task).2) : order.isOwn = true := by
  rw [stop, Turn.andThen_snd, abortEach_eq, Effect.orders_append] at among
  cases active : receiver.acceptor.stop.2 with
  | none => simp [active, Effect.orders] at among
  | some socket =>
      obtain rfl : order = .close socket := by simpa [active, Effect.orders] using among
      rfl

theorem orders_disconnect (remote : Address) :
    Effect.orders (receiver.disconnect remote).1.2 = [] := by
  rw [disconnect]
  split <;> rfl

/-- What a handler does while it is called is its own. -/
theorem isOwn_of_mem_obeyEach {commands : List Command} {order : Order Handler}
    (among : order ∈ Effect.orders (receiver.obeyEach task commands).2) : order.isOwn = true := by
  induction commands generalizing receiver with
  | nil => cases among
  | cons command rest ih =>
      rw [obeyEach, Turn.andThen_snd, Effect.orders_append, List.mem_append] at among
      refine among.elim (fun first => ?_) (ih _)
      cases command with
      | stop => exact receiver.isOwn_of_mem_stop task first
      | disconnect remote =>
          rw [obey, Turn.andThen_snd, Effect.orders_append, orders_disconnect] at first
          obtain rfl := List.mem_singleton.mp first
          rfl

/-- Every handler is asked, one after the other, whatever the others answer. Beside that there is
only what they do themselves. -/
theorem orders_askEach (remote : Address) (handlers : List Handler) :
    let orders := Effect.orders (askEach conduct task remote handlers receiver).1.2
    orders.filter Order.asks =
        handlers.map (fun handler => .asked handler remote (conduct.asked handler remote).1) ∧
      ∀ order ∈ orders, order.asks = true ∨ order.isOwn = true := by
  induction handlers generalizing receiver with
  | nil => exact ⟨rfl, nofun⟩
  | cons handler rest ih =>
      generalize commands : (conduct.asked handler remote).2 = own
      obtain ⟨asked, others⟩ := ih (receiver.obeyEach task own).1
      have orders : Effect.orders (askEach conduct task remote (handler :: rest) receiver).1.2 =
          .asked handler remote (conduct.asked handler remote).1 ::
            (Effect.orders (receiver.obeyEach task own).2 ++
              Effect.orders (askEach conduct task remote rest
                (receiver.obeyEach task own).1).1.2) := by
        rw [← Effect.orders_append, ← commands]
        rfl
      have quiet : (Effect.orders (receiver.obeyEach task own).2).filter Order.asks = [] := by
        rw [List.filter_eq_nil_iff]
        intro order among asks
        have is := receiver.isOwn_of_mem_obeyEach task among
        cases order <;> simp_all [Order.asks, Order.isOwn]
      refine ⟨?_, fun order among => ?_⟩
      · rw [orders, List.filter_cons_of_pos rfl, List.filter_append, quiet, asked]
        rfl
      · rw [orders] at among
        rcases List.mem_cons.mp among with rfl | later
        · exact .inl rfl
        rcases List.mem_append.mp later with here | behind
        · exact .inr (receiver.isOwn_of_mem_obeyEach task here)
        · exact others order behind

theorem orders_register (connection : Connection) :
    Effect.orders (receiver.register connection).2 = [] := by
  rw [register, Turn.andThen_snd, abortEach_eq, Effect.orders_append]
  cases receiver.endpoints.lookup connection.remote <;> rfl

/-- A connection that a handler vetoes is let go of when all have been asked. -/
theorem orders_takeOver (connection : Connection) :
    Effect.orders (receiver.takeOver conduct task connection).2 =
      Effect.orders (askEach conduct task connection.remote receiver.acceptHandlers.handlers
          receiver).1.2 ++
        if conduct.allows receiver.acceptHandlers.handlers connection.remote then []
        else [.release connection.number] := by
  rw [takeOver, Turn.andThen_snd, Effect.orders_append, askEach_snd]
  split
  · rw [orders_register]
  · rfl

theorem not_allows_iff (handlers : List Handler) (remote : Address) :
    ¬conduct.allows handlers remote = true ↔
      ∃ handler ∈ handlers, (conduct.asked handler remote).1 = false := by
  simp [Conduct.allows]

end Asking

/-- A receiver to which a connection is of no concern any more. -/
def without (receiver : DatagramReceiver Handler) (connection : Nat) : DatagramReceiver Handler :=
  { receiver with inflows := receiver.inflows.filter fun entry => entry.1 != connection }

/-- How a receiver deals with the first connection that waits: all handlers are asked in order, and
the connection is let go of if one of them vetoes it, and gets its place in the table otherwise. A
connection that was vetoed is gone, and apart from that the receiver is as the handlers left it by
their own calls. Nobody is told of anything. -/
structure Judged (conduct : Conduct Handler) (socket : Nat) (receiver : DatagramReceiver Handler)
    (connection : Connection) (rest : List (Except Failure Connection))
    (turn : ReceiverTurn Handler) : Prop where
  asked : (Effect.orders turn.2).filter Order.asks =
    receiver.acceptHandlers.handlers.map fun handler =>
      .asked handler connection.remote (conduct.asked handler connection.remote).1
  rejected : .release connection.number ∈ Effect.orders turn.2 ↔
    ∃ handler ∈ receiver.acceptHandlers.handlers,
      (conduct.asked handler connection.remote).1 = false
  admitted : .release connection.number ∉ Effect.orders turn.2 →
    turn.1.endpoints.lookup connection.remote = some receiver.nextLoop ∧
      ∃ loop ∈ turn.1.loops, loop.id = receiver.nextLoop ∧ loop.connection = connection
  spared : .release connection.number ∈ Effect.orders turn.2 →
    let asked := (receiver.withArrivals rest).complyAll (askedFor conduct receiver connection)
    turn.1 = if asked.acceptor.goesOn socket then asked.without connection.number
      else ((asked.without connection.number).endAccepting socket).1
  untold : told turn = []

/-- Where handlers only answer, a connection that is vetoed changes neither the table nor a loop nor
the count. -/
theorem Judged.untouched {conduct : Conduct Handler} {socket : Nat}
    {receiver : DatagramReceiver Handler} {connection : Connection}
    {rest : List (Except Failure Connection)} {turn : ReceiverTurn Handler}
    (judged : Judged conduct socket receiver connection rest turn)
    (released : .release connection.number ∈ Effect.orders turn.2)
    (answersOnly : askedFor conduct receiver connection = []) :
    turn.1.endpoints = receiver.endpoints ∧ turn.1.loops = receiver.loops ∧
      turn.1.bytesReceived = receiver.bytesReceived := by
  have spared := judged.spared released
  rw [answersOnly] at spared
  rw [spared]
  split <;> exact ⟨rfl, rfl, rfl⟩

section Judging

variable (receiver : DatagramReceiver Handler) (conduct : Conduct Handler)

theorem register_place (connection : Connection) :
    (receiver.register connection).1.endpoints.lookup connection.remote =
        some receiver.nextLoop ∧
      ∃ loop ∈ (receiver.register connection).1.loops,
        loop.id = receiver.nextLoop ∧ loop.connection = connection := by
  rw [register, Turn.andThen_fst, abortEach_eq]
  constructor
  · exact (lookup_moved receiver.endpoints _ _ _).trans (if_pos rfl)
  · exact mem_cut_of_mem (List.mem_append_right _ List.mem_cons_self)

theorem complyAll_nextLoop (commands : List Command) :
    (receiver.complyAll commands).nextLoop = receiver.nextLoop := by
  obtain ⟨_, _, _, same⟩ := receiver.complyAll_frame commands
  rw [same]

variable {receiver}

/-- The turn in which a loop takes a connection over or lets go of it. -/
theorem turn_accept_eq {socket : Nat} {connection : Connection}
    {rest : List (Except Failure Connection)} (goesOn : receiver.acceptor.goesOn socket = true)
    (arrivals : receiver.arrivals = .ok connection :: rest) :
    let turn := (Moment.accept conduct socket).turn receiver
    let taken := (receiver.withArrivals rest).takeOver conduct (.acceptLoop socket) connection
    turn.1 = (if taken.1.acceptor.goesOn socket then taken.1 else (taken.1.endAccepting socket).1) ∧
      Effect.orders turn.2 = Effect.orders taken.2 ∧ told turn = [] := by
  intro turn taken
  have parts : turn = _ := receiver.turn_accept goesOn arrivals
  have same : taken.1.withArrivals rest = taken.1 := by
    have kept : taken.1.arrivals = rest := takeOver_arrivals conduct _ _ connection
    rw [← kept]
    rfl
  refine ⟨?_, ?_, ?_⟩
  · rw [parts, Turn.andThen_fst]
    exact (apply_ite Prod.fst _ _ _).trans (by rw [same])
  · rw [parts, Turn.andThen_snd, Effect.orders_append]
    refine (congrArg _ ?_).trans (List.append_nil _)
    split <;> rfl
  · rw [parts, told_andThen, told_takeOver, List.nil_append]
    split <;> rfl

/-- A loop deals with the first connection that waits as the handlers say. -/
theorem turn_judged {socket : Nat} {connection : Connection}
    {rest : List (Except Failure Connection)} (goesOn : receiver.acceptor.goesOn socket = true)
    (arrivals : receiver.arrivals = .ok connection :: rest) :
    Judged conduct socket receiver connection rest
      ((Moment.accept conduct socket).turn receiver) := by
  obtain ⟨after, orders, untold⟩ := turn_accept_eq conduct goesOn arrivals
  generalize (Moment.accept conduct socket).turn receiver = turn at after orders untold ⊢
  have taken := takeOver_fst conduct (.acceptLoop socket) connection (receiver.withArrivals rest)
  rw [orders_takeOver] at orders
  generalize (receiver.withArrivals rest).takeOver conduct (.acceptLoop socket) connection = took
    at after taken
  obtain ⟨asked, others⟩ := (receiver.withArrivals rest).orders_askEach conduct
    (.acceptLoop socket) connection.remote receiver.acceptHandlers.handlers
  rw [withArrivals_acceptHandlers] at orders taken
  generalize Effect.orders (askEach conduct (.acceptLoop socket) connection.remote
    receiver.acceptHandlers.handlers (receiver.withArrivals rest)).1.2 = questions
    at asked others orders
  have unasked : .release connection.number ∉ questions := fun among =>
    (others _ among).elim Bool.false_ne_true Bool.false_ne_true
  have rejected : .release connection.number ∈ Effect.orders turn.2 ↔
      ¬conduct.allows receiver.acceptHandlers.handlers connection.remote = true := by
    rw [orders, List.mem_append, or_iff_right unasked]
    split
    next allowed => simp [allowed]
    next vetoed => simp [vetoed]
  refine ⟨?_, rejected.trans (not_allows_iff conduct _ _), fun kept => ?_, fun released => ?_,
    untold⟩
  · rw [orders, List.filter_append, asked]
    refine (congrArg _ ?_).trans (List.append_nil _)
    split <;> rfl
  · have allowed := not_not.mp (mt rejected.mpr kept)
    have place := register_place ((receiver.withArrivals rest).complyAll
      (askedFor conduct receiver connection)) connection
    rw [complyAll_nextLoop] at place
    rw [if_pos allowed] at taken
    rw [after, taken]
    split <;> exact place
  · have vetoed := rejected.mp released
    rw [if_neg vetoed] at taken
    rw [after, taken]
    rfl

end Judging

namespace Relay

/-- Whatever happens to a receiver, in whatever order and however handlers behave: what was passed
on from a connection is what it brought first, in order and before any failure, and what else it
brought is still to be taken. The count is that of all data that was passed on. Each time, one
message goes to the handlers that are subscribed then, once to each. A connection that waits is
judged by all accept handlers and leaves nothing behind if one of them vetoes it. And whatever turns
the tasks of a receiver take, they are made of such moments. -/
theorem run_relays (bindAddress : Address) (limits : ReceiveLimits)
    (moments : List (Moment Handler)) :
    let reached := (opened bindAddress limits).run moments
    let receiver := reached.receiver
    (∀ number, dataOf reached.delivered number <+: intact (receptionsOf reached.brought number)) ∧
      (∀ number inflow, receiver.inflows.lookup number = some inflow →
        receptionsOf reached.brought number =
          (dataOf reached.delivered number).map .ok ++ inflow.receptions) ∧
      receiver.bytesReceived.toNat =
        (reached.delivered.map fun delivery => delivery.2.length).sum % 2 ^ 64 ∧
      (∀ moment : Moment Handler, (moment.delivers receiver).length ≤ 1 ∧
        (Effect.orders (moment.turn receiver).2).filter Order.passes =
          (moment.delivers receiver).flatMap fun delivery =>
            receiver.receiveHandlers.handlers.map fun handler =>
              .received handler { remote := delivery.1.remote, data := delivery.2 }) ∧
      (∀ conduct socket connection rest, receiver.acceptor.goesOn socket = true →
        receiver.arrivals = .ok connection :: rest →
          let turn := (Moment.accept conduct socket).turn receiver
          Judged conduct socket receiver connection rest turn ∧
            (.release connection.number ∈ Effect.orders turn.2 →
              askedFor conduct receiver connection = [] →
                turn.1.endpoints = receiver.endpoints ∧ turn.1.loops = receiver.loops ∧
                  turn.1.bytesReceived = receiver.bytesReceived)) ∧
      ∀ occurrences, ∃ others : List (Moment Handler),
        let chronicle := (Chronicle.opened bindAddress limits).run occurrences
        let relay := (opened bindAddress limits).run others
        relay.receiver = chronicle.history.receiver ∧ relay.orders = chronicle.orders ∧
          relay.brought = chronicle.brought := by
  intro reached receiver
  have relayed : Relayed receiver reached.brought reached.delivered :=
    run_relayed bindAddress limits moments
  refine ⟨fun number => prefix_intact (relayed.passed number), relayed.held, ?_,
    fun moment => ⟨moment.length_delivers_le receiver, moment.passed_turn receiver⟩,
    fun conduct socket connection rest goesOn arrivals => ?_,
    Chronicle.run_moments bindAddress limits⟩
  · rw [relayed.counted]
    exact UInt64.toNat_ofNat'
  · have judged := turn_judged conduct goesOn arrivals
    exact ⟨judged, judged.untouched⟩

def home : Address := { host := .dotted 127 0 0 1, port := 4530 }

def peer (port : UInt16) : Address := { host := .dotted 127 0 0 1, port }

/-- Handlers that make no calls of their own, and of which the one with number zero vetoes
everything. -/
def answering : Conduct Nat where
  asked handler _ := (handler != 0, [])
  received _ _ := []
  ended _ _ _ := []

/-- Two connections bring something by turns, and another one from a remote of theirs waits. -/
def crossing : List (Moment Nat) :=
  [.call 0 .start, .answer (.caller 0) (.ok ()), .call 1 (.subscribe .reception 5),
    .call 2 (.arrive (peer 1)), .call 3 (.arrive (peer 2)), .accept answering 0,
    .accept answering 0, .call 4 (.bring 0 [.ok [97], .ok [98]]), .call 5 (.bring 1 [.ok [99]]),
    .hear answering 0, .hear answering 1, .call 6 (.subscribe .acceptance 0),
    .call 7 (.subscribe .acceptance 6), .call 8 (.arrive (peer 1))]

/-- The new connection is vetoed, and the old one keeps its place. -/
theorem run_relays_crossing :
    let reached := (opened home {}).run crossing
    let receiver := reached.receiver
    let turn := (Moment.accept answering 0).turn receiver
    reached.delivered.map Prod.snd = [[97], [99]] ∧ receiver.bytesReceived.toNat = 2 ∧
      receiver.acceptor.goesOn 0 = true ∧
      receiver.arrivals = [.ok { number := 2, remote := peer 1 }] ∧
      .release 2 ∈ Effect.orders turn.2 ∧ turn.1.endpoints = [(peer 1, 0), (peer 2, 1)] := by
  intro reached receiver turn
  obtain ⟨-, -, counted, -, judges, -⟩ := run_relays home {} crossing
  have delivered : reached.delivered.map Prod.snd = [[97], [99]] := by decide
  have goesOn : receiver.acceptor.goesOn 0 = true := by decide
  have arrivals : receiver.arrivals = [.ok { number := 2, remote := peer 1 }] := by rfl
  obtain ⟨judged, untouched⟩ := judges answering 0 _ [] goesOn arrivals
  have handlers : receiver.acceptHandlers.handlers = [0, 6] := by decide
  have released : .release 2 ∈ Effect.orders turn.2 := by
    refine judged.rejected.mpr ⟨0, ?_, rfl⟩
    rw [handlers]
    exact List.mem_cons_self
  have table : receiver.endpoints = [(peer 1, 0), (peer 2, 1)] := by decide
  refine ⟨delivered, ?_, goesOn, arrivals, released, ?_⟩
  · rw [counted]
    decide
  · rw [(untouched released ?_).1, table]
    rw [askedFor, handlers]
    rfl

end Relay

end DatagramReceiver

end ReliableTransport
