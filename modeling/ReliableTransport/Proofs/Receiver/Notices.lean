import ReliableTransport.Proofs.Receiver.Runs
/-!
This module says what the table of a receiver knows and which ends of connections handlers are told
of: the table knows the connections that stand, each of them can end once, and it is no longer in the
table when handlers are told.
-/

namespace ReliableTransport

namespace DatagramReceiver

variable {Handler : Type} {conduct : Conduct Handler} {receiver : DatagramReceiver Handler}
  {deeds : List Deed} {connection : Connection} {reason : EndReason}

/-- Handlers are told of the end of a connection. -/
def Deed.ends (connection : Connection) : Deed → Bool
  | .ended other _ => other = connection
  | _ => false

/-- The deed is about what a connection brought. -/
def Deed.incoming : Deed → Bool
  | .delivered _ _ | .ended _ _ | .lapsed _ _ => true
  | _ => false

theorem Command.not_incoming (command : Command) : command.deed.incoming = false := by
  cases command <;> rfl

theorem Deed.of_ends {deed : Deed} (ends : deed.ends connection = true) :
    ∃ reason, deed = .ended connection reason := by
  cases deed with
  | ended other reason =>
      obtain rfl : other = connection := by simpa [Deed.ends] using ends
      exact ⟨reason, rfl⟩
  | _ => cases ends

theorem Orderly.nodup_connections (orderly : Orderly receiver deeds) :
    (connections deeds).Nodup :=
  (List.nodup_append.mp (List.Nodup.of_map _ orderly.distinct)).1

/-- A connection that stands has not ended before. -/
theorem ended_not_mem
    (logged : ∀ front deed later, deeds = front ++ deed :: later → deed.Fits front)
    (once : (connections deeds).Nodup) (stands : Stands deeds connection) :
    .ended connection reason ∉ deeds := by
  intro ended
  obtain ⟨front, later, rfl, spared⟩ := stands
  rcases List.mem_append.mp ended with before | after
  · obtain ⟨first, rest, rfl⟩ := List.append_of_mem before
    have stood : Stands first connection :=
      logged first (.ended connection reason) (rest ++ .connected connection :: later) (by simp)
    have made : connection ∈ connections (first ++ .ended connection reason :: rest) := by
      rw [connections_append]
      exact List.mem_append_left _ stood.mem_connections
    rw [connections_append, List.nodup_append] at once
    exact once.2.2 connection made connection List.mem_cons_self rfl
  · rcases List.mem_cons.mp after with is | dismissed
    · cases is
    · exact spared _ dismissed rfl

/-- Handlers are told of the end of a connection at most once. -/
theorem countP_ends_le_one
    (logged : ∀ front deed later, deeds = front ++ deed :: later → deed.Fits front)
    (once : (connections deeds).Nodup) : deeds.countP (Deed.ends connection) ≤ 1 := by
  induction deeds using List.reverseRecOn with
  | nil => exact Nat.zero_le _
  | append_singleton deeds deed ih =>
      have former (front : List Deed) (other : Deed) (later : List Deed)
          (same : deeds = front ++ other :: later) : other.Fits front :=
        logged front other (later ++ [deed]) (by simp [same])
      rw [connections_append] at once
      have before := (List.nodup_append.mp once).1
      rw [List.countP_append, List.countP_singleton]
      split
      · next ends =>
        obtain ⟨reason, rfl⟩ := Deed.of_ends ends
        have stands : Stands deeds connection := logged deeds (.ended connection reason) [] rfl
        have none : deeds.countP (Deed.ends connection) = 0 := by
          refine List.countP_eq_zero.mpr fun deed among again => ?_
          obtain ⟨reason, rfl⟩ := Deed.of_ends again
          exact ended_not_mem former before stands among
        exact Nat.le_of_eq (congrArg (· + 1) none)
      · exact ih former before

/-- What is noted while a loop passes data on. -/
theorem mem_receptions {data : List Bytes} {deed : Deed} :
    deed ∈ data.flatMap (reception conduct receiver connection) ↔
      (∃ first ∈ data, deed = .delivered connection first) ∨
        ∃ command ∈ toldOf conduct receiver connection data, deed = command.deed := by
  simp only [List.mem_flatMap, reception, List.mem_cons, List.mem_map, toldOf_singleton]
  simp only [toldOf, Conduct.onHeard, List.mem_flatMap (l := data)]
  constructor
  · rintro ⟨first, heard, is | ⟨command, told, is⟩⟩
    · exact .inl ⟨first, heard, is⟩
    · exact .inr ⟨command, ⟨first, heard, told⟩, is.symm⟩
  · rintro (⟨first, heard, is⟩ | ⟨command, ⟨first, heard, told⟩, is⟩)
    · exact ⟨first, heard, .inl is⟩
    · exact ⟨first, heard, .inr ⟨command, told, is.symm⟩⟩

/-- What is noted while handlers are asked about a connection and heeded. -/
theorem of_mem_admission {deed : Deed} (among : deed ∈ admission conduct receiver connection) :
    (∃ command ∈ askedFor conduct receiver connection, deed = command.deed) ∨
      deed = .connected connection ∧
        conduct.allows receiver.acceptHandlers.handlers connection.remote = true ∨
      deed = .vetoed connection := by
  rcases List.mem_append.mp among with does | last
  · obtain ⟨command, asked, rfl⟩ := List.mem_map.mp does
    exact .inl ⟨command, asked, rfl⟩
  · rw [List.mem_singleton] at last
    split at last
    · next allowed => exact .inr (.inl ⟨last, allowed⟩)
    · exact .inr (.inr last)

/-- Only the loop of a connection passes data on or finds that it has ended. -/
theorem turn_of_incoming {event : Event Handler} {deed : Deed} (incoming : deed.incoming = true)
    (among : deed ∈ deedsOf conduct receiver event) : ∃ id, event = .turn (.receiveLoop id) := by
  match event with
  | .call call =>
      cases call <;> simp only [deedsOf, List.mem_singleton, List.not_mem_nil] at among <;>
        (subst among; cases incoming)
  | .turn (.caller _) => cases among
  | .turn (.acceptLoop socket) =>
      obtain ⟨other, _, noted⟩ := List.mem_flatMap.mp among
      rcases of_mem_admission noted with ⟨command, _, rfl⟩ | ⟨rfl, _⟩ | rfl
      · rw [command.not_incoming] at incoming
        cases incoming
      · cases incoming
      · cases incoming
  | .turn (.receiveLoop id) => exact ⟨id, rfl⟩
  | .answer role result =>
      rw [deedsOf] at among
      split at among
      · rw [List.mem_singleton.mp among] at incoming
        cases incoming
      · cases among
  | .abandon role => cases among

theorem of_ended_mem_conclusion {loop : Loop} {why : EndReason}
    (ended : .ended connection reason ∈ conclusion conduct receiver loop why) :
    receiver.endpoints.lookup loop.connection.remote = some loop.id ∧
      connection = loop.connection ∧ reason = why := by
  rw [conclusion] at ended
  split at ended
  · next own =>
    rcases List.mem_cons.mp ended with is | does
    · exact ⟨own, Deed.ended.inj is⟩
    · obtain ⟨command, _, is⟩ := List.mem_map.mp does
      cases command <;> cases is
  · cases List.mem_singleton.mp ended

/-- A loop that tells of an end has found it, and it is in the table when it does. -/
theorem of_ended_mem_receipt {loop : Loop}
    (ended : .ended connection reason ∈ receipt conduct receiver loop) :
    receiver.ends? conduct loop = some reason ∧ connection = loop.connection ∧
      (receiver.complyAll
        (toldOf conduct receiver loop.connection (receiver.hears conduct loop))).endpoints.lookup
          loop.connection.remote = some loop.id := by
  rw [receipt] at ended
  rcases List.mem_append.mp ended with noted | concluded
  · rcases mem_receptions.mp noted with ⟨_, _, is⟩ | ⟨command, _, is⟩
    · cases is
    · cases command <;> cases is
  · cases ends : receiver.ends? conduct loop with
    | none =>
        rw [ends] at concluded
        cases concluded
    | some why =>
        rw [ends] at concluded
        obtain ⟨own, rfl, rfl⟩ := of_ended_mem_conclusion concluded
        exact ⟨rfl, rfl, own⟩

/-- A loop leaves the table before handlers are told. -/
theorem conclude_own {loop : Loop} {remote : Address} (is : loop.connection.remote = remote)
    (own : receiver.endpoints.lookup remote = some loop.id) :
    receiver.conclude conduct loop reason =
      Turn.andThen ((receiver.endLoop loop).1.strike remote, (receiver.endLoop loop).2)
        (tellEndEach conduct (.receiveLoop loop.id) remote reason
          receiver.endHandlers.handlers) := by
  subst is
  have kept : (receiver.endLoop loop).1.endpoints = receiver.endpoints := rfl
  rw [conclude, Turn.andThen, kept, if_pos own]
  rfl

/-- A loop whose connection ends passes on what came in before, and then it is over. -/
theorem receive_ends {id : Nat} {loop : Loop} (awake : receiver.awake? id = some loop)
    (ends : receiver.ends? conduct loop = some reason) :
    receiver.receive conduct id =
      Turn.andThen (deliverEach conduct loop (receiver.hears conduct loop) receiver) fun reached =>
        reached.conclude conduct loop reason := by
  let passed := (deliverEach conduct loop (receiver.hears conduct loop) receiver).1
  obtain ⟨bytes, delivered⟩ : ∃ bytes, passed = (receiver.withBytes bytes).complyAll _ :=
    deliverEach_fst conduct loop receiver (receiver.hears conduct loop)
  have last : passed.endTurn conduct loop conduct.shares.receptions
      (receiver.inflow loop.connection.number).receptions = passed.conclude conduct loop reason := by
    rw [ends?] at ends
    rw [endTurn, delivered, complyAll_inflow, withBytes_inflow, ends]
  rw [receive_awake awake, Turn.andThen, Turn.andThen, last]

/-- When handlers are told of the end of a connection, it is in the table no longer, and what they
were told before in the same turn is only what the connection brought. -/
theorem receive_ended {id : Nat}
    (ended : .ended connection reason ∈
      (receiver.awake? id).elim [] (receipt conduct receiver)) :
    ∃ (loop : Loop) (reached : DatagramReceiver Handler)
      (effects : List (Effect Role (Order Handler) Reply)),
      receiver.awake? id = some loop ∧ loop.connection = connection ∧
        receiver.ends? conduct loop = some reason ∧
        reached.endpoints.lookup connection.remote = none ∧
        (∀ order ∈ told (reached, effects), ∃ handler data,
          order = .received handler { remote := connection.remote, data }) ∧
        receiver.receive conduct id =
          Turn.andThen (reached, effects)
            (tellEndEach conduct (.receiveLoop id) connection.remote reason
              receiver.endHandlers.handlers) := by
  cases awake : receiver.awake? id with
  | none =>
      rw [awake] at ended
      cases ended
  | some loop =>
      obtain rfl : loop.id = id := by
        simpa using List.find?_some (awake?_eq_some.mp awake).1
      rw [awake, Option.elim_some] at ended
      obtain ⟨ends, rfl, own⟩ := of_ended_mem_receipt ended
      obtain ⟨bytes, delivered⟩ :=
        deliverEach_fst conduct loop receiver (receiver.hears conduct loop)
      have brought := told_deliverEach conduct loop receiver (receiver.hears conduct loop)
      rw [receive_ends awake ends]
      generalize deliverEach conduct loop (receiver.hears conduct loop) receiver = turn
        at brought delivered
      have place : turn.1.endpoints.lookup loop.connection.remote = some loop.id := by
        rw [delivered, complyAll_withBytes]
        exact own
      have handlers : turn.1.endHandlers = receiver.endHandlers := by
        rw [delivered, complyAll_endHandlers]
        rfl
      refine ⟨loop, (turn.1.endLoop loop).1.strike loop.connection.remote,
        turn.2 ++ (turn.1.endLoop loop).2, rfl, rfl, ends, ?_, fun order among => ?_, ?_⟩
      · rw [strike, lookup_struck, if_pos rfl]
      · have silent : told ((turn.1.endLoop loop).1.strike loop.connection.remote,
            turn.2 ++ (turn.1.endLoop loop).2) = told turn := by
          rw [told, told, Effect.orders_append, List.filter_append]
          exact List.append_nil _
        rw [silent, brought] at among
        obtain ⟨data, _, told⟩ := List.mem_flatMap.mp among
        obtain ⟨handler, _, rfl⟩ := List.mem_map.mp told
        exact ⟨handler, data, rfl⟩
      · rw [Turn.andThen, conclude_own rfl place, handlers, Turn.andThen, Turn.andThen]
        simp only [List.append_assoc]

/-- When the connection of a loop ends by itself, the log says so, whether or not handlers are
told. -/
theorem ends_noted {id : Nat} {loop : Loop} (awake : receiver.awake? id = some loop)
    (ends : receiver.ends? conduct loop = some reason) :
    .ended loop.connection reason ∈ deedsOf conduct receiver (.turn (.receiveLoop id)) ∨
      .lapsed loop.connection reason ∈ deedsOf conduct receiver (.turn (.receiveLoop id)) := by
  rw [deedsOf, awake, Option.elim_some, receipt, ends]
  simp only [conclusion]
  split
  · exact .inl (List.mem_append_right _ List.mem_cons_self)
  · exact .inr (List.mem_append_right _ List.mem_cons_self)

namespace History

/-- Connections come, end, are disconnected, replaced and stopped in any order. A connection stands
in the log exactly if the table has its loop for its remote, and the table has nothing else. A
connection that ends by itself is told of if it stands then, and else it is not. Handlers are told
of nothing else, of each end once, and when they are, the table has no entry for the remote. -/
theorem run_registers (conduct : Conduct Handler) (bindAddress : Address) (limits : ReceiveLimits)
    (events : List (Event Handler)) :
    let after := (opened bindAddress limits).run conduct events
    (∀ connection, Stands after.deeds connection ↔ ∃ id,
        after.receiver.endpoints.lookup connection.remote = some id ∧
          after.receiver.loop? id = some { id, connection }) ∧
      (∀ remote id, after.receiver.endpoints.lookup remote = some id → ∃ connection,
        connection.remote = remote ∧ after.receiver.loop? id = some { id, connection }) ∧
      (∀ connection, after.deeds.countP (Deed.ends connection) ≤ 1) ∧
      (∀ front connection reason later,
        (after.deeds = front ++ .ended connection reason :: later → Stands front connection) ∧
          (after.deeds = front ++ .lapsed connection reason :: later →
            connection ∈ connections front ∧ ¬Stands front connection)) ∧
      (∀ id loop reason, after.receiver.awake? id = some loop →
        after.receiver.ends? conduct loop = some reason →
          let deeds := deedsOf conduct after.receiver (.turn (.receiveLoop id))
          .ended loop.connection reason ∈ deeds ∨ .lapsed loop.connection reason ∈ deeds) ∧
      (∀ event, told (after.turn conduct event) =
        (deedsOf conduct after.receiver event).flatMap (Deed.told after.receiver)) ∧
      ∀ event connection reason, .ended connection reason ∈ deedsOf conduct after.receiver event →
        ∃ id loop reached effects, event = .turn (.receiveLoop id) ∧
          after.receiver.awake? id = some loop ∧ loop.connection = connection ∧
          after.receiver.ends? conduct loop = some reason ∧
          reached.endpoints.lookup connection.remote = none ∧
          (∀ order ∈ told (reached, effects), ∃ handler data,
            order = .received handler { remote := connection.remote, data }) ∧
          after.turn conduct event =
            Turn.andThen (reached, effects)
              (tellEndEach conduct (.receiveLoop id) connection.remote reason
                after.receiver.endHandlers.handlers) := by
  intro after
  have orderly : Orderly after.receiver after.deeds :=
    run_orderly conduct (opened_orderly bindAddress limits) events
  refine ⟨fun connection => ?_, fun remote id found => ?_, fun connection => ?_,
    fun front connection reason later => ⟨?_, ?_⟩, fun id loop reason => ends_noted,
    after.told_turn conduct, fun event connection reason ended => ?_⟩
  · rw [orderly.standing]
    refine exists_congr fun id => ?_
    rw [orderly.tidy.loop?_iff]
    exact ⟨fun live => ⟨orderly.tidy.lookup_of_live live, live, rfl⟩, fun held => held.2.1⟩
  · obtain ⟨connection, live, is⟩ := orderly.tidy.lookup_iff.mp found
    exact ⟨connection, is, orderly.tidy.loop?_iff.mpr ⟨live, rfl⟩⟩
  · exact countP_ends_le_one orderly.logged orderly.nodup_connections
  · exact fun same => orderly.logged front _ later same
  · exact fun same => orderly.logged front _ later same
  · obtain ⟨id, rfl⟩ := turn_of_incoming rfl ended
    obtain ⟨loop, reached, effects, awake, own, ends, gone, before, turn⟩ := receive_ended ended
    exact ⟨id, loop, reached, effects, rfl, awake, own, ends, gone, before, turn⟩

end History

end DatagramReceiver

end ReliableTransport
