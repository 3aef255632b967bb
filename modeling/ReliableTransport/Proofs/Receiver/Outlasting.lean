import ReliableTransport.Proofs.Receiver.Notices
/-!
This module says how long a connection is heard that the receiver does not want any more. A loop is
told to end and does so where it waits. In the turn in which its own handlers dismiss its connection
it goes on with what it has heard, up to its share. After that turn nothing of the connection is
passed on.
-/

namespace ReliableTransport

namespace DatagramReceiver

variable {Handler : Type} {conduct : Conduct Handler} {receiver : DatagramReceiver Handler}
  {deeds front later : List Deed} {connection other : Connection} {data : Bytes} {loop : Loop}

/-- A loop passes data on, although handlers that it told of earlier data in the same turn did
something to make an end of it. -/
def Persists (conduct : Conduct Handler) (receiver : DatagramReceiver Handler)
    (event : Event Handler) (ends : Connection → Command → Prop) : Prop :=
  ∃ id loop before data rest, event = .turn (.receiveLoop id) ∧
    receiver.awake? id = some loop ∧ receiver.hears conduct loop = before ++ data :: rest ∧
    ∃ command ∈ toldOf conduct receiver loop.connection before, ends loop.connection command

/-- Handlers dismiss the connection whose loop calls them, and the loop passes on more of it. -/
def Outlasts (conduct : Conduct Handler) (receiver : DatagramReceiver Handler)
    (event : Event Handler) : Prop :=
  Persists conduct receiver event fun connection command => command.deed.Dismisses connection

/-- Handlers are told of data. -/
def Deed.delivers : Deed → Bool
  | .delivered _ _ => true
  | _ => false

theorem Command.not_delivers (command : Command) : command.deed.delivers = false := by
  cases command <;> rfl

/-- Where data is passed on, all that was heard before was passed on. -/
theorem split_receptions {heard : List Bytes}
    (same : heard.flatMap (reception conduct receiver connection) =
      front ++ .delivered other data :: later) :
    ∃ before rest, heard = before ++ data :: rest ∧
      front = before.flatMap (reception conduct receiver connection) ∧ other = connection := by
  obtain ⟨before, first, rest, inner, behind, rfl, here, rfl⟩ := split_flatMap same
  cases inner with
  | nil =>
      obtain ⟨is, _⟩ := List.cons.inj here
      obtain ⟨rfl, rfl⟩ := Deed.delivered.inj is
      exact ⟨before, rest, rfl, List.append_nil _, rfl⟩
  | cons _ inner =>
      have among : .delivered other data ∈
          (toldOf conduct receiver connection [first]).map Command.deed := by
        rw [(List.cons.inj here).2]
        simp
      obtain ⟨command, _, is⟩ := List.mem_map.mp among
      have delivers := command.not_delivers
      rw [is] at delivers
      cases delivers

/-- What is noted when a connection has ended by itself. -/
theorem of_mem_conclusion {deed : Deed} {reason : EndReason}
    (among : deed ∈ conclusion conduct receiver loop reason) :
    deed = .ended loop.connection reason ∨ deed = .lapsed loop.connection reason ∨
      ∃ command : Command, deed = command.deed := by
  rw [conclusion] at among
  split at among
  · rcases List.mem_cons.mp among with is | does
    · exact .inl is
    · obtain ⟨command, _, is⟩ := List.mem_map.mp does
      exact .inr (.inr ⟨command, is.symm⟩)
  · exact .inr (.inl (List.mem_singleton.mp among))

/-- A loop does nothing but what its connection brings and what handlers want. -/
theorem of_mem_receipt {deed : Deed} (among : deed ∈ receipt conduct receiver loop) :
    deed.incoming = true ∨ ∃ command : Command, deed = command.deed := by
  rcases List.mem_append.mp among with noted | concluded
  · rcases mem_receptions.mp noted with ⟨_, _, rfl⟩ | ⟨command, _, is⟩
    · exact .inl rfl
    · exact .inr ⟨command, is⟩
  · split at concluded
    · cases concluded
    · rcases of_mem_conclusion concluded with rfl | rfl | command
      · exact .inl rfl
      · exact .inl rfl
      · exact .inr command

theorem not_delivers_conclusion {deed : Deed} {reason : EndReason}
    (among : deed ∈ conclusion conduct receiver loop reason) : deed.delivers = false := by
  rcases of_mem_conclusion among with rfl | rfl | ⟨command, rfl⟩
  · rfl
  · rfl
  · exact command.not_delivers

/-- Data is passed on by the loop of its connection. -/
theorem split_delivered {event : Event Handler}
    (same : deedsOf conduct receiver event = front ++ .delivered other data :: later) :
    ∃ id loop before rest, event = .turn (.receiveLoop id) ∧ receiver.awake? id = some loop ∧
      receiver.hears conduct loop = before ++ data :: rest ∧
      front = before.flatMap (reception conduct receiver loop.connection) ∧
      other = loop.connection := by
  have delivered : .delivered other data ∈ deedsOf conduct receiver event := by
    rw [same]
    simp
  obtain ⟨id, rfl⟩ := turn_of_incoming rfl delivered
  cases awake : receiver.awake? id with
  | none =>
      rw [deedsOf, awake] at same
      cases front <;> cases same
  | some loop =>
      rw [deedsOf, awake, Option.elim_some, receipt] at same
      rcases split_append same with ⟨others, here, _⟩ | ⟨between, _, after⟩
      · obtain ⟨before, rest, heard, is, own⟩ := split_receptions here
        exact ⟨id, loop, before, rest, rfl, awake, heard, is, own⟩
      · have concluded : (.delivered other data : Deed) ∈
            between ++ .delivered other data :: later := by simp
        rw [← after] at concluded
        cases ends : receiver.ends? conduct loop with
        | none =>
            rw [ends] at concluded
            cases concluded
        | some reason =>
            rw [ends] at concluded
            cases not_delivers_conclusion concluded

theorem deedsOf_awake (conduct : Conduct Handler) {id : Nat} (awake : receiver.awake? id = some loop)
    {before rest : List Bytes} (heard : receiver.hears conduct loop = before ++ data :: rest) :
    ∃ later, deedsOf conduct receiver (.turn (.receiveLoop id)) =
      before.flatMap (reception conduct receiver loop.connection) ++
        .delivered loop.connection data :: later := by
  rw [deedsOf, awake, Option.elim_some, receipt, heard, List.flatMap_append, List.flatMap_cons,
    List.append_assoc, List.append_assoc]
  exact ⟨_, rfl⟩

/-- A loop that was not told to end has a connection that stands. -/
theorem Orderly.stands_of_awake (orderly : Orderly receiver deeds) {id : Nat}
    (awake : receiver.awake? id = some loop) : Stands deeds loop.connection := by
  obtain ⟨connection, rfl, live⟩ := orderly.tidy.awake?_iff.mp awake
  exact (orderly.standing connection).mpr ⟨id, live⟩

theorem connections_receptions (heard : List Bytes) :
    connections (heard.flatMap (reception conduct receiver connection)) = [] := by
  refine List.filterMap_eq_nil_iff.mpr fun deed among => ?_
  rcases mem_receptions.mp among with ⟨_, _, rfl⟩ | ⟨command, _, rfl⟩
  · rfl
  · cases command <;> rfl

/-- A connection that is passed on stands until a handler dismisses it. -/
theorem stands_receptions_iff (stands : Stands deeds connection) (heard : List Bytes) :
    Stands (deeds ++ heard.flatMap (reception conduct receiver connection)) connection ↔
      ∀ command ∈ toldOf conduct receiver connection heard,
        ¬command.deed.Dismisses connection := by
  have unmade : connection ∉
      connections (heard.flatMap (reception conduct receiver connection)) := by
    rw [connections_receptions]
    exact List.not_mem_nil
  rw [stands_append unmade, and_iff_right stands]
  constructor
  · exact fun spared command told =>
      spared command.deed (mem_receptions.mpr (.inr ⟨command, told, rfl⟩))
  · intro spared deed among
    rcases mem_receptions.mp among with ⟨_, _, rfl⟩ | ⟨command, told, rfl⟩
    · exact id
    · exact spared command told

/-- Whoever is told of data after some deeds is told of a connection that stands. -/
def Deed.Timely (former : List Deed) : Deed → Prop
  | .delivered connection _ => Stands former connection
  | _ => True

theorem timely_iff : (∀ front deed later, deeds = front ++ deed :: later → deed.Timely front) ↔
    ∀ front connection data later, deeds = front ++ .delivered connection data :: later →
      Stands front connection := by
  constructor
  · exact fun timely front connection data later same => timely front _ later same
  · intro stand front deed later same
    cases deed with
    | delivered connection data => exact stand front connection data later same
    | _ => trivial

/-- In an event, all data passed on is timely exactly if no connection outlasts its dismissal. -/
theorem Orderly.outlasts_iff (orderly : Orderly receiver deeds) (event : Event Handler) :
    (∀ front deed later, deedsOf conduct receiver event = front ++ deed :: later →
      deed.Timely (deeds ++ front)) ↔ ¬Outlasts conduct receiver event := by
  constructor
  · rintro timely ⟨id, loop, before, data, rest, rfl, awake, heard, command, told, dismisses⟩
    obtain ⟨later, same⟩ := deedsOf_awake conduct awake heard
    have stands : Stands (deeds ++ _) loop.connection := timely _ _ _ same
    rw [stands_receptions_iff (orderly.stands_of_awake awake)] at stands
    exact stands command told dismisses
  · intro none front deed later same
    cases deed with
    | delivered other data =>
        obtain ⟨id, loop, before, rest, rfl, awake, heard, rfl, rfl⟩ := split_delivered same
        refine (stands_receptions_iff (orderly.stands_of_awake awake) before).mpr ?_
        exact fun command told dismisses =>
          none ⟨id, loop, before, data, rest, rfl, awake, heard, command, told, dismisses⟩
    | _ => trivial

theorem countP_receptions (heard : List Bytes) :
    (heard.flatMap (reception conduct receiver connection)).countP Deed.delivers =
      heard.length := by
  induction heard with
  | nil => rfl
  | cons first rest ih =>
      have once : (reception conduct receiver connection first).countP Deed.delivers = 1 := by
        rw [reception, List.countP_cons_of_pos rfl, List.countP_map]
        refine congrArg (· + 1) (List.countP_eq_zero.mpr fun command _ delivers => ?_)
        rw [Function.comp, command.not_delivers] at delivers
        cases delivers
      rw [List.flatMap_cons, List.countP_append, once, ih, List.length_cons, Nat.add_comm]

/-- No turn passes on more than a share. -/
theorem countP_delivers_le (event : Event Handler) :
    (deedsOf conduct receiver event).countP Deed.delivers ≤ conduct.shares.receptions := by
  by_cases turn : ∃ id, event = .turn (.receiveLoop id)
  · obtain ⟨id, rfl⟩ := turn
    rw [deedsOf]
    cases receiver.awake? id with
    | none => exact Nat.zero_le _
    | some loop =>
        have silent (deeds : List Deed) (none : ∀ deed ∈ deeds, deed.delivers = false) :
            deeds.countP Deed.delivers = 0 :=
          List.countP_eq_zero.mpr fun deed among => Bool.eq_false_iff.mp (none deed among)
        rw [Option.elim_some, receipt, List.countP_append, countP_receptions, silent _ ?_]
        · exact length_heard_le conduct.shares.receptions _
        · intro deed among
          split at among
          · cases among
          · exact not_delivers_conclusion among
  · have none : (deedsOf conduct receiver event).countP Deed.delivers = 0 := by
      refine List.countP_eq_zero.mpr fun deed among delivers => turn (turn_of_incoming ?_ among)
      cases deed <;> first | rfl | cases delivers
    exact none ▸ Nat.zero_le _

namespace History

variable {history : History Handler}

/-- What is passed on in an event is of a connection that stood when the event began. -/
theorem stands_of_delivered {receiver : DatagramReceiver Handler} {deeds : List Deed}
    (orderly : Orderly receiver deeds) {event : Event Handler}
    (delivered : .delivered connection data ∈ deedsOf conduct receiver event) :
    Stands deeds connection := by
  obtain ⟨front, later, same⟩ := List.append_of_mem delivered
  obtain ⟨id, loop, _, _, _, awake, _, _, rfl⟩ := split_delivered same
  exact orderly.stands_of_awake awake

/-- Of a connection that was made and does not stand any more, nothing is ever passed on. -/
theorem run_dismissed (orderly : Orderly history.receiver history.deeds)
    (made : connection ∈ connections history.deeds)
    (dismissed : ¬Stands history.deeds connection) (more : List (Event Handler)) :
    ∃ added, (history.run conduct more).deeds = history.deeds ++ added ∧
      ∀ data, .delivered connection data ∉ added := by
  induction more generalizing history with
  | nil => exact ⟨[], (List.append_nil _).symm, fun _ => List.not_mem_nil⟩
  | cons event rest ih =>
      have next := step_orderly conduct orderly event
      have grown : (history.step conduct event).deeds =
          history.deeds ++ deedsOf conduct history.receiver event := rfl
      -- A connection is made once, so the event cannot make it again.
      have unmade : connection ∉ connections (deedsOf conduct history.receiver event) := by
        have once := next.nodup_connections
        rw [grown, connections_append, List.nodup_append] at once
        exact fun again => once.2.2 connection made connection again rfl
      have still : ¬Stands (history.step conduct event).deeds connection := by
        rw [grown, stands_append unmade]
        exact fun stands => dismissed stands.1
      have known : connection ∈ connections (history.step conduct event).deeds := by
        rw [grown, connections_append]
        exact List.mem_append_left _ made
      obtain ⟨added, same, silent⟩ := ih next known still
      refine ⟨deedsOf conduct history.receiver event ++ added, ?_, fun data among => ?_⟩
      · rw [← List.append_assoc, ← grown]
        exact same
      · rcases List.mem_append.mp among with now | later
        · exact dismissed (stands_of_delivered orderly now)
        · exact silent data later

/-- Data of connections that were disconnected, replaced, stopped or over is passed on exactly if a
loop passes more on in the turn in which its own handlers dismiss its connection. It passes on no
more than a share then, and in no later event anything. -/
theorem run_outlasts_iff (conduct : Conduct Handler) (bindAddress : Address)
    (limits : ReceiveLimits) (events : List (Event Handler)) :
    let after := (opened bindAddress limits).run conduct events
    ((∀ front connection data later,
        after.deeds = front ++ .delivered connection data :: later → Stands front connection) ↔
      ∀ before event behind, events = before ++ event :: behind →
        ¬Outlasts conduct ((opened bindAddress limits).run conduct before).receiver event) ∧
      (∀ connection ∈ connections after.deeds, ¬Stands after.deeds connection → ∀ more, ∃ added,
        (after.run conduct more).deeds = after.deeds ++ added ∧
          ∀ data, .delivered connection data ∉ added) ∧
      ∀ event, (deedsOf conduct after.receiver event).countP Deed.delivers ≤
          conduct.shares.receptions ∧
        told (after.turn conduct event) =
          (deedsOf conduct after.receiver event).flatMap (Deed.told after.receiver) := by
  intro after
  have start : Orderly (opened bindAddress limits : History Handler).receiver [] :=
    opened_orderly bindAddress limits
  have orderly : Orderly after.receiver after.deeds := run_orderly conduct start events
  refine ⟨?_, fun connection made dismissed => run_dismissed orderly made dismissed,
    fun event => ⟨countP_delivers_le event, after.told_turn conduct event⟩⟩
  rw [← timely_iff]
  exact run_forall_iff conduct rfl start (fun _ _ event orderly _ => orderly.outlasts_iff event)
    events

/-- A handler disconnects the remote that sends `[1]`. The remote has sent `[2]` as well, and the
handler is told of that, too. -/
theorem disconnected_remote_is_heard :
    let remote : Address := { host := .dotted 127 0 0 1, port := 4530 }
    let connection : Connection := { number := 0, remote }
    let conduct : Conduct Unit :=
      { asked := fun _ _ => (true, [])
        received := fun _ package =>
          if package.data = [1] then [.disconnect package.remote] else []
        ended := fun _ _ _ => [] }
    let before := (opened remote {}).run conduct
      [.call .start, .answer (.caller 0) (.ok ()), .call (.subscribe .reception ()),
        .call (.arrive remote), .turn (.acceptLoop 0), .call (.bring 0 [.ok [1], .ok [2]])]
    let after := before.run conduct [.turn (.receiveLoop 0)]
    let front : List Deed :=
      [.started, .connected connection, .delivered connection [1], .disconnected remote]
    after.deeds = front ++ [.delivered connection [2]] ∧ ¬Stands front connection ∧
      before.receiver.endpoints.lookup remote = some 0 ∧
      told (before.turn conduct (.turn (.receiveLoop 0))) =
        [.received () { remote, data := [1] }, .received () { remote, data := [2] }] := by
  refine ⟨by decide, ?_, by decide, by rfl⟩
  intro stands
  rcases stands_concat.mp (show Stands ([_, _, _] ++ [_]) _ from stands) with is | ⟨_, spared⟩
  · cases is
  · exact spared rfl

end History

end DatagramReceiver

end ReliableTransport
