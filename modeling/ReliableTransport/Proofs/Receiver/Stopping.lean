import ReliableTransport.Proofs.Receiver.Outlasting
/-!
This module says when a receiver that was stopped is idle. A stop empties the table and tells every
loop to end, and after it nothing is accepted. But if a handler stops the receiver while it is asked
about a connection, that connection still gets its loop and its place in the table. A loop whose own
handlers stop the receiver still passes on what it has heard.
-/

namespace ReliableTransport

namespace DatagramReceiver

variable {Handler : Type} {conduct : Conduct Handler} {receiver : DatagramReceiver Handler}
  {deeds front later : List Deed} {connection : Connection}

/-- A handler stops the receiver when it is asked about a connection, and the connection is let
in. -/
def Strays (conduct : Conduct Handler) (receiver : DatagramReceiver Handler)
    (event : Event Handler) : Prop :=
  ∃ socket connection, event = .turn (.acceptLoop socket) ∧
    connection ∈ accepts conduct receiver socket ∧
    conduct.allows receiver.acceptHandlers.handlers connection.remote = true ∧
    .stop ∈ askedFor conduct receiver connection

/-- Handlers stop the receiver, and the loop that calls them passes on more. -/
def Overruns (conduct : Conduct Handler) (receiver : DatagramReceiver Handler)
    (event : Event Handler) : Prop :=
  Persists conduct receiver event fun _ command => command = .stop

/-- Whatever is taken in after some deeds is taken in by a receiver that runs. -/
def Deed.Sober (former : List Deed) : Deed → Prop
  | .connected _ | .delivered _ _ => ¬Halted former
  | _ => True

section Halting

theorem halted_commands (commands : List Command) :
    Halted (deeds ++ commands.map Command.deed) ↔ Halted deeds ∨ .stop ∈ commands := by
  have idle : .started ∉ commands.map Command.deed := by
    intro among
    obtain ⟨command, _, is⟩ := List.mem_map.mp among
    cases command <;> cases is
  rw [halted_append idle, List.mem_map]
  apply or_congr_right
  constructor
  · rintro ⟨command, among, is⟩
    cases command with
    | disconnect remote => cases is
    | stop => exact among
  · exact fun among => ⟨.stop, among, rfl⟩

theorem halted_receptions (heard : List Bytes) :
    Halted (deeds ++ heard.flatMap (reception conduct receiver connection)) ↔
      Halted deeds ∨ .stop ∈ toldOf conduct receiver connection heard := by
  induction heard generalizing deeds with
  | nil => simp [toldOf, Conduct.onHeard]
  | cons first rest ih =>
      have told : toldOf conduct receiver connection (first :: rest) =
          toldOf conduct receiver connection [first] ++ toldOf conduct receiver connection rest := by
        simp [toldOf, Conduct.onHeard]
      have begun : Halted (deeds ++ [.delivered connection first]) ↔ Halted deeds := by
        simp [halted_concat]
      rw [List.flatMap_cons, ← List.append_assoc, ih, reception, List.append_cons, halted_commands,
        begun, told, List.mem_append, or_assoc]

theorem halted_admissions (connections : List Connection) :
    Halted (deeds ++ connections.flatMap (admission conduct receiver)) ↔
      Halted deeds ∨ ∃ connection ∈ connections, .stop ∈ askedFor conduct receiver connection := by
  induction connections generalizing deeds with
  | nil => simp
  | cons first rest ih =>
      have asked : Halted (deeds ++ admission conduct receiver first) ↔
          Halted deeds ∨ .stop ∈ askedFor conduct receiver first := by
        rw [admission, ← List.append_assoc, halted_concat, halted_commands]
        split <;> simp
      rw [List.flatMap_cons, ← List.append_assoc, ih, asked, or_assoc]
      simp

/-- If all was taken in by a receiver that ran, nothing stands after it has stopped. -/
theorem not_stands_of_halted
    (sober : ∀ front deed later, deeds = front ++ deed :: later → deed.Sober front)
    (halted : Halted deeds) : ¬Stands deeds connection := by
  rintro ⟨front, later, rfl, spared⟩
  have ran : ¬Halted front := sober front (.connected connection) later rfl
  have goesOn : .stopped ∉ .connected connection :: later := by
    intro among
    rcases List.mem_cons.mp among with is | stops
    · cases is
    · exact spared .stopped stops trivial
  exact not_halted_append ran goesOn halted

end Halting

section Accepting

/-- A loop accepts nothing after a connection that makes it halt. -/
theorem offered_last {halts : Connection → Bool} {share : Nat}
    {arrivals : List (Except Failure Connection)} {before rest : List Connection}
    (same : offered halts share arrivals = before ++ connection :: rest)
    (last : halts connection = true) : rest = [] := by
  induction share generalizing arrivals before with
  | zero => cases before <;> cases same
  | succ share ih =>
      match arrivals with
      | [] => cases before <;> cases same
      | .error failure :: others =>
          rw [offered] at same
          split at same
          · exact ih same
          · cases before <;> cases same
      | .ok other :: others =>
          rw [offered] at same
          cases before with
          | nil =>
              obtain ⟨rfl, more⟩ := List.cons.inj same
              rw [if_pos last] at more
              exact more.symm
          | cons first before =>
              have more := (List.cons.inj same).2
              split at more
              · cases before <;> cases more
              · exact ih more

theorem accepts_last {socket : Nat} {before rest : List Connection}
    (same : accepts conduct receiver socket = before ++ connection :: rest)
    (stops : .stop ∈ askedFor conduct receiver connection) : rest = [] := by
  rw [accepts] at same
  split at same
  · exact offered_last same (decide_eq_true stops)
  · cases before <;> cases same

/-- No handler stops the receiver before a loop accepts another connection. -/
theorem not_stop_of_accepts {socket : Nat} {before rest : List Connection} {other : Connection}
    (same : accepts conduct receiver socket = before ++ connection :: rest)
    (among : other ∈ before) : .stop ∉ askedFor conduct receiver other := by
  intro stops
  obtain ⟨first, others, rfl⟩ := List.append_of_mem among
  rw [List.append_assoc, List.cons_append] at same
  have none := accepts_last same stops
  exact absurd none (List.append_ne_nil_of_right_ne_nil others (List.cons_ne_nil _ _))

theorem goesOn_of_accepts {socket : Nat} (among : connection ∈ accepts conduct receiver socket) :
    receiver.acceptor.goesOn socket = true := by
  by_contra gone
  rw [accepts, if_neg gone] at among
  cases among

/-- A receiver does not begin to start while it accepts connections. -/
theorem acceptEach_phase (conduct : Conduct Handler) (socket share : Nat)
    (arrivals : List (Except Failure Connection)) (receiver : DatagramReceiver Handler)
    (begun : receiver.acceptor.phase ≠ .starting) :
    (acceptEach conduct socket share arrivals receiver).1.acceptor.phase ≠ .starting := by
  induction share generalizing arrivals receiver with
  | zero => exact begun
  | succ share ih =>
      match arrivals with
      | [] => exact begun
      | .error failure :: rest =>
          rw [acceptEach]
          split
          · exact ih rest _ begun
          · exact begun
      | .ok connection :: rest =>
          have taken : ((receiver.withArrivals rest).takeOver conduct (.acceptLoop socket)
              connection).1.acceptor.phase ≠ .starting := by
            rw [takeOver_acceptor]
            by_cases stops : .stop ∈ askedFor conduct (receiver.withArrivals rest) connection
            · rw [complyAll_stopped (.inl stops)]
              exact Acceptor.Phase.noConfusion
            · rw [complyAll_acceptor stops]
              exact begun
          rw [acceptEach, Turn.andThen_fst]
          split
          · exact ih rest _ taken
          · exact taken

/-- Only the loop of a socket makes connections. -/
theorem turn_of_connected {event : Event Handler}
    (among : .connected connection ∈ deedsOf conduct receiver event) :
    ∃ socket, event = .turn (.acceptLoop socket) := by
  match event with
  | .call call => cases call <;> simp [deedsOf] at among
  | .turn (.caller _) | .abandon _ => cases among
  | .turn (.acceptLoop socket) => exact ⟨socket, rfl⟩
  | .turn (.receiveLoop id) =>
      rw [deedsOf] at among
      cases awake : receiver.awake? id with
      | none =>
          rw [awake] at among
          cases among
      | some loop =>
          rw [awake, Option.elim_some] at among
          rcases of_mem_receipt among with incoming | ⟨command, is⟩
          · cases incoming
          · cases command <;> cases is
  | .answer role result =>
      rw [deedsOf] at among
      split at among
      · cases List.mem_singleton.mp among
      · cases among

/-- A connection is made behind all that its handlers do, and if they allow it. -/
theorem split_admission {other : Connection}
    (same : admission conduct receiver other = front ++ .connected connection :: later) :
    conduct.allows receiver.acceptHandlers.handlers connection.remote = true ∧
      other = connection ∧ front = (askedFor conduct receiver connection).map Command.deed := by
  rw [admission] at same
  rcases split_concat same with ⟨_, asked, _⟩ | ⟨rfl, is, _⟩
  · have does : .connected connection ∈ (askedFor conduct receiver other).map Command.deed := by
      rw [asked]
      simp
    obtain ⟨command, _, is⟩ := List.mem_map.mp does
    cases command <;> cases is
  · split at is
    · next allowed =>
      obtain rfl := Deed.connected.inj is
      exact ⟨allowed, rfl, rfl⟩
    · cases is

/-- A connection is made by a loop that accepts it. -/
theorem split_connected {event : Event Handler}
    (same : deedsOf conduct receiver event = front ++ .connected connection :: later) :
    ∃ socket before rest, event = .turn (.acceptLoop socket) ∧
      accepts conduct receiver socket = before ++ connection :: rest ∧
      conduct.allows receiver.acceptHandlers.handlers connection.remote = true ∧
      front = before.flatMap (admission conduct receiver) ++
        (askedFor conduct receiver connection).map Command.deed := by
  have among : .connected connection ∈ deedsOf conduct receiver event := by
    rw [same]
    simp
  obtain ⟨socket, rfl⟩ := turn_of_connected among
  obtain ⟨before, other, rest, inner, behind, accepted, here, rfl⟩ := split_flatMap same
  obtain ⟨allowed, rfl, rfl⟩ := split_admission here
  exact ⟨socket, before, rest, rfl, accepted, allowed, rfl⟩

/-- A connection that is let in is made after all that its handlers do. -/
theorem deedsOf_accepts {socket : Nat} {before rest : List Connection}
    (same : accepts conduct receiver socket = before ++ connection :: rest)
    (allowed : conduct.allows receiver.acceptHandlers.handlers connection.remote = true) :
    ∃ later, deedsOf conduct receiver (.turn (.acceptLoop socket)) =
      (before.flatMap (admission conduct receiver) ++
        (askedFor conduct receiver connection).map Command.deed) ++
        .connected connection :: later := by
  rw [deedsOf, same, List.flatMap_append, List.flatMap_cons, admission, if_pos allowed]
  simp only [List.append_assoc, List.singleton_append]
  exact ⟨_, rfl⟩

end Accepting

section Sobriety

/-- A loop that overruns passes data on when the receiver has stopped. -/
theorem Overruns.halted {event : Event Handler} (overruns : Overruns conduct receiver event)
    (deeds : List Deed) :
    ∃ front connection data later,
      deedsOf conduct receiver event = front ++ .delivered connection data :: later ∧
        Halted (deeds ++ front) := by
  obtain ⟨id, loop, before, data, rest, rfl, awake, heard, command, told, rfl⟩ := overruns
  obtain ⟨later, same⟩ := deedsOf_awake conduct awake heard
  exact ⟨_, _, data, later, same, (halted_receptions before).mpr (.inr told)⟩

/-- While nothing stands, the table is empty, and all loops that are not over were told to end. -/
theorem Orderly.idle (orderly : Orderly receiver deeds)
    (none : ∀ connection, ¬Stands deeds connection) :
    receiver.endpoints = [] ∧ ∀ loop ∈ receiver.loops, loop.aborted = true := by
  have gone (id : Nat) (connection : Connection) : ¬receiver.Live id connection := fun live =>
    none connection ((orderly.standing connection).mpr ⟨id, live⟩)
  constructor
  · apply List.eq_nil_iff_forall_not_mem.mpr
    rintro ⟨remote, id⟩ entry
    obtain ⟨connection, live, _⟩ := (orderly.tidy.registered remote id).mp entry
    exact gone id connection live
  · intro loop among
    by_contra unaborted
    obtain ⟨id, connection, aborted⟩ := loop
    obtain rfl : aborted = false := by simpa using unaborted
    exact gone id connection among

/-- If all was taken in by a receiver that ran, the receiver is idle when it is stopped. -/
theorem Orderly.idle_of_stopped (orderly : Orderly receiver deeds)
    (sober : ∀ front deed later, deeds = front ++ deed :: later → deed.Sober front)
    (stopped : receiver.acceptor.phase = .stopped) :
    receiver.endpoints = [] ∧ ∀ loop ∈ receiver.loops, loop.aborted = true := by
  apply orderly.idle
  intro connection
  apply not_stands_of_halted sober
  by_contra runs
  rw [orderly.running.mpr runs] at stopped
  cases stopped

/-- If all was taken in by a receiver that ran, this goes on in an event exactly if neither a
connection strays nor a loop overruns. -/
theorem Orderly.sober_iff (orderly : Orderly receiver deeds)
    (sober : ∀ front deed later, deeds = front ++ deed :: later → deed.Sober front)
    (event : Event Handler) :
    (∀ front deed later, deedsOf conduct receiver event = front ++ deed :: later →
      deed.Sober (deeds ++ front)) ↔
      ¬Strays conduct receiver event ∧ ¬Overruns conduct receiver event := by
  constructor
  · intro goesOn
    constructor
    · rintro ⟨socket, connection, rfl, among, allowed, stops⟩
      obtain ⟨before, rest, accepted⟩ := List.append_of_mem among
      obtain ⟨later, same⟩ := deedsOf_accepts accepted allowed
      apply goesOn _ _ _ same
      rw [← List.append_assoc, halted_commands]
      exact .inr stops
    · intro overruns
      obtain ⟨front, connection, data, later, same, halted⟩ := overruns.halted deeds
      exact goesOn front _ later same halted
  · rintro ⟨straight, prompt⟩ front deed later same
    cases deed with
    | connected connection =>
        obtain ⟨socket, before, rest, rfl, accepted, allowed, rfl⟩ := split_connected same
        have among : connection ∈ accepts conduct receiver socket := by
          rw [accepted]
          simp
        have running := orderly.tidy.sound.running_of_goesOn (goesOn_of_accepts among)
        show ¬Halted _
        rw [← List.append_assoc, halted_commands, halted_admissions]
        rintro ((halted | ⟨other, former, stops⟩) | stops)
        · exact orderly.running.mp running halted
        · exact not_stop_of_accepts accepted former stops
        · exact straight ⟨socket, connection, rfl, among, allowed, stops⟩
    | delivered connection data =>
        obtain ⟨id, loop, before, rest, rfl, awake, heard, rfl, rfl⟩ := split_delivered same
        show ¬Halted _
        rw [halted_receptions]
        -- A loop that was not told to end has a connection that stands, so the receiver ran.
        rintro (halted | stops)
        · exact not_stands_of_halted sober halted (orderly.stands_of_awake awake)
        · exact prompt ⟨id, loop, before, data, rest, rfl, awake, heard, .stop, stops, rfl⟩
    | _ => trivial

/-- When a connection strays, the receiver is stopped after the turn, and yet the connection has its
place in the table. -/
theorem Orderly.strays (orderly : Orderly receiver deeds) {socket : Nat}
    (among : connection ∈ accepts conduct receiver socket)
    (allowed : conduct.allows receiver.acceptHandlers.handlers connection.remote = true)
    (stops : .stop ∈ askedFor conduct receiver connection) :
    (receiver.accept conduct socket).1.acceptor.phase = .stopped ∧
      (receiver.accept conduct socket).1.endpoints ≠ [] := by
  have goesOn := goesOn_of_accepts among
  have accepted := orderly.accept conduct socket
  obtain ⟨before, rest, same⟩ := List.append_of_mem among
  obtain rfl := accepts_last same stops
  rw [same, List.flatMap_append, List.flatMap_singleton, admission, if_pos allowed,
    ← List.append_assoc, ← List.append_assoc] at accepted
  have begun : (receiver.accept conduct socket).1.acceptor.phase ≠ .starting := by
    rw [DatagramReceiver.accept, if_pos goesOn]
    apply acceptEach_phase
    rw [orderly.tidy.sound.running_of_goesOn goesOn]
    exact Acceptor.Phase.noConfusion
  generalize (receiver.accept conduct socket).1 = reached at accepted begun
  constructor
  · have stopped : reached.acceptor.phase ≠ .running := by
      rw [ne_eq, accepted.running, not_not, halted_concat, halted_commands]
      exact .inr ⟨.inr stops, Deed.noConfusion⟩
    cases phase : reached.acceptor.phase with
    | stopped => rfl
    | starting => exact absurd phase begun
    | running => exact absurd phase stopped
  · intro empty
    obtain ⟨id, live⟩ := (accepted.standing connection).mp (stands_concat.mpr (.inl rfl))
    have entry := (accepted.tidy.registered connection.remote id).mpr ⟨connection, live, rfl⟩
    rw [empty] at entry
    cases entry

end Sobriety

namespace History

theorem run_deeds (conduct : Conduct Handler) (history : History Handler)
    (events : List (Event Handler)) :
    ∃ added, (history.run conduct events).deeds = history.deeds ++ added := by
  induction events generalizing history with
  | nil => exact ⟨[], (List.append_nil _).symm⟩
  | cons event rest ih =>
      obtain ⟨added, same⟩ := ih (history.step conduct event)
      exact ⟨deedsOf conduct history.receiver event ++ added,
        same.trans (List.append_assoc _ _ _)⟩

/-- What an event does stands in the log of the whole run. -/
theorem run_deeds_split (conduct : Conduct Handler) (history : History Handler)
    (before behind : List (Event Handler)) (event : Event Handler) :
    ∃ added, (history.run conduct (before ++ event :: behind)).deeds =
      (history.run conduct before).deeds ++
        deedsOf conduct (history.run conduct before).receiver event ++ added := by
  rw [run_append]
  exact run_deeds conduct ((history.run conduct before).step conduct event) behind

/-- Whenever the receiver is stopped, the table is empty and all its loops were told to end, and no
loop passes data on then, exactly if no handler stops the receiver while a connection that is let in
waits for it, and none does while its own loop has more to pass on. -/
theorem run_idle_iff (conduct : Conduct Handler) (bindAddress : Address) (limits : ReceiveLimits)
    (events : List (Event Handler)) :
    let start : History Handler := opened bindAddress limits
    let after := start.run conduct events
    (after.receiver.acceptor.phase = .running ↔ ¬Halted after.deeds) ∧
      (∀ event, told (after.turn conduct event) =
        (deedsOf conduct after.receiver event).flatMap (Deed.told after.receiver)) ∧
      (((∀ before behind, events = before ++ behind →
          let reached := (start.run conduct before).receiver
          reached.acceptor.phase = .stopped →
            reached.endpoints = [] ∧ ∀ loop ∈ reached.loops, loop.aborted = true) ∧
        ∀ front connection data later,
          after.deeds = front ++ .delivered connection data :: later → ¬Halted front) ↔
        ∀ before event behind, events = before ++ event :: behind →
          let reached := (start.run conduct before).receiver
          ¬Strays conduct reached event ∧ ¬Overruns conduct reached event) := by
  intro start after
  have opens : Orderly start.receiver [] := opened_orderly bindAddress limits
  have orderly (events : List (Event Handler)) := run_orderly conduct opens events
  refine ⟨(orderly events).running, after.told_turn conduct, ?_⟩
  constructor
  · rintro ⟨idle, quiet⟩ before event behind rfl reached
    constructor
    · rintro ⟨socket, connection, rfl, among, allowed, stops⟩
      have strayed := (orderly before).strays among allowed stops
      have now := idle (before ++ [.turn (.acceptLoop socket)]) behind (by simp)
      rw [run_append] at now
      exact strayed.2 (now strayed.1).1
    · intro overruns
      obtain ⟨front, connection, data, later, same, halted⟩ :=
        overruns.halted (start.run conduct before).deeds
      obtain ⟨added, whole⟩ := run_deeds_split conduct start before behind event
      rw [same] at whole
      apply quiet _ connection data (later ++ added) _ halted
      rw [whole]
      simp
  · intro fair
    have sober := (run_forall_iff conduct rfl opens
      (fun _ _ event orderly sober => orderly.sober_iff sober event) events).mpr fair
    constructor
    · rintro before behind rfl reached stopped
      apply (orderly before).idle_of_stopped _ stopped
      intro front deed later same
      obtain ⟨added, grown⟩ := run_deeds conduct (start.run conduct before) behind
      rw [← run_append, same] at grown
      apply sober front deed (later ++ added)
      rw [grown]
      simp
    · intro front connection data later same
      exact sober front _ later same

/-- A handler that is asked about a connection stops the receiver and lets the connection in. The
receiver is stopped, nobody starts it, and yet it has the connection and passes its data on. -/
theorem stopped_receiver_is_connected :
    let remote : Address := { host := .dotted 127 0 0 1, port := 4530 }
    let connection : Connection := { number := 0, remote }
    let conduct : Conduct Unit :=
      { asked := fun _ _ => (true, [.stop])
        received := fun _ _ => []
        ended := fun _ _ _ => [] }
    let before := (opened remote {}).run conduct
      [.call .start, .answer (.caller 0) (.ok ()), .call (.subscribe .acceptance ()),
        .call (.subscribe .reception ()), .call (.arrive remote)]
    let stopped := before.run conduct [.turn (.acceptLoop 0)]
    let after := stopped.run conduct [.call (.bring 0 [.ok [1]])]
    before.receiver.acceptor.phase = .running ∧
      stopped.receiver.acceptor.phase = .stopped ∧ stopped.receiver.acceptor.starts = [] ∧
      stopped.receiver.endpoints = [(remote, 0)] ∧
      stopped.receiver.loops = [{ id := 0, connection }] ∧
      stopped.deeds = [.started, .stopped, .connected connection] ∧
      after.receiver.acceptor.phase = .stopped ∧ after.receiver.acceptor.starts = [] ∧
      told (after.turn conduct (.turn (.receiveLoop 0))) =
        [.received () { remote, data := [1] }] := by
  exact ⟨by decide, by decide, by decide, by decide, by decide, by decide, by decide, by decide,
    by rfl⟩

end History

end DatagramReceiver

end ReliableTransport
