import ReliableTransport.Proofs.Receiver.Standing
/-!
This module shows that every turn of a receiver keeps to its log, and so does every run. What the
table knows can thus be read off the log, and so can who was told of the end of a connection.
-/

namespace ReliableTransport

namespace DatagramReceiver

variable {Handler : Type} {conduct : Conduct Handler} {receiver after : DatagramReceiver Handler}
  {deeds : List Deed} {connection : Connection} {loop : Loop}

namespace Idles

/-- Nothing changes that the log or the table knows of. -/
theorem of_same (acceptor : after.acceptor = receiver.acceptor)
    (endpoints : after.endpoints = receiver.endpoints) (loops : after.loops = receiver.loops)
    (nextLoop : after.nextLoop = receiver.nextLoop) (arrivals : after.arrivals = receiver.arrivals)
    (nextConnection : after.nextConnection = receiver.nextConnection) : Idles receiver after where
  sound sound := acceptor ▸ sound
  running := by rw [acceptor]
  endpoints := endpoints
  loops := loops
  nextLoop := nextLoop
  waiting := by
    rw [DatagramReceiver.waiting, arrivals]
    exact List.Sublist.refl _
  nextConnection := nextConnection

/-- The acceptor changes, and it accepts connections exactly if it did before. -/
theorem withAcceptor {acceptor : Acceptor Role}
    (sound : receiver.acceptor.Sound → acceptor.Sound)
    (running : acceptor.phase = .running ↔ receiver.acceptor.phase = .running) :
    Idles receiver { receiver with acceptor } where
  sound := sound
  running := running
  endpoints := rfl
  loops := rfl
  nextLoop := rfl
  waiting := List.Sublist.refl _
  nextConnection := rfl

/-- Some of the arrivals are taken. -/
theorem withArrivals {arrivals : List (Except Failure Connection)}
    (fewer : (arrivals.filterMap Except.toOption).Sublist receiver.waiting) :
    Idles receiver (receiver.withArrivals arrivals) where
  sound := id
  running := Iff.rfl
  endpoints := rfl
  loops := rfl
  nextLoop := rfl
  waiting := fewer
  nextConnection := rfl

end Idles

/-- Nothing is added to the log. -/
theorem Orderly.unsaid (orderly : Orderly receiver deeds) : Orderly receiver (deeds ++ []) :=
  (List.append_nil deeds).symm ▸ orderly

section Accepting

theorem complyAll_acceptor {commands : List Command} (goesOn : .stop ∉ commands) :
    (receiver.complyAll commands).acceptor = receiver.acceptor := by
  induction commands generalizing receiver with
  | nil => rfl
  | cons command rest ih =>
      rw [List.mem_cons, not_or] at goesOn
      rw [complyAll_cons, ih goesOn.2]
      cases command with
      | disconnect remote => rfl
      | stop => exact absurd rfl goesOn.1

theorem complyAll_stopped {commands : List Command}
    (stops : .stop ∈ commands ∨ receiver.acceptor.phase = .stopped) :
    (receiver.complyAll commands).acceptor.phase = .stopped := by
  induction commands generalizing receiver with
  | nil => exact stops.resolve_left List.not_mem_nil
  | cons command rest ih =>
      refine ih ?_
      cases command with
      | disconnect remote =>
          rcases stops with among | stopped
          · exact .inl (List.mem_of_ne_of_mem (by nofun) among)
          · exact .inr stopped
      | stop => exact .inr rfl

/-- A loop goes on after a connection unless a handler stops the receiver. -/
theorem goesOn_complyAll {commands : List Command}
    (sound : (receiver.complyAll commands).acceptor.Sound) {socket : Nat}
    (goesOn : receiver.acceptor.goesOn socket = true) :
    (receiver.complyAll commands).acceptor.goesOn socket = decide (.stop ∉ commands) := by
  by_cases stops : .stop ∈ commands
  · rw [decide_eq_false (not_not.mpr stops)]
    exact sound.goesOn_of_idle (by rw [complyAll_stopped (.inl stops)]; nofun) socket
  · rw [decide_eq_true stops, complyAll_acceptor stops, goesOn]

variable (conduct) (task : Role)

theorem takeOver_acceptor (receiver : DatagramReceiver Handler) (connection : Connection) :
    (receiver.takeOver conduct task connection).1.acceptor =
      (receiver.complyAll (askedFor conduct receiver connection)).acceptor := by
  rw [takeOver_fst]
  dsimp only
  split
  · simp [register, abortEach_eq, askedFor, strike]
  · rfl

theorem takeOver_arrivals (receiver : DatagramReceiver Handler) (connection : Connection) :
    (receiver.takeOver conduct task connection).1.arrivals = receiver.arrivals := by
  rw [takeOver_fst]
  dsimp only
  split
  · simp [register, abortEach_eq, strike]
  · simp [release]

theorem takeOver_acceptHandlers (receiver : DatagramReceiver Handler) (connection : Connection) :
    (receiver.takeOver conduct task connection).1.acceptHandlers = receiver.acceptHandlers := by
  rw [takeOver_fst]
  dsimp only
  split
  · simp [register, abortEach_eq, strike]
  · simp [release]

theorem Orderly.takeOver (orderly : Orderly receiver deeds)
    {rest : List (Except Failure Connection)}
    (arrivals : receiver.arrivals = .ok connection :: rest) :
    Orderly ((receiver.withArrivals rest).takeOver conduct task connection).1
      (deeds ++ admission conduct receiver connection) := by
  have asked := orderly.complyAll (askedFor conduct receiver connection)
  have waits : (receiver.complyAll (askedFor conduct receiver connection)).arrivals =
      .ok connection :: rest := by rw [complyAll_arrivals, arrivals]
  rw [takeOver_fst, admission, ← List.append_assoc]
  simp only [withArrivals_acceptHandlers, complyAll_withArrivals]
  split
  · have registers := register_fst connection ((receiver.complyAll
      (askedFor conduct receiver connection)).withArrivals rest) (asked.tidy.unused _)
    exact registers.symm ▸ asked.letIn waits
  · have fewer : (rest.filterMap Except.toOption).Sublist
        (receiver.complyAll (askedFor conduct receiver connection)).waiting := by
      rw [waiting, waits]
      exact List.sublist_cons_self _ _
    have spared : Orderly (receiver.complyAll (askedFor conduct receiver connection))
        (deeds ++ (askedFor conduct receiver connection).map Command.deed ++ [.vetoed connection]) :=
      asked.notes trivial trivial
    exact (spared.idles (.withArrivals fewer)).idles (.of_same rfl rfl rfl rfl rfl rfl)

variable {conduct}

/-- What happens to a connection depends on the handlers that are asked. -/
theorem askedFor_congr (same : after.acceptHandlers = receiver.acceptHandlers) :
    askedFor conduct after = askedFor conduct receiver := by
  funext connection
  rw [askedFor, askedFor, same]

theorem admission_congr (same : after.acceptHandlers = receiver.acceptHandlers) :
    admission conduct after = admission conduct receiver := by
  funext connection
  rw [admission, admission, askedFor_congr same, same]

/-- After a connection is taken over, the loop goes on unless a handler stopped the receiver. -/
theorem takeOver_goesOn {rest : List (Except Failure Connection)} {socket : Nat}
    (sound : ((receiver.withArrivals rest).takeOver conduct task connection).1.acceptor.Sound)
    (goesOn : receiver.acceptor.goesOn socket = true) :
    ((receiver.withArrivals rest).takeOver conduct task connection).1.acceptor.goesOn socket =
      decide (.stop ∉ askedFor conduct receiver connection) := by
  have acceptor := takeOver_acceptor conduct task (receiver.withArrivals rest) connection
  rw [askedFor, withArrivals_acceptHandlers, ← askedFor, complyAll_withArrivals] at acceptor
  rw [acceptor] at sound ⊢
  exact goesOn_complyAll sound goesOn

/-- The loop of a socket takes the arrivals over that it is said to accept. -/
theorem Orderly.acceptEach (orderly : Orderly receiver deeds) {socket : Nat}
    (goesOn : receiver.acceptor.goesOn socket = true) (share : Nat)
    (arrivals : List (Except Failure Connection)) (waits : receiver.arrivals = arrivals) :
    Orderly (acceptEach conduct socket share arrivals receiver).1
      (deeds ++ (offered (fun connection => decide (.stop ∈ askedFor conduct receiver connection))
        share arrivals).flatMap (admission conduct receiver)) := by
  induction share generalizing receiver deeds arrivals with
  | zero =>
      subst waits
      exact .unsaid (orderly.idles (.of_same rfl rfl rfl rfl rfl rfl))
  | succ share ih =>
      match arrivals with
      | [] =>
          have none : Orderly (receiver.withArrivals []) deeds :=
            orderly.idles (.withArrivals (List.nil_sublist _))
          exact none.unsaid
      | .error failure :: rest =>
          have taken : Orderly (receiver.withArrivals rest) deeds := by
            refine orderly.idles (.withArrivals ?_)
            rw [waiting, waits]
            exact List.Sublist.refl _
          rw [DatagramReceiver.acceptEach, offered]
          split
          · exact ih taken goesOn rest rfl
          · exact .unsaid (taken.idles
              (.withAcceptor (fun sound => sound.endLoop socket) Iff.rfl))
      | .ok connection :: rest =>
          have taken := orderly.takeOver conduct (.acceptLoop socket) waits
          have handlers := takeOver_acceptHandlers conduct (.acceptLoop socket)
            (receiver.withArrivals rest) connection
          have left := takeOver_arrivals conduct (.acceptLoop socket)
            (receiver.withArrivals rest) connection
          have keeps := takeOver_goesOn (.acceptLoop socket) taken.tidy.sound goesOn
          have turn : (DatagramReceiver.acceptEach conduct socket (share + 1)
              (.ok connection :: rest) receiver).1 =
              let reached := ((receiver.withArrivals rest).takeOver conduct (.acceptLoop socket)
                connection).1
              (if reached.acceptor.goesOn socket then
                DatagramReceiver.acceptEach conduct socket share rest reached
              else reached.endAccepting socket).1 := rfl
          rw [turn, offered, List.flatMap_cons, ← List.append_assoc]
          generalize ((receiver.withArrivals rest).takeOver conduct (.acceptLoop socket)
            connection).1 = reached at taken handlers left keeps
          -- The connection is in the log either way. Only what comes behind it depends on a stop.
          by_cases stops : .stop ∈ askedFor conduct receiver connection
          · have gone : reached.acceptor.goesOn socket = false := by simpa [stops] using keeps
            simp only [gone, Bool.false_eq_true, if_false, stops, decide_true, if_true,
              List.flatMap_nil, List.append_nil]
            exact taken.idles (.withAcceptor (fun sound => sound.endLoop socket) Iff.rfl)
          · have still : reached.acceptor.goesOn socket = true := by simpa [stops] using keeps
            simp only [still, if_true, stops, decide_false, Bool.false_eq_true, if_false]
            have goesOn := ih taken still rest left
            rwa [askedFor_congr handlers, admission_congr handlers] at goesOn

theorem Orderly.accept (conduct : Conduct Handler) (orderly : Orderly receiver deeds)
    (socket : Nat) :
    Orderly (receiver.accept conduct socket).1
      (deeds ++ (accepts conduct receiver socket).flatMap (admission conduct receiver)) := by
  rw [DatagramReceiver.accept, accepts]
  split
  · next goesOn => exact orderly.acceptEach goesOn conduct.shares.arrivals receiver.arrivals rfl
  · exact .unsaid (orderly.idles (.withAcceptor (fun sound => sound.endLoop socket) Iff.rfl))

end Accepting

section Receiving

theorem toldOf_singleton (receiver : DatagramReceiver Handler) (connection : Connection)
    (data : Bytes) :
    toldOf conduct receiver connection [data] =
      conduct.onReceived receiver.receiveHandlers.handlers { remote := connection.remote, data } :=
  List.flatMap_singleton ..

theorem reception_congr (same : after.receiveHandlers = receiver.receiveHandlers) :
    reception conduct after connection = reception conduct receiver connection := by
  funext data
  rw [reception, reception, toldOf, toldOf, same]

theorem Orderly.deliverEach (conduct : Conduct Handler) (orderly : Orderly receiver deeds)
    (known : loop.connection ∈ connections deeds) (data : List Bytes) :
    Orderly (deliverEach conduct loop data receiver).1
      (deeds ++ data.flatMap (reception conduct receiver loop.connection)) := by
  induction data generalizing receiver deeds with
  | nil => exact orderly.unsaid
  | cons first rest ih =>
      have begun : Orderly receiver (deeds ++ [.delivered loop.connection first]) :=
        orderly.notes trivial known
      have told : Orderly (receiver.deliver conduct (.receiveLoop loop.id)
          { remote := loop.connection.remote, data := first }).1
          (deeds ++ reception conduct receiver loop.connection first) := by
        rw [deliver_fst, reception, toldOf_singleton]
        have counted : Orderly (receiver.withBytes (receiver.bytesReceived +
            UInt64.ofNat first.length)) (deeds ++ [.delivered loop.connection first]) :=
          begun.idles (.of_same rfl rfl rfl rfl rfl rfl)
        simpa using counted.complyAll (conduct.onReceived receiver.receiveHandlers.handlers
          { remote := loop.connection.remote, data := first })
      have handlers : (receiver.deliver conduct (.receiveLoop loop.id)
          { remote := loop.connection.remote, data := first }).1.receiveHandlers =
          receiver.receiveHandlers := by
        rw [deliver_fst, complyAll_receiveHandlers]
        rfl
      have goesOn := ih told (by
        rw [connections_append]
        exact List.mem_append_left _ known)
      rw [reception_congr handlers] at goesOn
      rw [List.flatMap_cons, ← List.append_assoc]
      exact goesOn

/-- The loop itself and its connection stay as they are while handlers do something. -/
theorem complyAll_keeps (receiver : DatagramReceiver Handler) (commands : List Command)
    (among : loop ∈ receiver.loops) :
    ∃ later ∈ (receiver.complyAll commands).loops,
      later.id = loop.id ∧ later.connection = loop.connection := by
  induction commands generalizing receiver loop with
  | nil => exact ⟨loop, among, rfl, rfl⟩
  | cons command rest ih =>
      have step : ∃ later ∈ (receiver.comply command).loops,
          later.id = loop.id ∧ later.connection = loop.connection := by
        cases command <;> exact mem_cut_of_mem among
      obtain ⟨next, later, id, connection⟩ := step
      obtain ⟨last, among, ids, connections⟩ := ih _ later
      exact ⟨last, among, ids.trans id, connections.trans connection⟩

/-- A connection ends by itself. If it was in the table, it leaves it before handlers are told. -/
theorem Orderly.conclude (conduct : Conduct Handler) (orderly : Orderly receiver deeds)
    (reason : EndReason)
    (holds : ∃ former ∈ receiver.loops,
      former.id = loop.id ∧ former.connection = loop.connection) :
    Orderly (receiver.conclude conduct loop reason).1
      (deeds ++ conclusion conduct receiver loop reason) := by
  obtain ⟨former, among, id, same⟩ := holds
  have own {connection : Connection} (live : receiver.Live loop.id connection) :
      connection = loop.connection := by
    rw [← same, orderly.tidy.same_loop among live id]
  have leaves : (receiver.conclude conduct loop reason).1 =
      (if receiver.endpoints.lookup loop.connection.remote = some loop.id then
        tellEndEach conduct (.receiveLoop loop.id) loop.connection.remote reason
          receiver.endHandlers.handlers
          ((receiver.endLoop loop).1.strike loop.connection.remote)
      else ((receiver.endLoop loop).1, [])).1 := rfl
  rw [leaves, conclusion]
  split
  · next found =>
    obtain ⟨connection, live, _⟩ := orderly.tidy.lookup_iff.mp found
    have ends := orderly.ends (own live ▸ live) reason
    have released : Orderly ((receiver.endLoop loop).1.strike loop.connection.remote)
        (deeds ++ [.ended loop.connection reason]) :=
      ends.idles (.of_same rfl rfl rfl rfl rfl rfl)
    rw [tellEndEach_fst]
    simpa using released.complyAll (conduct.onEnded receiver.endHandlers.handlers
      loop.connection.remote reason)
  · next absent =>
    have gone (connection : Connection) : ¬receiver.Live loop.id connection := fun live =>
      absent (orderly.tidy.lookup_of_live (own live ▸ live))
    have dismissed : ¬Stands deeds loop.connection := by
      rw [orderly.standing]
      rintro ⟨other, live⟩
      have is := List.inj_on_of_nodup_map orderly.single among live same
      rw [is] at id
      exact gone loop.connection (id ▸ live)
    have lapsed : Orderly receiver (deeds ++ [.lapsed loop.connection reason]) :=
      orderly.notes trivial ⟨same ▸ orderly.held former among, dismissed⟩
    exact (lapsed.finish gone).idles (.of_same rfl rfl rfl rfl rfl rfl)

theorem Orderly.pause (orderly : Orderly receiver deeds)
    (receptions : List (Except IoKind Bytes))
    (effects : List (Effect Role (Order Handler) Reply)) :
    Orderly (receiver.pause loop receptions effects).1 deeds := by
  rw [DatagramReceiver.pause]
  split
  · next aborted =>
    have gone (connection : Connection) : ¬receiver.Live loop.id connection := by
      intro live
      rw [isAborted, orderly.tidy.loop?_iff.mpr ⟨live, rfl⟩] at aborted
      cases aborted
    exact (orderly.finish gone).idles (.of_same rfl rfl rfl rfl rfl rfl)
  · exact orderly.idles (.of_same rfl rfl rfl rfl rfl rfl)

/-- What a loop does in its turn is what its deeds say. -/
theorem Orderly.receive (orderly : Orderly receiver deeds) (id : Nat) :
    Orderly (receiver.receive conduct id).1
      (deeds ++ (receiver.awake? id).elim [] (receipt conduct receiver)) := by
  cases awake : receiver.awake? id with
  | none =>
      rw [Option.elim_none, List.append_nil]
      rcases receive_asleep conduct receiver awake with same | ⟨loop, among, aborted, same⟩
      · exact same ▸ orderly
      · have gone (connection : Connection) : ¬receiver.Live loop.id connection := by
          intro live
          rw [orderly.tidy.same_loop among live rfl] at aborted
          cases aborted
        exact same ▸ (orderly.finish gone).idles (.of_same rfl rfl rfl rfl rfl rfl)
  | some loop =>
      obtain ⟨connection, rfl, live⟩ := orderly.tidy.awake?_iff.mp awake
      have delivered := orderly.deliverEach conduct (orderly.held _ live)
        (receiver.hears conduct { id, connection })
      obtain ⟨bytes, reached⟩ := deliverEach_fst conduct { id, connection } receiver
        (receiver.hears conduct { id, connection })
      have keeps := (receiver.withBytes bytes).complyAll_keeps
        (toldOf conduct receiver connection (receiver.hears conduct { id, connection })) live
      rw [receive_awake awake, Turn.andThen_fst, Option.elim_some, receipt, ← List.append_assoc]
      rw [reached] at delivered ⊢
      rw [endTurn, complyAll_inflow, withBytes_inflow]
      cases ends : receiver.ends? conduct { id, connection } with
      | none =>
          rw [ends?] at ends
          simp only [ends, List.append_nil]
          exact delivered.pause _ _
      | some reason =>
          rw [ends?] at ends
          simp only [ends]
          have concludes := delivered.conclude conduct reason keeps
          rw [complyAll_withBytes] at concludes ⊢
          exact concludes

end Receiving

section Calls

/-- A new connection has a number of its own. -/
theorem Orderly.arrive (orderly : Orderly receiver deeds) (remote : Address) :
    Orderly (receiver.arrive remote) deeds := by
  have more : (receiver.arrive remote).numbers deeds =
      receiver.numbers deeds ++ [receiver.nextConnection] := by
    simp [numbers, waiting, DatagramReceiver.arrive, enqueue, Except.toOption]
  obtain ⟨tidy, running, standing, held, single, distinct, numbered, logged⟩ := orderly
  refine ⟨⟨tidy.sound, tidy.remotes, tidy.ids, tidy.fresh, tidy.registered⟩, running, standing,
    held, single, ?_, ?_, logged⟩
  · rw [more, List.nodup_append]
    refine ⟨distinct, List.nodup_singleton _, ?_⟩
    rintro number among other new rfl
    rw [List.mem_singleton.mp new] at among
    exact Nat.lt_irrefl _ (numbered _ among)
  · rw [more]
    intro number among
    rcases List.mem_append.mp among with former | new
    · exact Nat.lt_succ_of_lt (numbered number former)
    · rw [List.mem_singleton.mp new]
      exact Nat.lt_succ_self _

theorem Orderly.begin (orderly : Orderly receiver deeds) (task : Role) (call : Call Handler) :
    Orderly (receiver.begin task call).1 (deeds ++ deedsOf conduct receiver (.call call)) := by
  cases call with
  | start =>
      rw [DatagramReceiver.begin]
      split
      · next acceptor socket begun =>
        have running : acceptor.phase = .running ↔ receiver.acceptor.phase = .running := by
          rw [Acceptor.beginStart] at begun
          split at begun
          · next stopped =>
            obtain ⟨rfl, _⟩ := Prod.mk.inj (Except.ok.inj begun)
            simp [stopped]
          · cases begun
        exact .unsaid (orderly.idles (.withAcceptor (fun sound => sound.beginStart begun) running))
      · exact orderly.unsaid
  | stop =>
      have stopped : (receiver.begin task .stop).1 = receiver.comply .stop := receiver.stop_fst task
      exact stopped ▸ orderly.comply .stop
  | disconnect remote =>
      have parted : (receiver.begin task (.disconnect remote)).1 =
          receiver.comply (.disconnect remote) := receiver.disconnect_fst remote
      exact parted ▸ orderly.comply (.disconnect remote)
  | subscribe occasion handler =>
      cases occasion <;> exact .unsaid (orderly.idles (.of_same rfl rfl rfl rfl rfl rfl))
  | unsubscribe occasion id =>
      cases occasion <;> exact .unsaid (orderly.idles (.of_same rfl rfl rfl rfl rfl rfl))
  | arrive remote => exact .unsaid (orderly.arrive remote)
  | arriveFailed failure =>
      have fewer : ((receiver.enqueue (.error failure)).arrivals.filterMap Except.toOption).Sublist
          receiver.waiting := by
        simp [waiting, enqueue, Except.toOption]
      exact .unsaid (orderly.idles (.withArrivals fewer))
  | bring number receptions =>
      exact .unsaid (orderly.idles (.of_same rfl rfl rfl rfl rfl rfl))
  | hangUp number =>
      exact .unsaid (orderly.idles (.of_same rfl rfl rfl rfl rfl rfl))

/-- The acceptor accepts connections from now on. -/
theorem Orderly.start (orderly : Orderly receiver deeds) {acceptor : Acceptor Role}
    (sound : acceptor.Sound) (running : acceptor.phase = .running) :
    Orderly { receiver with acceptor } (deeds ++ [.started]) := by
  have known : connections (deeds ++ [.started]) = connections deeds := by
    simp [connections, Deed.connection?]
  have same : numbers { receiver with acceptor } (deeds ++ [.started]) =
      receiver.numbers deeds := by
    rw [numbers, known]
    rfl
  obtain ⟨tidy, _, standing, held, single, distinct, numbered, logged⟩ := orderly
  refine ⟨{ tidy with sound }, ?_, fun connection => ?_, known ▸ held, single, same ▸ distinct,
    same ▸ numbered, forall_split_concat.mpr ⟨logged, trivial⟩⟩
  · rw [halted_concat]
    simp [running]
  · have kept : Stands (deeds ++ [.started]) connection ↔ Stands deeds connection := by
      simp [stands_concat, Deed.Dismisses]
    exact kept.trans (standing connection)

theorem Orderly.bound (orderly : Orderly receiver deeds) (role : Role)
    (result : Except Failure Unit) :
    Orderly (receiver.bound role result).1
      (deeds ++ deedsOf conduct receiver (.answer role result)) := by
  cases found : receiver.acceptor.starts.lookup role with
  | none =>
      have same : receiver.bound role result = (receiver, []) := by
        simp [DatagramReceiver.bound, found]
      rw [deedsOf, same, if_neg fun starts => starts.1 starts.2, List.append_nil]
      exact orderly
  | some start =>
      have sound := orderly.tidy.sound.endStart found result
      have after : (receiver.bound role result).1 = { receiver with
          acceptor := ((receiver.acceptor.forgetStart role).endStart start result).1 } := by
        simp [DatagramReceiver.bound, found]
      rw [deedsOf, after]
      split
      · next starts => exact orderly.start sound starts.2
      · next idle =>
        rw [List.append_nil]
        refine orderly.idles (.withAcceptor (fun _ => sound) ⟨fun runs => ?_, fun runs => ?_⟩)
        · exact not_not.mp fun stopped => idle ⟨stopped, runs⟩
        · rw [orderly.tidy.sound.running_endStart found result runs]
          exact runs

end Calls

namespace History

variable (conduct)

theorem opened_orderly (bindAddress : Address) (limits : ReceiveLimits) :
    Orderly (opened bindAddress limits : History Handler).receiver [] where
  tidy :=
    { sound := Acceptor.sound_new bindAddress limits
      remotes := List.nodup_nil
      ids := List.nodup_nil
      fresh := by simp [opened]
      registered := by simp [opened, Live] }
  running := by simp [opened, Halted]
  standing := by simp [opened, Stands, Live]
  held := by simp [opened]
  single := List.nodup_nil
  distinct := List.nodup_nil
  numbered := by simp [opened, numbers, connections, waiting]
  logged := by simp

theorem step_orderly {history : History Handler}
    (orderly : Orderly history.receiver history.deeds) (event : Event Handler) :
    Orderly (history.step conduct event).receiver (history.step conduct event).deeds := by
  match event with
  | .call call => exact orderly.begin (.caller history.calls) call
  | .turn (.caller _) => exact orderly.unsaid
  | .turn (.acceptLoop socket) => exact orderly.accept conduct socket
  | .turn (.receiveLoop id) => exact orderly.receive id
  | .answer role result => exact orderly.bound role result
  | .abandon role =>
      exact .unsaid (orderly.idles (.withAcceptor (fun sound => sound.forgetStart role) Iff.rfl))

theorem run_orderly {history : History Handler}
    (orderly : Orderly history.receiver history.deeds) (events : List (Event Handler)) :
    Orderly (history.run conduct events).receiver (history.run conduct events).deeds := by
  induction events generalizing history with
  | nil => exact orderly
  | cons event rest ih => exact ih (step_orderly conduct orderly event)

/-- All deeds of a run do as they should exactly if all its events do as they should. -/
theorem run_forall_iff {history : History Handler} (fresh : history.deeds = [])
    (orderly : Orderly history.receiver history.deeds) {claim : List Deed → Deed → Prop}
    {fair : DatagramReceiver Handler → Event Handler → Prop}
    (each : ∀ receiver deeds event, Orderly receiver deeds →
      (∀ front deed later, deeds = front ++ deed :: later → claim front deed) →
        ((∀ front deed later, deedsOf conduct receiver event = front ++ deed :: later →
          claim (deeds ++ front) deed) ↔ fair receiver event))
    (events : List (Event Handler)) :
    (∀ front deed later, (history.run conduct events).deeds = front ++ deed :: later →
      claim front deed) ↔
      ∀ before event behind, events = before ++ event :: behind →
        fair (history.run conduct before).receiver event := by
  induction events using List.reverseRecOn with
  | nil =>
      have none : (history.run conduct []).deeds = [] := fresh
      rw [none]
      simp
  | append_singleton events event ih =>
      have grown : (history.run conduct (events ++ [event])).deeds =
          (history.run conduct events).deeds ++
            deedsOf conduct (history.run conduct events).receiver event := by
        rw [run_append]
        rfl
      -- Whether the last event is fair may depend on what the log says before it.
      rw [grown, forall_split_append, forall_split_concat, ← ih]
      exact and_congr_right fun former =>
        each _ _ event (run_orderly conduct orderly events) former

end History

end DatagramReceiver

end ReliableTransport
