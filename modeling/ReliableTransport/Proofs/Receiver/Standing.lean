import ReliableTransport.Proofs.Receiver.Table
/-!
This module says how a receiver agrees with its log. The connections that stand in the log are those
whose loops were not told to end, and so they are those in the table.
-/

namespace ReliableTransport

namespace DatagramReceiver

/-- What a deed says about those before it. -/
def Deed.Fits (former : List Deed) : Deed → Prop
  | .delivered connection _ => connection ∈ connections former
  | .ended connection _ => Stands former connection
  | .lapsed connection _ => connection ∈ connections former ∧ ¬Stands former connection
  | _ => True

/-- Neither the table nor the acceptor changes with the deed. -/
def Deed.Silent : Deed → Prop
  | .vetoed _ | .delivered _ _ | .lapsed _ _ => True
  | _ => False

variable {Handler : Type}

/-- The connections that wait to be accepted. -/
def waiting (receiver : DatagramReceiver Handler) : List Connection :=
  receiver.arrivals.filterMap Except.toOption

/-- The numbers of the connections that there were and that wait. -/
def numbers (receiver : DatagramReceiver Handler) (deeds : List Deed) : List Nat :=
  (connections deeds ++ receiver.waiting).map Connection.number

/-- What holds for a receiver and its log, whatever has happened. -/
structure Orderly (receiver : DatagramReceiver Handler) (deeds : List Deed) : Prop where
  tidy : receiver.Tidy
  running : receiver.acceptor.phase = .running ↔ ¬Halted deeds
  standing : ∀ connection, Stands deeds connection ↔ ∃ id, receiver.Live id connection
  held : ∀ loop ∈ receiver.loops, loop.connection ∈ connections deeds
  single : (receiver.loops.map Loop.connection).Nodup
  distinct : (receiver.numbers deeds).Nodup
  numbered : ∀ number ∈ receiver.numbers deeds, number < receiver.nextConnection
  logged : ∀ front deed later, deeds = front ++ deed :: later → deed.Fits front

/-- A receiver goes on without anything that its log would say. -/
structure Idles (receiver after : DatagramReceiver Handler) : Prop where
  sound : receiver.acceptor.Sound → after.acceptor.Sound
  running : after.acceptor.phase = .running ↔ receiver.acceptor.phase = .running
  endpoints : after.endpoints = receiver.endpoints
  loops : after.loops = receiver.loops
  nextLoop : after.nextLoop = receiver.nextLoop
  waiting : after.waiting.Sublist receiver.waiting
  nextConnection : after.nextConnection = receiver.nextConnection

variable {receiver after : DatagramReceiver Handler} {deeds : List Deed} {deed : Deed}
  {connection : Connection} {loop : Loop}

theorem Command.fits (command : Command) (former : List Deed) : command.deed.Fits former := by
  cases command <;> exact trivial

theorem Command.connections_deed (command : Command) (deeds : List Deed) :
    connections (deeds ++ [command.deed]) = connections deeds := by
  cases command <;> simp [connections, Command.deed, Deed.connection?]

section Silent

variable (silent : deed.Silent)

include silent

theorem Deed.Silent.connections : connections (deeds ++ [deed]) = connections deeds := by
  cases deed <;> simp_all [DatagramReceiver.connections, Deed.connection?, Deed.Silent]

theorem Deed.Silent.halted : Halted (deeds ++ [deed]) ↔ Halted deeds := by
  rw [halted_concat]
  cases deed <;> simp_all [Deed.Silent]

theorem Deed.Silent.stands : Stands (deeds ++ [deed]) connection ↔ Stands deeds connection := by
  rw [stands_concat]
  cases deed <;> simp_all [Deed.Silent, Deed.Dismisses]

end Silent

namespace Orderly

theorem idles (orderly : Orderly receiver deeds) (idles : Idles receiver after) :
    Orderly after deeds := by
  obtain ⟨tidy, running, standing, held, single, distinct, numbered, logged⟩ := orderly
  have live (id : Nat) (connection : Connection) :
      after.Live id connection ↔ receiver.Live id connection := by
    rw [Live, Live, idles.loops]
  have fewer : (after.numbers deeds).Sublist (receiver.numbers deeds) :=
    (idles.waiting.append_left _).map _
  refine ⟨⟨idles.sound tidy.sound, ?_, ?_, ?_, ?_⟩, idles.running.trans running, ?_, ?_, ?_,
    distinct.sublist fewer, fun number among => ?_, logged⟩
  · exact idles.endpoints ▸ tidy.remotes
  · exact idles.loops ▸ tidy.ids
  · rw [idles.loops, idles.nextLoop]
    exact tidy.fresh
  · simp only [idles.endpoints, live]
    exact tidy.registered
  · simp only [live]
    exact standing
  · rw [idles.loops]
    exact held
  · rw [idles.loops]
    exact single
  · rw [idles.nextConnection]
    exact numbered number (fewer.subset among)

theorem notes (orderly : Orderly receiver deeds) (silent : deed.Silent) (fits : deed.Fits deeds) :
    Orderly receiver (deeds ++ [deed]) where
  tidy := orderly.tidy
  running := orderly.running.trans (not_congr silent.halted.symm)
  standing connection := silent.stands.trans (orderly.standing connection)
  held := by
    rw [silent.connections]
    exact orderly.held
  single := orderly.single
  distinct := by
    rw [numbers, silent.connections]
    exact orderly.distinct
  numbered := by
    rw [numbers, silent.connections]
    exact orderly.numbered
  logged := forall_split_concat.mpr ⟨orderly.logged, fits⟩

/-- A command takes the connections that it dismisses out of the table. -/
theorem comply (orderly : Orderly receiver deeds) (command : Command) :
    Orderly (receiver.comply command) (deeds ++ [command.deed]) where
  tidy := orderly.tidy.comply command
  running := by
    rw [halted_concat]
    cases command with
    | disconnect remote =>
        refine orderly.running.trans (not_congr ?_)
        simp [Command.deed]
    | stop => simp [DatagramReceiver.comply, Acceptor.stop, Command.deed]
  standing connection := by
    rw [stands_concat]
    simp only [orderly.tidy.live_comply, orderly.standing, exists_and_right]
    apply or_iff_right
    cases command <;> exact Deed.noConfusion
  held loop among := by
    rw [command.connections_deed]
    have former : ∃ former ∈ receiver.loops, former.id = loop.id ∧
        former.connection = loop.connection := by
      cases command <;> exact of_mem_cut among
    obtain ⟨former, before, _, same⟩ := former
    exact same ▸ orderly.held former before
  single := (comply_connections receiver command).symm ▸ orderly.single
  distinct := by
    rw [numbers, command.connections_deed]
    cases command <;> exact orderly.distinct
  numbered := by
    rw [numbers, command.connections_deed]
    cases command <;> exact orderly.numbered
  logged := forall_split_concat.mpr ⟨orderly.logged, command.fits deeds⟩

theorem complyAll (orderly : Orderly receiver deeds) (commands : List Command) :
    Orderly (receiver.complyAll commands) (deeds ++ commands.map Command.deed) := by
  induction commands generalizing receiver deeds with
  | nil => simpa using orderly
  | cons command rest ih => simpa using ih (orderly.comply command)

/-- A loop that was told to end is over. -/
theorem finish (orderly : Orderly receiver deeds)
    (gone : ∀ connection, ¬receiver.Live loop.id connection) :
    Orderly (receiver.finish loop) deeds where
  tidy := orderly.tidy.finish gone
  running := orderly.running
  standing connection := by
    simp only [orderly.standing, Tidy.live_finish]
    refine exists_congr fun id => (and_iff_left_of_imp fun live => ?_).symm
    rintro rfl
    exact gone connection live
  held other among := orderly.held other (List.mem_filter.mp among).1
  single := orderly.single.sublist (List.filter_sublist.map _)
  distinct := orderly.distinct
  numbered := orderly.numbered
  logged := orderly.logged

/-- A connection that waits was not made before. -/
theorem unmade (orderly : Orderly receiver deeds) {rest : List (Except Failure Connection)}
    (arrivals : receiver.arrivals = .ok connection :: rest) : connection ∉ connections deeds := by
  intro made
  have waits : receiver.waiting = connection :: rest.filterMap Except.toOption := by
    rw [waiting, arrivals]
    rfl
  have distinct := orderly.distinct
  rw [numbers, List.map_append, waits] at distinct
  exact (List.nodup_append.mp distinct).2.2 _ (List.mem_map_of_mem made) _
    (List.mem_map_of_mem List.mem_cons_self) rfl

/-- The first connection that waits takes the place of the one that its remote had. -/
theorem letIn (orderly : Orderly receiver deeds) {rest : List (Except Failure Connection)}
    (arrivals : receiver.arrivals = .ok connection :: rest) :
    Orderly ((receiver.letIn connection).withArrivals rest) (deeds ++ [.connected connection]) := by
  have known : connections (deeds ++ [.connected connection]) =
      connections deeds ++ [connection] := connections_append deeds _
  have same : ((receiver.letIn connection).withArrivals rest).numbers
      (deeds ++ [.connected connection]) = receiver.numbers deeds := by
    simp [numbers, known, waiting, withArrivals, arrivals, Except.toOption]
  have admitted := orderly.tidy.letIn connection
  refine ⟨⟨admitted.sound, admitted.remotes, admitted.ids, admitted.fresh, admitted.registered⟩,
    ?_, fun other => ?_, fun loop among => ?_, ?_, same ▸ orderly.distinct, ?_,
    forall_split_concat.mpr ⟨orderly.logged, trivial⟩⟩
  · rw [halted_concat]
    exact orderly.running.trans (not_congr (by simp))
  · rw [stands_concat, orderly.standing]
    refine Iff.trans ?_ (exists_congr fun id => (orderly.tidy.live_letIn connection).symm)
    simp [Deed.Dismisses, exists_or, eq_comm]
  · rw [known, List.mem_append, List.mem_singleton]
    rcases List.mem_append.mp among with former | new
    · obtain ⟨other, before, _, is⟩ := of_mem_cut former
      exact .inl (is ▸ orderly.held other before)
    · rw [List.mem_singleton.mp new]
      exact .inr rfl
  · refine (List.map_append ..).symm ▸ List.nodup_append.mpr
      ⟨(comply_connections receiver _).symm ▸ orderly.single, List.nodup_singleton _, ?_⟩
    rintro former among other new rfl
    rw [comply_connections] at among
    obtain ⟨loop, before, rfl⟩ := List.mem_map.mp among
    have is : loop.connection = connection := List.mem_singleton.mp new
    exact orderly.unmade arrivals (is ▸ orderly.held loop before)
  · rw [same]
    exact orderly.numbered

/-- A connection in the table ends by itself. -/
theorem ends (orderly : Orderly receiver deeds) (own : receiver.Live loop.id loop.connection)
    (reason : EndReason) :
    Orderly ((receiver.finish loop).strike loop.connection.remote)
      (deeds ++ [.ended loop.connection reason]) := by
  have parted := orderly.tidy.comply (.disconnect loop.connection.remote)
  have gone (connection : Connection) :
      ¬(receiver.comply (.disconnect loop.connection.remote)).Live loop.id connection := by
    rw [orderly.tidy.live_comply]
    rintro ⟨live, spared⟩
    exact spared (congrArg Connection.remote (orderly.tidy.same_connection own live))
  have known : connections (deeds ++ [.ended loop.connection reason]) = connections deeds := by
    simp [connections, Deed.connection?]
  rw [strike_finish (orderly.tidy.lookup_of_live own)]
  refine ⟨parted.finish gone, ?_, fun connection => ?_, ?_, ?_, ?_, ?_,
    forall_split_concat.mpr ⟨orderly.logged, (orderly.standing _).mpr ⟨_, own⟩⟩⟩
  · rw [halted_concat]
    exact orderly.running.trans (not_congr (by simp))
  · rw [stands_concat, orderly.standing]
    simp only [Tidy.live_finish, orderly.tidy.live_comply]
    constructor
    · rintro (is | ⟨⟨id, live⟩, other⟩)
      · cases is
      · refine ⟨id, ⟨live, fun same => ?_⟩, ?_⟩
        · exact other (orderly.tidy.alone own live same).2
        · rintro rfl
          exact other (orderly.tidy.same_connection own live)
    · rintro ⟨id, ⟨live, spared⟩, _⟩
      exact .inr ⟨⟨id, live⟩, fun same => spared (congrArg Connection.remote same)⟩
  · rw [known]
    intro other among
    obtain ⟨former, before, _, same⟩ := of_mem_cut (List.mem_filter.mp among).1
    exact same ▸ orderly.held former before
  · refine List.Nodup.sublist (List.filter_sublist.map _) ?_
    exact (comply_connections receiver _).symm ▸ orderly.single
  · rw [numbers, known]
    exact orderly.distinct
  · rw [numbers, known]
    exact orderly.numbered

end Orderly

end DatagramReceiver

end ReliableTransport
