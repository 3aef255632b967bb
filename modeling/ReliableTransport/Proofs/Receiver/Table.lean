import Mathlib.Data.List.Nodup
import ReliableTransport.Proofs.Acceptor.Soundness
import ReliableTransport.Proofs.Receiver.Deeds
/-!
This module says how the table of a receiver fits its loops: the table has an entry for exactly
those loops that were not told to end, and whatever takes an entry away tells the loop to end.
-/

namespace ReliableTransport

namespace DatagramReceiver

section Cut

variable {loops : List Loop} {ids : List Nat}

@[simp] theorem cut_ids (loops : List Loop) (ids : List Nat) :
    (cut loops ids).map Loop.id = loops.map Loop.id := by
  rw [cut, List.map_map]
  refine List.map_congr_left fun loop _ => ?_
  rw [Function.comp]
  split <;> rfl

@[simp] theorem cut_connections (loops : List Loop) (ids : List Nat) :
    (cut loops ids).map Loop.connection = loops.map Loop.connection := by
  rw [cut, List.map_map]
  refine List.map_congr_left fun loop _ => ?_
  rw [Function.comp]
  split <;> rfl

/-- The loops that go on are those that were not told to end. -/
theorem mem_cut_live {id : Nat} {connection : Connection} :
    { id, connection } ∈ cut loops ids ↔ { id, connection } ∈ loops ∧ id ∉ ids := by
  rw [cut, List.mem_map]
  constructor
  · rintro ⟨loop, among, same⟩
    split at same
    · cases same
    · next spared =>
      subst same
      exact ⟨among, spared⟩
  · rintro ⟨among, spared⟩
    exact ⟨_, among, if_neg spared⟩

theorem of_mem_cut {loop : Loop} (among : loop ∈ cut loops ids) :
    ∃ former ∈ loops, former.id = loop.id ∧ former.connection = loop.connection := by
  obtain ⟨former, before, rfl⟩ := List.mem_map.mp among
  refine ⟨former, before, ?_⟩
  split <;> exact ⟨rfl, rfl⟩

theorem mem_cut_of_mem {loop : Loop} (among : loop ∈ loops) :
    ∃ later ∈ cut loops ids, later.id = loop.id ∧ later.connection = loop.connection := by
  refine ⟨_, List.mem_map.mpr ⟨loop, among, rfl⟩, ?_⟩
  split <;> exact ⟨rfl, rfl⟩

/-- When a loop is over, it does not matter any more whether it was told to end. -/
theorem filter_cut (loops : List Loop) (id : Nat) :
    (cut loops [id]).filter (fun other => !(other.id == id)) =
      loops.filter fun other => !(other.id == id) := by
  induction loops with
  | nil => rfl
  | cons loop rest ih =>
      simp only [cut, List.mem_singleton] at ih
      by_cases own : loop.id = id <;> simp [cut, own, ih]

end Cut

variable {Handler : Type} {receiver : DatagramReceiver Handler}

theorem comply_connections (receiver : DatagramReceiver Handler) (command : Command) :
    (receiver.comply command).loops.map Loop.connection =
      receiver.loops.map Loop.connection := by
  cases command <;> exact cut_connections _ _

/-- A connection has a loop that was not told to end. -/
def Live (receiver : DatagramReceiver Handler) (id : Nat) (connection : Connection) : Prop :=
  { id, connection } ∈ receiver.loops

structure Tidy (receiver : DatagramReceiver Handler) : Prop where
  sound : receiver.acceptor.Sound
  remotes : (receiver.endpoints.map Prod.fst).Nodup
  ids : (receiver.loops.map Loop.id).Nodup
  fresh : ∀ loop ∈ receiver.loops, loop.id < receiver.nextLoop
  registered : ∀ remote id, (remote, id) ∈ receiver.endpoints ↔
    ∃ connection, receiver.Live id connection ∧ connection.remote = remote

namespace Tidy

variable {id other : Nat} {connection newer : Connection} {remote : Address}

theorem same_loop (tidy : receiver.Tidy) {first second : Loop} (one : first ∈ receiver.loops)
    (two : second ∈ receiver.loops) (same : first.id = second.id) : first = second :=
  List.inj_on_of_nodup_map tidy.ids one two same

theorem same_connection (tidy : receiver.Tidy) (one : receiver.Live id connection)
    (two : receiver.Live id newer) : connection = newer :=
  congrArg Loop.connection (tidy.same_loop one two rfl)

theorem lookup_iff (tidy : receiver.Tidy) : receiver.endpoints.lookup remote = some id ↔
    ∃ connection, receiver.Live id connection ∧ connection.remote = remote := by
  rw [← tidy.registered]
  exact ⟨mem_of_lookup, lookup_of_mem tidy.remotes⟩

theorem lookup_of_live (tidy : receiver.Tidy) (live : receiver.Live id connection) :
    receiver.endpoints.lookup connection.remote = some id :=
  tidy.lookup_iff.mpr ⟨connection, live, rfl⟩

/-- A remote has one loop at most that was not told to end. -/
theorem alone (tidy : receiver.Tidy) (one : receiver.Live id connection)
    (two : receiver.Live other newer) (same : connection.remote = newer.remote) :
    id = other ∧ connection = newer := by
  have found := tidy.lookup_of_live one
  rw [same, tidy.lookup_of_live two] at found
  obtain rfl := Option.some.inj found
  exact ⟨rfl, tidy.same_connection one two⟩

theorem loop?_iff (tidy : receiver.Tidy) {loop : Loop} :
    receiver.loop? id = some loop ↔ loop ∈ receiver.loops ∧ loop.id = id := by
  constructor
  · intro found
    exact ⟨List.mem_of_find?_eq_some found, by simpa using List.find?_some found⟩
  · rintro ⟨among, rfl⟩
    cases found : receiver.loop? loop.id with
    | none =>
        have absent := List.find?_eq_none.mp found loop among
        simp at absent
    | some other =>
        have own : other.id = loop.id := by simpa using List.find?_some found
        rw [tidy.same_loop (List.mem_of_find?_eq_some found) among own]

theorem awake?_iff (tidy : receiver.Tidy) {loop : Loop} :
    receiver.awake? id = some loop ↔
      ∃ connection, loop = { id, connection } ∧ receiver.Live id connection := by
  rw [awake?_eq_some, tidy.loop?_iff]
  constructor
  · rintro ⟨⟨among, rfl⟩, unaborted⟩
    obtain ⟨id, connection, aborted⟩ := loop
    obtain rfl : aborted = false := unaborted
    exact ⟨connection, rfl, among⟩
  · rintro ⟨connection, rfl, live⟩
    exact ⟨⟨live, rfl⟩, rfl⟩

/-- The loops of those remotes are told to end that lose their entries. -/
theorem live_part (tidy : receiver.Tidy) {leaves : Address → Bool} {ids : List Nat}
    (covers : ∀ id, id ∈ ids ↔ ∃ remote, leaves remote = true ∧ (remote, id) ∈ receiver.endpoints) :
    (receiver.part leaves ids).Live id connection ↔
      receiver.Live id connection ∧ leaves connection.remote = false := by
  refine mem_cut_live.trans (and_congr_right fun live => ?_)
  rw [covers, ← Bool.not_eq_true, not_iff_not]
  constructor
  · rintro ⟨remote, leaving, entry⟩
    obtain ⟨same, own, rfl⟩ := (tidy.registered _ _).mp entry
    rwa [tidy.same_connection live own]
  · exact fun leaving => ⟨_, leaving, (tidy.registered _ _).mpr ⟨connection, live, rfl⟩⟩

theorem part (tidy : receiver.Tidy) {leaves : Address → Bool} {ids : List Nat}
    (covers : ∀ id, id ∈ ids ↔ ∃ remote, leaves remote = true ∧ (remote, id) ∈ receiver.endpoints) :
    (receiver.part leaves ids).Tidy where
  sound := tidy.sound
  remotes := tidy.remotes.sublist (List.filter_sublist.map _)
  ids := by
    rw [DatagramReceiver.part, cut_ids]
    exact tidy.ids
  fresh loop among := by
    obtain ⟨former, before, same, _⟩ := of_mem_cut among
    exact same ▸ tidy.fresh former before
  registered remote id := by
    simp only [tidy.live_part covers]
    refine List.mem_filter.trans ?_
    rw [tidy.registered, Bool.not_eq_true']
    constructor
    · rintro ⟨⟨connection, live, rfl⟩, stays⟩
      exact ⟨connection, ⟨live, stays⟩, rfl⟩
    · rintro ⟨connection, ⟨live, stays⟩, rfl⟩
      exact ⟨⟨connection, live, rfl⟩, stays⟩

theorem covers_remote (tidy : receiver.Tidy) (remote : Address) (id : Nat) :
    id ∈ (receiver.endpoints.lookup remote).toList ↔
      ∃ other, (other == remote) = true ∧ (other, id) ∈ receiver.endpoints := by
  rw [Option.mem_toList, tidy.lookup_iff, ← tidy.registered]
  simp

theorem covers_all (receiver : DatagramReceiver Handler) (id : Nat) :
    id ∈ receiver.endpoints.map Prod.snd ↔
      ∃ remote, (fun _ => true) remote = true ∧ (remote, id) ∈ receiver.endpoints := by
  simp

theorem comply (tidy : receiver.Tidy) (command : Command) : (receiver.comply command).Tidy := by
  cases command with
  | disconnect remote => exact tidy.part (tidy.covers_remote remote)
  | stop =>
      have parted := tidy.part (covers_all receiver)
      exact { parted with sound := tidy.sound.stop }

/-- The connections that a command leaves are those that it does not dismiss. -/
theorem live_comply (tidy : receiver.Tidy) (command : Command) :
    (receiver.comply command).Live id connection ↔
      receiver.Live id connection ∧ ¬command.deed.Dismisses connection := by
  cases command with
  | disconnect remote =>
      refine (tidy.live_part (tidy.covers_remote remote)).trans (and_congr_right fun _ => ?_)
      rw [beq_eq_false_iff_ne]
      exact not_congr eq_comm
  | stop =>
      refine (tidy.live_part (covers_all receiver)).trans (and_congr_right fun _ => ?_)
      simp [Command.deed, Deed.Dismisses]

/-- A remote is not in the table with the number of a loop that is still to come. -/
theorem unused (tidy : receiver.Tidy) (remote : Address) :
    receiver.endpoints.lookup remote ≠ some receiver.nextLoop := by
  intro found
  obtain ⟨connection, live, _⟩ := tidy.lookup_iff.mp found
  exact Nat.lt_irrefl _ (tidy.fresh _ live)

theorem live_letIn (tidy : receiver.Tidy) (newer : Connection) :
    (receiver.letIn newer).Live id connection ↔
      id = receiver.nextLoop ∧ connection = newer ∨
        receiver.Live id connection ∧ newer.remote ≠ connection.remote := by
  have others : (receiver.comply (.disconnect newer.remote)).Live id connection ↔
      receiver.Live id connection ∧ newer.remote ≠ connection.remote :=
    tidy.live_comply (.disconnect newer.remote)
  refine List.mem_append.trans ?_
  rw [List.mem_singleton, Loop.mk.injEq, or_comm]
  exact or_congr ⟨fun same => ⟨same.1, same.2.1⟩, fun same => ⟨same.1, same.2, rfl⟩⟩ others

theorem letIn (tidy : receiver.Tidy) (newer : Connection) : (receiver.letIn newer).Tidy := by
  have parted := tidy.comply (.disconnect newer.remote)
  refine ⟨parted.sound, ?_, ?_, fun loop among => ?_, fun remote id => ?_⟩
  · refine (List.map_append ..).symm ▸ List.nodup_append.mpr
      ⟨parted.remotes, List.nodup_singleton _, ?_⟩
    rintro remote former other new rfl
    obtain ⟨entry, among, rfl⟩ := List.mem_map.mp former
    have stays := (List.mem_filter.mp among).2
    rw [List.mem_singleton.mp new] at stays
    simp at stays
  · refine (List.map_append ..).symm ▸ List.nodup_append.mpr
      ⟨parted.ids, List.nodup_singleton _, ?_⟩
    rintro id former other new rfl
    obtain ⟨loop, among, rfl⟩ := List.mem_map.mp former
    have known : loop.id < receiver.nextLoop := parted.fresh loop among
    rw [List.mem_singleton.mp new] at known
    exact Nat.lt_irrefl _ known
  · rcases List.mem_append.mp among with former | new
    · exact Nat.lt_succ_of_lt (parted.fresh loop former)
    · rw [List.mem_singleton.mp new]
      exact Nat.lt_succ_self _
  · simp only [tidy.live_letIn]
    refine List.mem_append.trans ?_
    rw [List.mem_singleton, Prod.mk.injEq, parted.registered]
    simp only [tidy.live_comply]
    constructor
    · rintro (⟨connection, ⟨live, stays⟩, rfl⟩ | ⟨rfl, rfl⟩)
      · exact ⟨connection, .inr ⟨live, stays⟩, rfl⟩
      · exact ⟨newer, .inl ⟨rfl, rfl⟩, rfl⟩
    · rintro ⟨connection, ⟨rfl, rfl⟩ | ⟨live, stays⟩, rfl⟩
      · exact .inr ⟨rfl, rfl⟩
      · exact .inl ⟨connection, ⟨live, stays⟩, rfl⟩

theorem live_finish {loop : Loop} :
    (receiver.finish loop).Live id connection ↔ receiver.Live id connection ∧ id ≠ loop.id :=
  List.mem_filter.trans (and_congr_right fun _ => bne_iff_ne)

/-- A loop that was told to end is not in the table when it does. -/
theorem finish (tidy : receiver.Tidy) {loop : Loop}
    (gone : ∀ connection, ¬receiver.Live loop.id connection) : (receiver.finish loop).Tidy where
  sound := tidy.sound
  remotes := tidy.remotes
  ids := tidy.ids.sublist (List.filter_sublist.map _)
  fresh loop among := tidy.fresh loop (List.mem_filter.mp among).1
  registered remote id := by
    simp only [live_finish]
    refine (tidy.registered remote id).trans (exists_congr fun connection => ?_)
    refine and_congr_left fun _ => (and_iff_left_of_imp fun live => ?_).symm
    rintro rfl
    exact gone connection live

end Tidy

/-- A loop that ends by itself and leaves the table goes as if it had been told to end. -/
theorem strike_finish {loop : Loop} {remote : Address}
    (own : receiver.endpoints.lookup remote = some loop.id) :
    (receiver.finish loop).strike remote =
      (receiver.comply (.disconnect remote)).finish loop := by
  have gone := filter_cut receiver.loops loop.id
  simp [comply, part, own, DatagramReceiver.finish, strike, gone, bne]

end DatagramReceiver

end ReliableTransport
