import Mathlib.Data.List.Count
import Mathlib.Data.List.Nodup
import Mathlib.Data.List.Perm.Subperm
import ReliableTransport.Proofs.Acceptor.History
/-!
This module says who has which socket of an acceptor. A bound socket belongs to the acceptor while
it is the active one, and it is closed once when it is not wanted or no longer so.
-/

namespace ReliableTransport

namespace Acceptor

namespace History

/-- The starts that wait for their sockets, and those that were given up while they did. -/
def entries (history : History) : List (Role × Start) :=
  history.acceptor.starts ++ history.dropped

/-- The sockets that are bound or being bound for a start that waits. -/
def sockets (history : History) : List Nat :=
  history.reached ++ history.acceptor.starts.map fun entry => entry.2.socket

/-- Starts come from different calls, and each has a generation of its own. -/
structure Registered (count generation : Nat) (entries : List (Role × Start)) : Prop where
  callers : ∀ entry ∈ entries, ∃ number < count, entry.1 = .caller number
  roles : (entries.map Prod.fst).Nodup
  generations : (entries.map fun entry => entry.2.generation).Nodup
  latest : ∀ entry ∈ entries, entry.2.generation ≤ generation

/-- Every socket is in one place, and those that are in none are closed. -/
structure Owned (history : History) : Prop where
  distinct : history.sockets.Nodup
  numbered : ∀ socket ∈ history.sockets, socket < history.acceptor.nextSocket
  active : ∀ socket, history.acceptor.active = some socket → socket ∈ history.reached
  closed : ∀ socket, history.orders.count (.close socket) =
    if socket ∈ history.reached ∧ history.acceptor.active ≠ some socket then 1 else 0
  single : (history.acceptor.loops.map Loop.socket).Nodup
  looped : ∀ loop ∈ history.acceptor.loops, loop.socket ∈ history.reached ∧
    (loop.stopped = false → history.acceptor.active = some loop.socket)

/-- What holds for an acceptor, whatever has happened to it. -/
structure Orderly (history : History) : Prop where
  registered :
    Registered history.calls.length history.acceptor.generation history.entries
  owned : Owned history
  running : history.acceptor.phase = .running ↔ history.acceptor.active.isSome
  starting : history.acceptor.phase = .starting ↔
    ∃ entry ∈ history.entries, history.Current entry.2

variable {history after : History} {event : Event} {count generation : Nat}
  {entries others : List (Role × Start)} {role : Role} {start : Start}

theorem Registered.perm (registered : Registered count generation entries)
    (perm : others.Perm entries) : Registered count generation others where
  callers entry among := registered.callers entry (perm.subset among)
  roles := (perm.map _).nodup_iff.mpr registered.roles
  generations := (perm.map _).nodup_iff.mpr registered.generations
  latest entry among := registered.latest entry (perm.subset among)

theorem Registered.tail {entry : Role × Start}
    (registered : Registered count generation (entry :: entries)) :
    Registered count generation entries where
  callers other among := registered.callers other (List.mem_cons_of_mem _ among)
  roles := (List.nodup_cons.mp registered.roles).2
  generations := (List.nodup_cons.mp registered.generations).2
  latest other among := registered.latest other (List.mem_cons_of_mem _ among)

theorem Registered.mono (registered : Registered count generation entries) {more later : Nat}
    (calls : count ≤ more) (goesOn : generation ≤ later) : Registered more later entries where
  callers entry among := by
    obtain ⟨number, known, is⟩ := registered.callers entry among
    exact ⟨number, Nat.lt_of_lt_of_le known calls, is⟩
  roles := registered.roles
  generations := registered.generations
  latest entry among := Nat.le_trans (registered.latest entry among) goesOn

/-- The newest call begins a start, with a new generation. -/
theorem Registered.cons (registered : Registered count generation entries) (socket : Nat) :
    Registered (count + 1) (generation + 1)
      ((.caller count, ⟨generation + 1, socket⟩) :: entries) where
  callers := by
    refine List.forall_mem_cons.mpr ⟨⟨count, Nat.lt_succ_self _, rfl⟩, fun entry among => ?_⟩
    obtain ⟨number, known, is⟩ := registered.callers entry among
    exact ⟨number, Nat.lt_succ_of_lt known, is⟩
  roles := by
    refine List.nodup_cons.mpr ⟨fun again => ?_, registered.roles⟩
    obtain ⟨entry, among, same⟩ := List.mem_map.mp again
    obtain ⟨number, known, is⟩ := registered.callers entry among
    exact Nat.ne_of_lt known (Role.caller.inj (is.symm.trans same))
  generations := by
    refine List.nodup_cons.mpr ⟨fun again => ?_, registered.generations⟩
    obtain ⟨entry, among, same⟩ := List.mem_map.mp again
    exact Nat.ne_of_lt (Nat.lt_succ_of_le (registered.latest entry among)) same
  latest := List.forall_mem_cons.mpr
    ⟨Nat.le_refl _, fun entry among => Nat.le_succ_of_le (registered.latest entry among)⟩

theorem Orderly.distinct (orderly : Orderly history) :
    (history.acceptor.starts.map Prod.fst).Nodup := by
  have roles := orderly.registered.roles
  rw [History.entries, List.map_append] at roles
  exact (List.nodup_append.mp roles).1

/-- A start that waits no longer, and those that go on to wait. -/
theorem Orderly.perm_forget (orderly : Orderly history) (found : history.start? role = some start) :
    ((role, start) :: (history.forget role).entries).Perm history.entries :=
  (perm_struck orderly.distinct found).append_right history.dropped

theorem Orderly.mem_entries (orderly : Orderly history) (found : history.start? role = some start) :
    (role, start) ∈ history.entries :=
  (orderly.perm_forget found).subset List.mem_cons_self

/-- When the start goes whose generation is the current one, no other one has it. -/
theorem Orderly.alone (orderly : Orderly history) (found : history.start? role = some start)
    (current : history.Current start) {entry : Role × Start}
    (among : entry ∈ (history.forget role).entries) : ¬history.Current entry.2 := by
  have generations := (orderly.registered.perm (orderly.perm_forget found)).generations
  intro both
  exact (List.nodup_cons.mp generations).1
    (List.mem_map.mpr ⟨entry, among, both.trans current.symm⟩)

theorem Orderly.idle (orderly : Orderly history) (stands : history.acceptor.phase ≠ .running) :
    history.acceptor.active = none := by
  rw [← Option.not_isSome_iff_eq_none, ← orderly.running]
  exact stands

/-- Who has which socket does not depend on the calls. -/
theorem Owned.beside (owned : Owned history) {phase : Phase} {calls : List Call}
    {endings : List (Role × Result)} {dropped : List (Role × Start)} :
    Owned { history with
      acceptor := { history.acceptor with phase }, calls, endings, dropped } where
  distinct := owned.distinct
  numbered := owned.numbered
  active := owned.active
  closed := owned.closed
  single := owned.single
  looped := owned.looped

theorem Owned.bind (owned : Owned history) (role : Role) : Owned (history.bind role) := by
  have sockets : (history.bind role).sockets = history.sockets ++ [history.acceptor.nextSocket] := by
    simp [History.sockets, History.bind]
  exact {
    distinct := by
      rw [sockets, ← List.concat_eq_append]
      exact List.Nodup.concat (fun again => Nat.lt_irrefl _ (owned.numbered _ again)) owned.distinct
    numbered := by
      rw [sockets]
      intro socket among
      rcases List.mem_append.mp among with before | new
      · exact Nat.lt_succ_of_lt (owned.numbered socket before)
      · rw [List.mem_singleton.mp new]
        exact Nat.lt_succ_self _
    active := owned.active
    closed := by
      intro socket
      rw [History.bind, List.count_append, List.count_singleton]
      exact owned.closed socket
    single := owned.single
    looped := owned.looped }

theorem Owned.forget (owned : Owned history) (role : Role) : Owned (history.forget role) := by
  have fewer : (history.forget role).sockets.Sublist history.sockets :=
    (List.filter_sublist.map _).append_left _
  exact {
    distinct := owned.distinct.sublist fewer
    numbered := fun socket among => owned.numbered socket (fewer.subset among)
    active := owned.active
    closed := owned.closed
    single := owned.single
    looped := owned.looped }

/-- A stop closes the active socket, and stops its loop. -/
theorem Owned.halt (owned : Owned history) : Owned history.halt where
  distinct := owned.distinct
  numbered := owned.numbered
  active socket impossible := absurd impossible (Option.some_ne_none socket).symm
  closed socket := by
    have before := owned.closed socket
    have known := owned.active socket
    rw [History.halt, List.count_append, before]
    cases active : history.acceptor.active with
    | none => simp [stop]
    | some other =>
        rw [active] at known
        by_cases own : other = socket
        · subst own
          simp [stop, known rfl]
        · simp [stop, own]
  single := by
    have same : history.halt.acceptor.loops.map Loop.socket =
        history.acceptor.loops.map Loop.socket := by
      rw [History.halt, stop, List.map_map]
      refine List.map_congr_left fun loop _ => ?_
      rw [Function.comp]
      split <;> rfl
    rw [same]
    exact owned.single
  looped loop among := by
    obtain ⟨former, before, rfl⟩ := List.mem_map.mp among
    obtain ⟨known, active⟩ := owned.looped former before
    split
    · exact ⟨known, fun goesOn => absurd goesOn Bool.true_eq_false.mp⟩
    · next outside => exact ⟨known, fun goesOn => absurd (active goesOn).symm outside⟩

theorem Owned.works (owned : Owned history) (works : history.Works after) : Owned after := by
  cases works with
  | @turn loops orders thins unclosed =>
    exact {
      distinct := owned.distinct
      numbered := owned.numbered
      active := owned.active
      closed := by
        intro socket
        rw [History.work, List.count_append, List.count_eq_zero_of_not_mem (unclosed socket)]
        exact owned.closed socket
      single := owned.single.sublist thins.sockets
      looped := by
        intro loop among
        obtain ⟨former, before, socket, stopped⟩ := thins.kept loop among
        rw [← socket, ← stopped]
        exact owned.looped former before }

/-- The socket of a start that waits comes to it. -/
theorem Orderly.perm_reach (orderly : Orderly history) (found : history.start? role = some start) :
    ((history.forget role).reach start.socket).sockets.Perm history.sockets := by
  have perm := (perm_struck orderly.distinct found).map fun entry => entry.2.socket
  rw [List.map_cons] at perm
  have joined := perm.append_left history.reached
  rwa [← List.singleton_append, ← List.append_assoc] at joined

theorem Orderly.unreached (orderly : Orderly history) (found : history.start? role = some start) :
    start.socket ∉ history.reached := by
  have distinct := (orderly.perm_reach found).nodup_iff.mpr orderly.owned.distinct
  have apart := (List.nodup_append.mp (List.nodup_append.mp distinct).1).2.2
  exact fun again => apart _ again _ (List.mem_singleton_self _) rfl

theorem Orderly.install (orderly : Orderly history) (found : history.start? role = some start)
    (idle : history.acceptor.active = none) :
    Owned (((history.forget role).reach start.socket).install start.socket) where
  distinct := (orderly.perm_reach found).nodup_iff.mpr orderly.owned.distinct
  numbered socket among :=
    orderly.owned.numbered socket ((orderly.perm_reach found).subset among)
  active socket is := by
    obtain rfl := Option.some.inj is
    exact List.mem_append_right _ (List.mem_singleton_self _)
  closed socket := by
    have before := orderly.owned.closed socket
    have unreached := orderly.unreached found
    change history.orders.count (.close socket) =
      if socket ∈ history.reached ++ [start.socket] ∧ some start.socket ≠ some socket then 1 else 0
    -- Nothing was active before, and the socket that is now was not closed.
    rw [before, idle]
    by_cases own : socket = start.socket
    · subst own
      simp [unreached]
    · simp [own, Ne.symm own]
  single := by
    have apart : start.socket ∉ history.acceptor.loops.map Loop.socket := by
      intro again
      obtain ⟨loop, among, same⟩ := List.mem_map.mp again
      exact orderly.unreached found (same ▸ (orderly.owned.looped loop among).1)
    have more : (((history.forget role).reach start.socket).install start.socket).acceptor.loops =
        history.acceptor.loops ++ [{ socket := start.socket }] := rfl
    rw [more, List.map_append, List.map_singleton, ← List.concat_eq_append]
    exact List.Nodup.concat apart orderly.owned.single
  looped loop among := by
    rcases List.mem_append.mp among with former | new
    · obtain ⟨known, active⟩ := orderly.owned.looped loop former
      rw [idle] at active
      exact ⟨List.mem_append_left _ known, fun goesOn =>
        absurd (active goesOn) (Option.some_ne_none loop.socket).symm⟩
    · rw [List.mem_singleton.mp new]
      exact ⟨List.mem_append_right _ (List.mem_singleton_self _), fun _ => rfl⟩

theorem Orderly.discard (orderly : Orderly history) (found : history.start? role = some start) :
    Owned (((history.forget role).reach start.socket).close start.socket) where
  distinct := (orderly.perm_reach found).nodup_iff.mpr orderly.owned.distinct
  numbered socket among :=
    orderly.owned.numbered socket ((orderly.perm_reach found).subset among)
  active socket is := List.mem_append_left _ (orderly.owned.active socket is)
  closed socket := by
    have before := orderly.owned.closed socket
    have unreached := orderly.unreached found
    have inactive : history.acceptor.active ≠ some start.socket := fun active =>
      unreached (orderly.owned.active _ active)
    change (history.orders ++ [Order.close start.socket]).count (Order.close socket) =
      if socket ∈ history.reached ++ [start.socket] ∧ history.acceptor.active ≠ some socket then 1
      else 0
    -- The socket came to its start a moment ago, so that this is the first time that it is closed.
    rw [List.count_append, before]
    by_cases own : socket = start.socket
    · subst own
      simp [unreached, inactive]
    · simp [own, Ne.symm own]
  single := orderly.owned.single
  looped loop among := by
    obtain ⟨known, active⟩ := orderly.owned.looped loop among
    exact ⟨List.mem_append_left _ known, active⟩

/-- At most one loop is not stopped. -/
theorem Owned.alone (owned : Owned history) :
    (history.acceptor.loops.filter fun loop => !loop.stopped).length ≤ 1 := by
  have distinct : ((history.acceptor.loops.filter fun loop => !loop.stopped).map
      Loop.socket).Nodup := owned.single.sublist (List.filter_sublist.map _)
  have within : (history.acceptor.loops.filter fun loop => !loop.stopped).map Loop.socket ⊆
      history.acceptor.active.toList := by
    intro socket among
    obtain ⟨loop, kept, rfl⟩ := List.mem_map.mp among
    obtain ⟨member, goesOn⟩ := List.mem_filter.mp kept
    exact Option.mem_toList.mpr ((owned.looped loop member).2 (by simpa using goesOn))
  have fewer := (distinct.subperm within).length_le
  rw [List.length_map] at fewer
  refine Nat.le_trans fewer ?_
  cases history.acceptor.active with
  | none => exact Nat.zero_le 1
  | some socket => exact Nat.le_refl 1

theorem opened_orderly (bindAddress : Address) (limits : ReceiveLimits) :
    Orderly (opened bindAddress limits) where
  registered := ⟨by simp [opened, entries], by simp [opened, entries], by simp [opened, entries],
    by simp [opened, entries]⟩
  owned := ⟨by simp [opened, sockets], by simp [opened, sockets], by simp [opened],
    by simp [opened], by simp [opened], by simp [opened]⟩
  running := by simp [opened]
  starting := by simp [opened, entries]

/-- With a new generation no start is the current one any more. -/
theorem Orderly.overtaken (orderly : Orderly history) {entry : Role × Start}
    (among : entry ∈ history.entries) :
    entry.2.generation ≠ history.acceptor.generation + 1 :=
  Nat.ne_of_lt (Nat.lt_succ_of_le (orderly.registered.latest entry among))

theorem Orderly.bind (orderly : Orderly history) (stopped : history.acceptor.phase = .stopped) :
    Orderly ((history.accept .start).bind history.next) := by
  have idle : history.acceptor.active = none := orderly.idle (by simp [stopped])
  have perm : (((history.accept .start).bind history.next).entries).Perm
      ((history.next, ⟨history.acceptor.generation + 1, history.acceptor.nextSocket⟩) ::
        history.entries) := by
    rw [entries, History.bind, List.append_assoc]
    exact List.perm_middle
  exact {
    registered := by
      have more := orderly.registered.cons history.acceptor.nextSocket
      have calls : ((history.accept .start).bind history.next).calls.length =
          history.calls.length + 1 := by simp [History.bind, accept]
      rw [calls]
      exact more.perm perm
    owned := orderly.owned.beside.bind history.next
    running := by simp [History.bind, accept, idle]
    starting := by
      refine ⟨fun _ => ?_, fun _ => rfl⟩
      exact ⟨_, perm.symm.subset List.mem_cons_self, rfl⟩ }

/-- A start that finds the acceptor stopped waits for its socket. -/
theorem Orderly.begins (orderly : Orderly history) (stopped : history.acceptor.phase = .stopped) :
    ∃ start, (history.step (.call .start)).start? history.next = some start := by
  have turn : history.step (.call .start) = (history.accept .start).bind history.next :=
    took_begin_of_stopped (history.accept .start) history.next stopped
  rw [turn]
  exact ⟨_, lookup_of_mem (orderly.bind stopped).distinct
    (List.mem_append_right _ (List.mem_singleton_self _))⟩

theorem Orderly.halt (orderly : Orderly history) : Orderly history.halt where
  registered := orderly.registered.mono (Nat.le_refl _) (Nat.le_succ _)
  owned := orderly.owned.halt
  running := by simp [History.halt, stop]
  starting := by
    constructor
    · intro starting
      cases starting
    · rintro ⟨entry, among, current⟩
      exact absurd current (orderly.overtaken among)

theorem Orderly.conclude (orderly : Orderly history) (role : Role) (result : Result) :
    Orderly (history.conclude role result) where
  registered := orderly.registered
  owned := orderly.owned.beside
  running := orderly.running
  starting := orderly.starting

theorem Orderly.accept (orderly : Orderly history) (call : Call) :
    Orderly (history.accept call) where
  registered := orderly.registered.mono (by simp [History.accept]) (Nat.le_refl _)
  owned := orderly.owned.beside
  running := orderly.running
  starting := orderly.starting

theorem Orderly.works (orderly : Orderly history) (works : history.Works after) : Orderly after := by
  have owned := orderly.owned.works works
  cases works with
  | turn thins unclosed => exact ⟨orderly.registered, owned, orderly.running, orderly.starting⟩

theorem Orderly.registered_forget (orderly : Orderly history)
    (found : history.start? role = some start) :
    Registered history.calls.length history.acceptor.generation (history.forget role).entries :=
  (orderly.registered.perm (orderly.perm_forget found)).tail

/-- A start goes that was overtaken. -/
theorem Orderly.forget (orderly : Orderly history) (found : history.start? role = some start)
    (overtaken : history.acceptor.phase = .starting → ¬history.Current start) :
    Orderly (history.forget role) where
  registered := orderly.registered_forget found
  owned := orderly.owned.forget role
  running := orderly.running
  starting := by
    have perm := orderly.perm_forget found
    constructor
    · intro starting
      obtain ⟨entry, among, current⟩ := orderly.starting.mp starting
      rcases List.mem_cons.mp (perm.symm.subset among) with own | other
      · rw [own] at current
        exact absurd current (overtaken starting)
      · exact ⟨entry, other, current⟩
    · rintro ⟨entry, among, current⟩
      exact orderly.starting.mpr ⟨entry, perm.subset (List.mem_cons_of_mem _ among), current⟩

theorem Happens.orderly (happens : Happens history event after) (orderly : Orderly history) :
    Orderly after := by
  cases happens with
  | begins stopped => exact orderly.bind stopped
  | refuses busy => exact (orderly.accept .start).conclude _ _
  | stops => exact (orderly.accept .stop).halt.conclude _ _
  | @installs number start found starting current =>
      have idle : history.acceptor.active = none := orderly.idle (by simp [starting])
      exact {
        registered := orderly.registered_forget found
        owned := (orderly.install found idle).beside
        running := ⟨fun _ => rfl, fun _ => rfl⟩
        starting := by
          constructor
          · intro starting
            cases starting
          · rintro ⟨entry, among, both⟩
            exact absurd both (orderly.alone found current among) }
  | @discards number start found overtaken =>
      have kept := orderly.forget found overtaken
      exact ⟨kept.registered, (orderly.discard found).beside, kept.running, kept.starting⟩
  | @fails number start failure found current =>
      have starting : history.acceptor.phase = .starting :=
        orderly.starting.mpr ⟨_, orderly.mem_entries found, current⟩
      have idle : history.acceptor.active = none := orderly.idle (by simp [starting])
      exact {
        registered := orderly.registered_forget found
        owned := (orderly.owned.forget (.caller number)).beside
        running := by simp [History.conclude, History.fail, History.forget, forgetStart, idle]
        starting := by
          constructor
          · intro starting
            cases starting
          · rintro ⟨entry, among, both⟩
            exact absurd both (orderly.alone found current among) }
  | misses found overtaken => exact (orderly.forget found fun _ => overtaken).conclude _ _
  | @leaves role start found =>
      have perm : ((history.forget role).drop role start).entries.Perm history.entries := by
        have moved : ((history.forget role).drop role start).entries =
            (history.forget role).entries ++ [(role, start)] :=
          (List.append_assoc _ _ _).symm
        rw [moved]
        exact (List.perm_append_singleton _ _).trans (orderly.perm_forget found)
      exact {
        registered := orderly.registered.perm perm
        owned := (orderly.owned.forget role).beside
        running := orderly.running
        starting := orderly.starting.trans
          (exists_congr fun entry => and_congr_left fun _ => perm.mem_iff.symm) }
  | works answers goesOn works => exact orderly.works works
  | halts works => exact orderly.halt.works works

theorem Orderly.run (orderly : Orderly history) (events : List Event) :
    Orderly (history.run events) := by
  induction events generalizing history with
  | nil => exact orderly
  | cons event events ih => exact ih ((history.happens event).orderly orderly)

end History

end Acceptor

end ReliableTransport
