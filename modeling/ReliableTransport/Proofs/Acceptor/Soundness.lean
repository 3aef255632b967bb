import Mathlib.Data.List.Nodup
import ReliableTransport.Acceptor
/-!
This module says how the loops and the starts of an acceptor fit its phase. Only the loop of the
active socket goes on, and a start that nobody overtook finds the acceptor starting. Whoever holds
an acceptor keeps this by whatever it does with it.
-/

namespace ReliableTransport

namespace Acceptor

variable {Task : Type}

structure Sound (acceptor : Acceptor Task) : Prop where
  running : acceptor.phase = .running ↔ acceptor.active.isSome
  looped : ∀ loop ∈ acceptor.loops, loop.stopped = false → acceptor.active = some loop.socket
  starting : ∀ entry ∈ acceptor.starts,
    entry.2.generation = acceptor.generation → acceptor.phase = .starting
  latest : ∀ entry ∈ acceptor.starts, entry.2.generation ≤ acceptor.generation
  generations : (acceptor.starts.map fun entry => entry.2.generation).Nodup

variable {acceptor : Acceptor Task}

/-- A new acceptor is sound. -/
theorem sound_new (bindAddress : Address) (limits : ReceiveLimits) :
    Sound ({ bindAddress, limits } : Acceptor Task) where
  running := by simp
  looped := by simp
  starting := by simp
  latest := by simp
  generations := List.nodup_nil

/-- A loop that goes on belongs to a running acceptor. -/
theorem Sound.running_of_goesOn (sound : acceptor.Sound) {socket : Nat}
    (goesOn : acceptor.goesOn socket = true) : acceptor.phase = .running := by
  obtain ⟨loop, found, unstopped⟩ := (Option.any_eq_true _ _).mp goesOn
  have among : loop ∈ acceptor.loops := List.mem_of_find?_eq_some found
  rw [sound.running, sound.looped loop among (by simpa using unstopped)]
  rfl

/-- While nothing runs, no loop goes on. -/
theorem Sound.goesOn_of_idle (sound : acceptor.Sound) (idle : acceptor.phase ≠ .running)
    (socket : Nat) : acceptor.goesOn socket = false :=
  Bool.eq_false_iff.mpr fun goesOn => idle (sound.running_of_goesOn goesOn)

theorem Sound.inactive (sound : acceptor.Sound) (idle : acceptor.phase ≠ .running) :
    acceptor.active = none := by
  cases active : acceptor.active with
  | none => rfl
  | some socket => exact absurd (sound.running.mpr (by rw [active]; rfl)) idle

theorem Sound.stopped_of_idle (sound : acceptor.Sound) (idle : acceptor.phase ≠ .running)
    {loop : Loop} (among : loop ∈ acceptor.loops) : loop.stopped = true := by
  by_contra unstopped
  have active := sound.looped loop among (by simpa using unstopped)
  rw [sound.inactive idle] at active
  cases active

theorem Sound.endLoop (sound : acceptor.Sound) (socket : Nat) : (acceptor.endLoop socket).Sound where
  running := sound.running
  looped loop among := sound.looped loop (List.mem_filter.mp among).1
  starting := sound.starting
  latest := sound.latest
  generations := sound.generations

/-- A stop leaves no loop that goes on. -/
theorem Sound.stop (sound : acceptor.Sound) : acceptor.stop.1.Sound where
  running := by simp [Acceptor.stop]
  looped := by
    rw [Acceptor.stop, List.forall_mem_map]
    intro loop among unstopped
    split at unstopped
    · cases unstopped
    · next other => exact absurd (sound.looped loop among unstopped).symm other
  starting entry among current := absurd (sound.latest entry among) (by
    have current : entry.2.generation = acceptor.generation + 1 := current
    omega)
  latest entry among := Nat.le_succ_of_le (sound.latest entry among)
  generations := sound.generations

theorem Sound.beginStart (sound : acceptor.Sound) {task : Task} {after : Acceptor Task}
    {socket : Nat} (begun : acceptor.beginStart task = .ok (after, socket)) : after.Sound := by
  rw [Acceptor.beginStart] at begun
  split at begun
  · next stopped =>
    obtain ⟨rfl, rfl⟩ := Prod.mk.inj (Except.ok.inj begun)
    have inactive := sound.inactive (by rw [stopped]; nofun)
    refine ⟨?_, sound.looped, fun _ _ _ => rfl, fun entry among => ?_, ?_⟩
    · simp [inactive]
    · rcases List.mem_append.mp among with former | new
      · exact Nat.le_succ_of_le (sound.latest entry former)
      · obtain rfl := List.mem_singleton.mp new
        exact Nat.le_refl _
    · rw [List.map_append, List.map_singleton, List.nodup_append]
      refine ⟨sound.generations, List.nodup_singleton _, ?_⟩
      rintro generation former other new rfl
      obtain ⟨entry, among, rfl⟩ := List.mem_map.mp former
      have newest : entry.2.generation = acceptor.generation + 1 := List.mem_singleton.mp new
      have bound := sound.latest entry among
      omega
  · cases begun

section Ends

variable [DecidableEq Task] {task : Task} {start : Start}

theorem Sound.forgetStart (sound : acceptor.Sound) (task : Task) :
    (acceptor.forgetStart task).Sound where
  running := sound.running
  looped := sound.looped
  starting entry among := sound.starting entry (List.mem_filter.mp among).1
  latest entry among := sound.latest entry (List.mem_filter.mp among).1
  generations := sound.generations.sublist (List.filter_sublist.map _)

/-- When the start goes whose generation is the current one, no other one has it. -/
theorem Sound.overtaken (sound : acceptor.Sound) (found : acceptor.starts.lookup task = some start)
    (current : acceptor.generation = start.generation) {entry : Task × Start}
    (among : entry ∈ (acceptor.forgetStart task).starts) :
    entry.2.generation ≠ acceptor.generation := by
  intro both
  obtain ⟨before, other⟩ := List.mem_filter.mp among
  obtain rfl : entry = (task, start) :=
    List.inj_on_of_nodup_map sound.generations before (mem_of_lookup found) (both.trans current)
  simp at other

/-- A start that goes on finds the acceptor starting. -/
theorem Sound.starting_of_current (sound : acceptor.Sound)
    (found : acceptor.starts.lookup task = some start)
    (current : acceptor.generation = start.generation) : acceptor.phase = .starting :=
  sound.starting (task, start) (mem_of_lookup found) current.symm

/-- A start whose socket is not to be had leaves no more than a stopped acceptor. -/
theorem Sound.endStart (sound : acceptor.Sound) (found : acceptor.starts.lookup task = some start)
    (result : Except Failure Unit) :
    ((acceptor.forgetStart task).endStart start result).1.Sound := by
  have forgets := sound.forgetStart task
  cases result with
  | error failure =>
      rw [Acceptor.endStart]
      split
      · next current =>
        have starting := sound.starting_of_current found current
        refine ⟨?_, forgets.looped, fun entry among same => ?_, forgets.latest,
          forgets.generations⟩
        · have inactive := forgets.inactive (by rw [Acceptor.forgetStart, starting]; nofun)
          simp [inactive]
        · exact absurd same (sound.overtaken found current among)
      · exact forgets
  | ok =>
      rw [Acceptor.endStart]
      split
      · next wanted =>
        rw [Bool.and_eq_true, decide_eq_true_eq, decide_eq_true_eq] at wanted
        obtain ⟨starting, current⟩ := wanted
        refine ⟨by simp [install], ?_, fun entry among same => ?_, forgets.latest,
          forgets.generations⟩
        · intro loop among unstopped
          rcases List.mem_append.mp among with former | new
          · have stopped := forgets.stopped_of_idle (by rw [starting]; nofun) former
            rw [stopped] at unstopped
            cases unstopped
          · obtain rfl := List.mem_singleton.mp new
            rfl
        · exact absurd same (sound.overtaken found current among)
      · exact forgets

/-- The end of a start stops nothing that runs. -/
theorem Sound.running_endStart (sound : acceptor.Sound)
    (found : acceptor.starts.lookup task = some start) (result : Except Failure Unit)
    (running : acceptor.phase = .running) :
    ((acceptor.forgetStart task).endStart start result).1 = acceptor.forgetStart task := by
  have overtaken : ¬acceptor.generation = start.generation := by
    intro current
    have starting := sound.starting_of_current found current
    rw [running] at starting
    cases starting
  have forgotten : ¬(acceptor.forgetStart task).generation = start.generation := overtaken
  cases result <;> simp [Acceptor.endStart, forgotten]

end Ends

end Acceptor

end ReliableTransport
