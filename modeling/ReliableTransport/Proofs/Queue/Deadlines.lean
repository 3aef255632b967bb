import Mathlib.Data.List.Infix
import ReliableTransport.Proofs.Queue.Traffic
/-!
This module says that no wake-up is lost, and what that means for calls that time out. While a call
waits without being woken, woken calls are on their way to all that it could have. Where the clock
moves only when no call can run, a call fails exactly at its deadline, and only if there was nothing
to be had when the clock came there.
-/

namespace ReliableTransport

namespace BoundedQueue

variable {Item : Type}

/-- A waiting call has something to do at an instant: it was woken, or its deadline came. -/
def canRun (queue : BoundedQueue Item Nat) (instant : Nat) (waiter : Waiter Item Nat) : Bool :=
  queue.isWoken waiter || waiter.deadline ≤ instant

namespace Traffic

variable {traffic after : Traffic Item} {event : Event Item}

/-- An event lets nobody miss a turn. The clock leaves an instant only if no call can run there. -/
def Allows (traffic : Traffic Item) : Event Item → Prop
  | .pass millis => ∀ elapsed < millis, ∀ waiter ∈ traffic.queue.waiters,
      traffic.queue.canRun (traffic.now + elapsed) waiter = false
  | _ => True

instance (traffic : Traffic Item) (event : Event Item) : Decidable (traffic.Allows event) :=
  match event with
  | .pass millis => inferInstanceAs (Decidable (∀ elapsed < millis, ∀ waiter ∈ _, _ = false))
  | .call _ | .turn _ | .abandon _ => .isTrue trivial

/-- The clock moves only while no call can run. -/
def Patient : Traffic Item → List (Event Item) → Prop
  | _, [] => True
  | traffic, event :: rest => traffic.Allows event ∧ Patient (traffic.step event) rest

instance decidablePatient : (traffic : Traffic Item) → (events : List (Event Item)) →
    Decidable (traffic.Patient events)
  | _, [] => .isTrue trivial
  | traffic, event :: rest =>
      have := decidablePatient (traffic.step event) rest
      inferInstanceAs (Decidable (traffic.Allows event ∧ (traffic.step event).Patient rest))

theorem run_concat (traffic : Traffic Item) (events : List (Event Item)) (event : Event Item) :
    traffic.run (events ++ [event]) = (traffic.run events).step event :=
  List.foldl_concat step traffic event events

theorem Patient.concat {events : List (Event Item)} (patient : traffic.Patient (events ++ [event])) :
    traffic.Patient events ∧ (traffic.run events).Allows event := by
  induction events generalizing traffic with
  | nil => exact ⟨trivial, patient.1⟩
  | cons first rest ih =>
      obtain ⟨earlier, later⟩ := ih patient.2
      exact ⟨⟨patient.1, earlier⟩, later⟩

/-- On the way there was nothing to be had on a side, at an instant. -/
def Bare (origin : Traffic Item) (events : List (Event Item)) (takes : Bool) (instant : Nat) :
    Prop :=
  ∃ first, first <+: events ∧ (origin.run first).now = instant ∧
    (origin.run first).queue.supply takes = 0

theorem Bare.concat {origin : Traffic Item} {events : List (Event Item)} {takes : Bool}
    {instant : Nat} (bare : origin.Bare events takes instant) (event : Event Item) :
    origin.Bare (events ++ [event]) takes instant := by
  obtain ⟨first, early, now, short⟩ := bare
  exact ⟨first, early.trans (List.prefix_append events [event]), now, short⟩

/-- While a call waits on a side without being woken, what there is on that side is promised. -/
theorem Orderly.supply_le_roused (orderly : traffic.Orderly) {takes : Bool}
    (dozing : traffic.queue.dozing takes ≠ []) :
    traffic.queue.supply takes ≤ (traffic.queue.roused takes).length := by
  rw [orderly.sound.listed.length_roused]
  exact orderly.sound.promised takes (orderly.sound.listed.waits_of_dozing dozing)

/-- Where nobody was woken, there is nothing to be had by a call that waits. -/
theorem Orderly.short (orderly : traffic.Orderly)
    (quiet : ∀ waiter ∈ traffic.queue.waiters, traffic.queue.isWoken waiter = false)
    {waiter : Waiter Item Nat} (waits : waiter ∈ traffic.queue.waiters) :
    traffic.queue.supply waiter.demand.takes = 0 := by
  have dozes : waiter ∈ traffic.queue.dozing waiter.demand.takes :=
    List.mem_filter.mpr ⟨waits, by simp [quiet waiter waits]⟩
  have nobody : traffic.queue.roused waiter.demand.takes = [] := by
    rw [roused, List.filter_eq_nil_iff]
    intro other among
    simp [quiet other among]
  have promised := orderly.supply_le_roused (List.ne_nil_of_mem dozes)
  rw [nobody] at promised
  exact Nat.le_zero.mp promised

/-- An event that takes no time adds only calls to the waiting ones whose deadline is to come. -/
theorem Happens.waits (happens : traffic.Happens event after) (orderly : traffic.Orderly) :
    (∃ millis, event = .pass millis ∧ after.queue = traffic.queue ∧
      after.now = traffic.now + millis) ∨
    after.now = traffic.now ∧ ∀ waiter ∈ after.queue.waiters,
      waiter ∈ traffic.queue.waiters ∨ after.now < waiter.deadline := by
  cases happens with
  | @passes millis => exact Or.inl ⟨millis, rfl, rfl, rfl⟩
  | @begins waiter look own due looks =>
      refine Or.inr ⟨rfl, fun other among => ?_⟩
      rw [looks.waiters (own ▸ orderly.fresh)] at among
      cases goes : look.outcome with
      | some outcome =>
          rw [goes] at among
          exact Or.inl among
      | none =>
          rw [goes] at among
          rcases List.mem_append.mp among with earlier | latest
          · exact Or.inl earlier
          · obtain rfl := List.mem_singleton.mp latest
            exact Or.inr (looks.early goes)
  | tries met yields => exact Or.inr ⟨rfl, fun other among => Or.inl (met.waiters ▸ among)⟩
  | @resumes number look resumes =>
      refine Or.inr ⟨rfl, fun other among => Or.inl ?_⟩
      have remain := resumes.waiters orderly.sound.listed
      cases goes : look.outcome with
      | none =>
          rw [goes] at remain
          exact remain.subset among
      | some outcome =>
          rw [goes] at remain
          obtain ⟨waiter, waiters, _, _⟩ := remain
          exact waiters.subset (List.mem_cons_of_mem waiter among)
  | @leaves waiter waits =>
      refine Or.inr ⟨rfl, fun other among => Or.inl ?_⟩
      rw [(traffic.queue.leave_frame waiter).2.2] at among
      exact List.mem_of_mem_filter among
  | misses | stays => exact Or.inr ⟨rfl, fun other among => Or.inl among⟩

/-- The clock never moves past the deadline of a waiting call. When it comes there, there is nothing
to be had. -/
theorem Patient.punctual {origin : Traffic Item} (orderly : origin.Orderly)
    (fresh : origin.queue.waiters = []) {events : List (Event Item)}
    (patient : origin.Patient events) :
    ∀ waiter ∈ (origin.run events).queue.waiters,
      (origin.run events).now ≤ waiter.deadline ∧
        (waiter.deadline ≤ (origin.run events).now →
          origin.Bare events waiter.demand.takes (origin.run events).now) := by
  -- The last event is taken off because the moment without supply lies somewhere before it.
  induction events using List.reverseRecOn with
  | nil =>
      intro waiter waits
      rw [run, List.foldl_nil, fresh] at waits
      cases waits
  | append_singleton events event ih =>
      obtain ⟨earlier, allowed⟩ := patient.concat
      have punctual := ih earlier
      have orderly := orderly.run events
      intro waiter waits
      rw [run_concat] at waits ⊢
      rcases (step_happens _ event).waits orderly with ⟨millis, rfl, queue, now⟩ | ⟨now, waiters⟩
      · rw [queue] at waits
        rw [now]
        obtain ⟨early, bare⟩ := punctual waiter waits
        cases millis with
        | zero => exact ⟨early, fun late => (bare late).concat _⟩
        | succ millis =>
            -- The clock left an instant at which nobody was woken, so the queue had nothing to give.
            have quiet (instant : Nat) (during : instant ≤ millis) :=
              fun other among => allowed instant (Nat.lt_succ_of_le during) other among
            simp only [canRun, Bool.or_eq_false_iff, decide_eq_false_iff_not] at quiet
            refine ⟨?_, fun _ => ⟨events ++ [.pass (millis + 1)], List.prefix_refl _, ?_, ?_⟩⟩
            · have pending := (quiet millis (Nat.le_refl _) waiter waits).2
              omega
            · rw [run_concat, now]
            · rw [run_concat, queue]
              exact orderly.short (fun other among => (quiet 0 (Nat.zero_le _) other among).1) waits
      · rw [now]
        rw [now] at waiters
        rcases waiters waiter waits with waited | early
        · obtain ⟨early, bare⟩ := punctual waiter waited
          exact ⟨early, fun late => (bare late).concat _⟩
        · exact ⟨Nat.le_of_lt early, fun late => absurd early (Nat.not_lt_of_le late)⟩

/-- A call fails with its first turn or while it waits, and not before its deadline. -/
theorem Happens.late (happens : traffic.Happens event after) (orderly : traffic.Orderly)
    {number instant : Nat} {failure : Failure}
    (ended : after.endings = traffic.endings ++ [⟨number, instant, .timedOut failure⟩]) :
    ∃ waiter began, after.calls[number]? = some (waiter.call, began) ∧
      waiter.call.Yields (.timedOut failure) ∧ waiter.deadline = began + waiter.timeout ∧
      waiter.deadline ≤ traffic.now ∧ instant = traffic.now ∧
      (traffic.now ≤ began ∧ traffic.queue.supply waiter.demand.takes = 0 ∨
        waiter ∈ traffic.queue.waiters ∧ (traffic.queue.supply waiter.demand.takes = 0 ∨
          waiter ∈ traffic.queue.dozing waiter.demand.takes)) := by
  have last {other : Nat} {outcome : Option (Outcome Item)}
      (endings : traffic.ending other outcome =
        traffic.endings ++ [⟨number, instant, .timedOut failure⟩]) :
      other = number ∧ traffic.now = instant ∧ outcome = some (.timedOut failure) := by
    have added := List.append_cancel_left endings
    cases outcome with
    | none => cases added
    | some outcome =>
        obtain ⟨rfl, rfl, rfl⟩ : _ ∧ _ ∧ _ := by simpa using added
        exact ⟨rfl, rfl, rfl⟩
  have unended : traffic.endings ≠
      traffic.endings ++ [⟨number, instant, .timedOut failure⟩] := by simp
  cases happens with
  | @begins waiter look own due looks =>
      obtain ⟨rfl, rfl, failed⟩ := last ended
      obtain ⟨short, late⟩ := looks.late failed
      exact ⟨waiter, traffic.now, by rw [own]; exact List.getElem?_concat_length,
        looks.yields _ failed, due, late, rfl, Or.inl ⟨Nat.le_refl _, short⟩⟩
  | @tries made demand queue woken outcome met yields =>
      obtain ⟨_, _, failed⟩ := last ended
      obtain rfl := Option.some.inj failed
      cases met
  | misses prompt yields shifts =>
      obtain ⟨_, _, failed⟩ := last ended
      obtain rfl := Option.some.inj failed
      cases yields <;> cases prompt
  | resumes resumes =>
      obtain ⟨rfl, rfl, failed⟩ := last ended
      obtain ⟨waiter, waits, rfl, late, yields, why⟩ := resumes.late failed
      obtain ⟨began, known, due⟩ := orderly.kept waiter waits
      exact ⟨waiter, began, known, yields, due, late, rfl, Or.inr ⟨waits, why⟩⟩
  | leaves | stays | passes => exact absurd ended unended

end Traffic

end BoundedQueue

end ReliableTransport
