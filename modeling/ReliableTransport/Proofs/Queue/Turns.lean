import Mathlib.Data.List.Nodup
import ReliableTransport.Proofs.Queue.Waiters
/-!
This module says what a turn of a call does to a bounded queue. A call looks at the queue, and then
it is over or waits. Every turn keeps the queue sound: it holds no more than it may, lists those who
wait, and has somebody on the way to everything that others wait for.
-/

namespace ReliableTransport

namespace BoundedQueue

variable {Item Task : Type}

/-- The item that a call added. -/
def Outcome.added? : Outcome Item → Option Item
  | .pushed item => some item
  | _ => none

/-- The item that a call took. -/
def Outcome.taken? : Outcome Item → Option Item
  | .popped item => some item
  | _ => none

/-- The contents change by what a call took and added. Without the end of a call they stay. -/
def Shifts (outcome : Option (Outcome Item)) (before after : List Item) : Prop :=
  (outcome.bind Outcome.taken?).toList ++ after = before ++ (outcome.bind Outcome.added?).toList

/-- How a call can end. -/
inductive Call.Yields : Call Item → Outcome Item → Prop where
  | enqueued (item : Item) (timeout : Nat) : Yields (.enqueue item timeout) (.pushed item)
  | enqueuedLate (item : Item) (timeout : Nat) :
      Yields (.enqueue item timeout) (.timedOut (.timeout (.ofMillis timeout) "enqueue"))
  | dequeued (item : Item) (timeout : Nat) : Yields (.dequeue timeout) (.popped item)
  | dequeuedLate (timeout : Nat) :
      Yields (.dequeue timeout) (.timedOut (.timeout (.ofMillis timeout) "dequeue"))
  | added (item : Item) : Yields (.tryEnqueue item) (.pushed item)
  | refused (item : Item) : Yields (.tryEnqueue item) (.refused item)
  | taken (item : Item) : Yields .tryDequeue (.popped item)
  | nothing : Yields .tryDequeue .nothing

/-- The call that waits. -/
def Waiter.call (waiter : Waiter Item Task) : Call Item :=
  match waiter.demand with
  | .push item => .enqueue item waiter.timeout
  | .pop => .dequeue waiter.timeout

/-- The side on which a call waits, and for how long. -/
def Call.waits? : Call Item → Option (Bool × Nat)
  | .enqueue _ timeout => some (false, timeout)
  | .dequeue timeout => some (true, timeout)
  | .tryEnqueue _ | .tryDequeue => none

/-- A queue between two turns. -/
structure Sound (queue : BoundedQueue Item Task) : Prop where
  bounded : queue.items.length ≤ queue.capacity
  listed : queue.Listed
  promised : queue.Promised fun _ => 0

theorem Sound.spare {queue : BoundedQueue Item Task} (sound : queue.Sound) (spare : Bool → Nat) :
    queue.Promised spare :=
  fun takes waits => Nat.le_trans (sound.promised takes waits) (Nat.le_add_right _ _)

theorem Met.sound {queue after : BoundedQueue Item Task} {demand : Demand Item}
    {woken : List Task} {outcome : Outcome Item} (sound : queue.Sound)
    (met : Met queue demand after woken outcome) : after.Sound :=
  ⟨met.bounded sound.bounded, sound.listed.met met, (sound.spare _).met sound.bounded met⟩

theorem Met.shifts {queue after : BoundedQueue Item Task} {demand : Demand Item}
    {woken : List Task} {outcome : Outcome Item} (met : Met queue demand after woken outcome) :
    Shifts (some outcome) queue.items after.items := by
  cases met with
  | adds room => rfl
  | takes first =>
      rw [Shifts, first]
      exact (List.append_nil _).symm

/-- A demand that is met is never met by a timeout. -/
theorem Met.yields {queue after : BoundedQueue Item Task} {waiter : Waiter Item Task}
    {woken : List Task} {outcome : Outcome Item}
    (met : Met queue waiter.demand after woken outcome) : waiter.call.Yields outcome := by
  obtain ⟨task, demand, timeout, deadline⟩ := waiter
  cases met with
  | adds room => exact .enqueued _ timeout
  | takes first => exact .dequeued _ timeout

theorem timeoutFailure_yields (waiter : Waiter Item Task) :
    waiter.call.Yields (.timedOut (timeoutFailure waiter)) := by
  obtain ⟨task, demand, timeout, deadline⟩ := waiter
  cases demand with
  | push item => exact .enqueuedLate item timeout
  | pop => exact .dequeuedLate timeout

variable [DecidableEq Task]

/-- What a look at the queue leads to. -/
inductive Looks (now : Nat) (waiter : Waiter Item Task) (queue : BoundedQueue Item Task) :
    Look Item Task → Prop where
  | meets {after : BoundedQueue Item Task} {woken : List Task} {outcome : Outcome Item}
      (met : Met queue waiter.demand after woken outcome) :
      Looks now waiter queue { queue := after, woken, outcome := some outcome }
  | waits (short : queue.supply waiter.demand.takes = 0) (early : now < waiter.deadline) :
      Looks now waiter queue { queue := queue.enroll waiter, woken := [], outcome := none }
  | fails (short : queue.supply waiter.demand.takes = 0) (late : waiter.deadline ≤ now) :
      Looks now waiter queue
        { queue := ((queue.enroll waiter).leave waiter).1
          woken := ((queue.enroll waiter).leave waiter).2
          outcome := some (.timedOut (timeoutFailure waiter)) }

theorem look_looks (now : Nat) (waiter : Waiter Item Task) (queue : BoundedQueue Item Task) :
    Looks now waiter queue (queue.look now waiter) := by
  unfold look
  rcases queue.meet?_cases waiter.demand with ⟨refused, short⟩ | ⟨after, woken, outcome, found, met⟩
  · rw [refused, expire]
    simp only
    split
    next late => exact .fails short late
    next early => exact .waits short (Nat.lt_of_not_le early)
  · rw [found]
    exact .meets met

/-- What a turn of a waiting call leads to. A call that was woken looks again. -/
inductive Resumes (now : Nat) (task : Task) (queue : BoundedQueue Item Task) :
    Look Item Task → Prop where
  | absent (gone : task ∉ queue.waiters.map Waiter.task) :
      Resumes now task queue { queue, woken := [], outcome := none }
  | runs {waiter : Waiter Item Task} {look : Look Item Task} (waits : waiter ∈ queue.waiters)
      (own : waiter.task = task) (woken : task ∈ (queue.bell waiter.demand.takes).woken)
      (looks : Looks now waiter (queue.dismiss waiter) look) : Resumes now task queue look
  | sleeps {waiter : Waiter Item Task} (waits : waiter ∈ queue.waiters)
      (own : waiter.task = task) (quiet : task ∉ (queue.bell waiter.demand.takes).woken)
      (early : now < waiter.deadline) :
      Resumes now task queue { queue, woken := [], outcome := none }
  | fails {waiter : Waiter Item Task} (waits : waiter ∈ queue.waiters)
      (own : waiter.task = task) (quiet : task ∉ (queue.bell waiter.demand.takes).woken)
      (late : waiter.deadline ≤ now) :
      Resumes now task queue
        { queue := (queue.leave waiter).1
          woken := (queue.leave waiter).2
          outcome := some (.timedOut (timeoutFailure waiter)) }

theorem waiter?_eq_some {queue : BoundedQueue Item Task} {task : Task}
    {waiter : Waiter Item Task} (found : queue.waiter? task = some waiter) :
    waiter ∈ queue.waiters ∧ waiter.task = task :=
  ⟨List.mem_of_find?_eq_some found, by simpa using List.find?_some found⟩

theorem waiter?_eq_none {queue : BoundedQueue Item Task} {task : Task}
    (found : queue.waiter? task = none) : task ∉ queue.waiters.map Waiter.task := by
  intro member
  obtain ⟨waiter, waits, own⟩ := List.mem_map.mp member
  simpa [own] using List.find?_eq_none.mp found waiter waits

theorem resume_resumes (now : Nat) (task : Task) (queue : BoundedQueue Item Task) :
    Resumes now task queue (queue.resume now task) := by
  unfold resume
  cases found : queue.waiter? task with
  | none => exact .absent (waiter?_eq_none found)
  | some waiter =>
      obtain ⟨waits, rfl⟩ := waiter?_eq_some found
      simp only [signal_eq]
      split
      next woken =>
        refine .runs waits rfl woken ?_
        rw [← signal_eq]
        exact look_looks now waiter (queue.dismiss waiter)
      next quiet =>
        rw [expire]
        split
        next late => exact .fails waits rfl quiet late
        next early => exact .sleeps waits rfl quiet (Nat.lt_of_not_le early)

/-- A look of a call that does not wait yet keeps the queue sound. What the call is on its way to
may be a spare part. -/
theorem Looks.sound {now : Nat} {waiter : Waiter Item Task} {queue : BoundedQueue Item Task}
    {look : Look Item Task} (looks : Looks now waiter queue look)
    (bounded : queue.items.length ≤ queue.capacity) (listed : queue.Listed)
    (promised : queue.Promised fun takes => if takes = waiter.demand.takes then 1 else 0)
    (fresh : waiter.task ∉ queue.waiters.map Waiter.task) : look.queue.Sound := by
  obtain ⟨items, capacity, waiters⟩ := queue.enroll_frame waiter
  have room : (queue.enroll waiter).items.length ≤ (queue.enroll waiter).capacity := by
    rw [items, capacity]
    exact bounded
  cases looks with
  | meets met => exact ⟨met.bounded bounded, listed.met met, promised.met bounded met⟩
  | waits short early => exact ⟨room, listed.enroll fresh, promised.enroll short⟩
  | fails short late =>
      have waits : waiter ∈ (queue.enroll waiter).waiters := by
        rw [waiters]
        exact List.mem_append_right _ (List.mem_singleton_self waiter)
      obtain ⟨sameItems, sameCapacity, _⟩ := (queue.enroll waiter).leave_frame waiter
      refine ⟨?_, (listed.enroll fresh).leave waits, (promised.enroll short).leave waiter⟩
      rw [sameItems, sameCapacity]
      exact room

theorem Sound.leave {queue : BoundedQueue Item Task} (sound : queue.Sound)
    {waiter : Waiter Item Task} (waits : waiter ∈ queue.waiters) :
    (queue.leave waiter).1.Sound := by
  obtain ⟨items, capacity, _⟩ := queue.leave_frame waiter
  refine ⟨?_, sound.listed.leave waits, sound.promised.leave waiter⟩
  rw [items, capacity]
  exact sound.bounded

/-- A call that runs is not among those who wait any more. -/
theorem dismiss_absent (queue : BoundedQueue Item Task) (waiter : Waiter Item Task) :
    waiter.task ∉ (queue.dismiss waiter).waiters.map Waiter.task := by
  rw [(queue.dismiss_frame waiter).2.2]
  simp

theorem Sound.resume {queue : BoundedQueue Item Task} (sound : queue.Sound) {now : Nat}
    {task : Task} {look : Look Item Task} (resumes : Resumes now task queue look) :
    look.queue.Sound := by
  cases resumes with
  | absent _ | sleeps _ _ _ _ => exact sound
  | @runs waiter _ waits own woken looks =>
      subst own
      obtain ⟨items, capacity, _⟩ := queue.dismiss_frame waiter
      apply looks.sound _ (sound.listed.dismiss waits woken) (sound.promised.dismiss woken)
        (queue.dismiss_absent waiter)
      rw [items, capacity]
      exact sound.bounded
  | fails waits _ _ _ => exact sound.leave waits

theorem Looks.shifts {now : Nat} {waiter : Waiter Item Task} {queue : BoundedQueue Item Task}
    {look : Look Item Task} (looks : Looks now waiter queue look) :
    Shifts look.outcome queue.items look.queue.items := by
  obtain ⟨items, _, _⟩ := queue.enroll_frame waiter
  obtain ⟨left, _, _⟩ := (queue.enroll waiter).leave_frame waiter
  cases looks with
  | meets met => exact met.shifts
  | waits short early => simp [Shifts, items]
  | fails short late => simp [Shifts, items, left, Outcome.taken?, Outcome.added?]

theorem Looks.capacity {now : Nat} {waiter : Waiter Item Task} {queue : BoundedQueue Item Task}
    {look : Look Item Task} (looks : Looks now waiter queue look) :
    look.queue.capacity = queue.capacity := by
  obtain ⟨_, enrolled, _⟩ := queue.enroll_frame waiter
  cases looks with
  | meets met => exact met.capacity
  | waits short early => exact enrolled
  | fails short late => exact ((queue.enroll waiter).leave_frame waiter).2.1.trans enrolled

/-- A call waits only before its deadline. -/
theorem Looks.early {now : Nat} {waiter : Waiter Item Task} {queue : BoundedQueue Item Task}
    {look : Look Item Task} (looks : Looks now waiter queue look) (goes : look.outcome = none) :
    now < waiter.deadline := by
  cases looks with
  | meets _ | fails _ _ => cases goes
  | waits _ early => exact early

/-- A look fails only where there is nothing to be had, and not before the deadline. -/
theorem Looks.late {now : Nat} {waiter : Waiter Item Task} {queue : BoundedQueue Item Task}
    {look : Look Item Task} (looks : Looks now waiter queue look) {failure : Failure}
    (failed : look.outcome = some (.timedOut failure)) :
    queue.supply waiter.demand.takes = 0 ∧ waiter.deadline ≤ now := by
  cases looks with
  | meets met =>
      obtain rfl := Option.some.inj failed
      generalize waiter.demand = demand at met
      cases met
  | waits _ _ => cases failed
  | fails short late => exact ⟨short, late⟩

/-- A call that is over does not wait, and any other one does. -/
theorem Looks.waiters {now : Nat} {waiter : Waiter Item Task} {queue : BoundedQueue Item Task}
    {look : Look Item Task} (looks : Looks now waiter queue look)
    (fresh : waiter.task ∉ queue.waiters.map Waiter.task) :
    look.queue.waiters =
      if look.outcome.isSome then queue.waiters else queue.waiters ++ [waiter] := by
  obtain ⟨_, _, enrolled⟩ := queue.enroll_frame waiter
  obtain ⟨_, _, left⟩ := (queue.enroll waiter).leave_frame waiter
  cases looks with
  | meets met => exact met.waiters
  | waits short early => exact enrolled
  | fails short late => simp [left, enrolled, others_of_absent fresh]

theorem Looks.yields {now : Nat} {waiter : Waiter Item Task} {queue : BoundedQueue Item Task}
    {look : Look Item Task} (looks : Looks now waiter queue look) :
    ∀ outcome ∈ look.outcome, waiter.call.Yields outcome := by
  rintro outcome ended
  cases looks with
  | meets met =>
      obtain rfl := Option.some.inj ended
      exact met.yields
  | waits short early => cases ended
  | fails short late =>
      obtain rfl := Option.some.inj ended
      exact timeoutFailure_yields waiter

theorem Resumes.shifts {now : Nat} {task : Task} {queue : BoundedQueue Item Task}
    {look : Look Item Task} (resumes : Resumes now task queue look) :
    Shifts look.outcome queue.items look.queue.items := by
  cases resumes with
  | absent _ | sleeps _ _ _ _ => exact (List.append_nil _).symm
  | @runs waiter _ waits own woken looks =>
      have shifts := looks.shifts
      rwa [(queue.dismiss_frame waiter).1] at shifts
  | @fails waiter waits own quiet late =>
      simp [Shifts, (queue.leave_frame waiter).1, Outcome.taken?, Outcome.added?]

theorem Resumes.capacity {now : Nat} {task : Task} {queue : BoundedQueue Item Task}
    {look : Look Item Task} (resumes : Resumes now task queue look) :
    look.queue.capacity = queue.capacity := by
  cases resumes with
  | absent _ | sleeps _ _ _ _ => rfl
  | @runs waiter _ waits own woken looks =>
      exact looks.capacity.trans (queue.dismiss_frame waiter).2.1
  | @fails waiter waits own quiet late => exact (queue.leave_frame waiter).2.1

/-- The turn of a call at its deadline is its last. -/
theorem Resumes.over {now : Nat} {queue : BoundedQueue Item Task} {waiter : Waiter Item Task}
    {look : Look Item Task} (resumes : Resumes now waiter.task queue look)
    (listed : queue.Listed) (waits : waiter ∈ queue.waiters) (late : waiter.deadline ≤ now) :
    look.outcome.isSome := by
  have only {other : Waiter Item Task} (among : other ∈ queue.waiters)
      (own : other.task = waiter.task) : other = waiter :=
    List.inj_on_of_nodup_map listed.distinct among waits own
  cases resumes with
  | absent gone => exact absurd (List.mem_map_of_mem waits) gone
  | @runs other _ among own _ looks =>
      obtain rfl := only among own
      by_contra goes
      have early := looks.early (Option.not_isSome_iff_eq_none.mp goes)
      omega
  | sleeps among own _ early =>
      obtain rfl := only among own
      omega
  | fails _ _ _ _ => rfl

/-- A turn fails only at the deadline or later, and only where there is nothing to be had or the
call was not woken. -/
theorem Resumes.late {now : Nat} {task : Task} {queue : BoundedQueue Item Task}
    {look : Look Item Task} (resumes : Resumes now task queue look) {failure : Failure}
    (failed : look.outcome = some (.timedOut failure)) :
    ∃ waiter ∈ queue.waiters, waiter.task = task ∧ waiter.deadline ≤ now ∧
      waiter.call.Yields (.timedOut failure) ∧
      (queue.supply waiter.demand.takes = 0 ∨ waiter ∈ queue.dozing waiter.demand.takes) := by
  cases resumes with
  | absent _ | sleeps _ _ _ _ => cases failed
  | @runs waiter _ waits own woken looks =>
      obtain ⟨items, capacity, _⟩ := queue.dismiss_frame waiter
      obtain ⟨short, late⟩ := looks.late failed
      rw [supply_congr items capacity] at short
      exact ⟨waiter, waits, own, late, looks.yields _ failed, Or.inl short⟩
  | @fails waiter waits own quiet late =>
      obtain rfl := Outcome.timedOut.inj (Option.some.inj failed)
      have dozes : waiter ∈ queue.dozing waiter.demand.takes := by
        rw [dozing, List.mem_filter]
        simp [waits, isWoken, signal_eq, own, quiet]
      exact ⟨waiter, waits, own, late, timeoutFailure_yields waiter, Or.inr dozes⟩

/-- A turn of a waiting call that does not end leaves the same calls waiting. One that ends takes
this call away. -/
theorem Resumes.waiters {now : Nat} {task : Task} {queue : BoundedQueue Item Task}
    {look : Look Item Task} (resumes : Resumes now task queue look) (listed : queue.Listed) :
    match look.outcome with
    | none => look.queue.waiters.Perm queue.waiters
    | some outcome => ∃ waiter, (waiter :: look.queue.waiters).Perm queue.waiters ∧
        waiter.task = task ∧ waiter.call.Yields outcome := by
  cases resumes with
  | absent | sleeps _ _ _ _ => exact .refl _
  | @runs waiter _ waits own woken looks =>
      have others := listed.perm_dismiss waits
      have remain := looks.waiters (queue.dismiss_absent waiter)
      have yields := looks.yields
      cases ended : look.outcome with
      | none =>
          simp only [ended, Option.isSome_none] at remain
          rw [remain]
          exact (List.perm_append_singleton waiter _).trans others
      | some outcome =>
          simp only [ended, Option.isSome_some] at remain
          rw [remain]
          exact ⟨waiter, others, own, yields outcome ended⟩
  | @fails waiter waits own quiet late =>
      exact ⟨waiter, listed.perm_leave waits, own, timeoutFailure_yields waiter⟩

end BoundedQueue

end ReliableTransport
