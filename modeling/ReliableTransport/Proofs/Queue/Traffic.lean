import ReliableTransport.Proofs.Queue.Turns
/-!
This module follows the calls on a bounded queue. Calls begin, take turns and are given up in any
order while time passes, and each has a number. What calls added is always what calls took and then
what the queue holds, and every call is in one place: it waits, it is over, or it was given up.
-/

namespace ReliableTransport

namespace BoundedQueue

variable {Item : Type}

/-- The end of a call. -/
structure Ending (Item : Type) where
  number : Nat
  instant : Nat
  outcome : Outcome Item
  deriving DecidableEq

/-- A queue and what happened to it so far. -/
structure Traffic (Item : Type) where
  queue : BoundedQueue Item Nat
  now : Nat := 0
  /-- The calls that began, and when. The number of a call is its place among them. -/
  calls : List (Call Item × Nat) := []
  endings : List (Ending Item) := []
  /-- The calls that were given up while they waited. -/
  dropped : List Nat := []

namespace Traffic

/-- What can happen to a queue. -/
inductive Event (Item : Type) where
  | call (made : Call Item)
  | turn (number : Nat)
  | abandon (number : Nat)
  | pass (millis : Nat)

namespace Event

/-- How long an event lasts. -/
def millis : Event Item → Nat
  | .pass millis => millis
  | _ => 0

/-- The call that begins with an event. -/
def begun? : Event Item → Option (Call Item)
  | .call made => some made
  | _ => none

end Event

/-- The turn that an event gives to a call. -/
def turn (traffic : Traffic Item) :
    Event Item → Turn (BoundedQueue Item Nat) Nat Empty (Outcome Item)
  | .call made => component.start traffic.now traffic.calls.length made traffic.queue
  | .turn number => component.resume traffic.now number traffic.queue
  | .abandon number => component.abandon number traffic.queue
  | .pass _ => (traffic.queue, [])

/-- The call that an event gives up. -/
def dropped? (traffic : Traffic Item) : Event Item → Option Nat
  | .abandon number => (traffic.queue.waiter? number).map Waiter.task
  | _ => none

/-- The calls that are over after a turn. -/
def endingsOf (traffic : Traffic Item)
    (effects : List (Effect Nat Empty (Outcome Item))) : List (Ending Item) :=
  (Effect.results effects).map fun result =>
    { number := result.1, instant := traffic.now, outcome := result.2 }

def step (traffic : Traffic Item) (event : Event Item) : Traffic Item where
  queue := (traffic.turn event).1
  now := traffic.now + event.millis
  calls := traffic.calls ++ event.begun?.toList.map fun made => (made, traffic.now)
  endings := traffic.endings ++ traffic.endingsOf (traffic.turn event).2
  dropped := traffic.dropped ++ (traffic.dropped? event).toList

def run (traffic : Traffic Item) (events : List (Event Item)) : Traffic Item :=
  events.foldl step traffic

/-- The items that calls added, in the order in which they did. -/
def added (traffic : Traffic Item) : List Item :=
  traffic.endings.filterMap fun ending => ending.outcome.added?

/-- The items that calls took, in the order in which they did. -/
def taken (traffic : Traffic Item) : List Item :=
  traffic.endings.filterMap fun ending => ending.outcome.taken?

end Traffic

open Traffic

/-- What a look means to the schedule is its queue and its end. -/
theorem turn_results (task : Nat) (look : Look Item Nat) :
    (look.turn task).1 = look.queue ∧
      Effect.results (look.turn task).2 = look.outcome.toList.map fun outcome => (task, outcome) := by
  unfold Look.turn
  cases ended : look.outcome with
  | some outcome =>
      refine ⟨rfl, ?_⟩
      rw [Effect.results_append, Effect.results_ready]
      rfl
  | none =>
      cases look.queue.waiter? task with
      | none => exact ⟨rfl, Effect.results_ready look.woken⟩
      | some waiter =>
          refine ⟨rfl, ?_⟩
          rw [Effect.results_append, Effect.results_ready]
          rfl

namespace Traffic

variable {traffic : Traffic Item}

/-- The endings after a turn of a call that may be its last. -/
def ending (traffic : Traffic Item) (number : Nat) (outcome : Option (Outcome Item)) :
    List (Ending Item) :=
  traffic.endings ++ outcome.toList.map fun outcome =>
    { number, instant := traffic.now, outcome }

/-- What can happen to a queue, event by event. -/
inductive Happens (traffic : Traffic Item) : Event Item → Traffic Item → Prop where
  | begins {waiter : Waiter Item Nat} {look : Look Item Nat}
      (own : waiter.task = traffic.calls.length)
      (due : waiter.deadline = traffic.now + waiter.timeout)
      (looks : Looks traffic.now waiter traffic.queue look) :
      Happens traffic (.call waiter.call)
        { traffic with
          queue := look.queue
          calls := traffic.calls ++ [(waiter.call, traffic.now)]
          endings := traffic.ending waiter.task look.outcome }
  | tries {made : Call Item} {demand : Demand Item} {after : BoundedQueue Item Nat}
      {woken : List Nat} {outcome : Outcome Item}
      (met : Met traffic.queue demand after woken outcome) (yields : made.Yields outcome) :
      Happens traffic (.call made)
        { traffic with
          queue := after
          calls := traffic.calls ++ [(made, traffic.now)]
          endings := traffic.ending traffic.calls.length (some outcome) }
  | misses {made : Call Item} {outcome : Outcome Item} (prompt : made.waits? = none)
      (yields : made.Yields outcome)
      (shifts : Shifts (some outcome) traffic.queue.items traffic.queue.items) :
      Happens traffic (.call made)
        { traffic with
          calls := traffic.calls ++ [(made, traffic.now)]
          endings := traffic.ending traffic.calls.length (some outcome) }
  | resumes {number : Nat} {look : Look Item Nat}
      (resumes : Resumes traffic.now number traffic.queue look) :
      Happens traffic (.turn number)
        { traffic with queue := look.queue, endings := traffic.ending number look.outcome }
  | leaves {waiter : Waiter Item Nat} (waits : waiter ∈ traffic.queue.waiters) :
      Happens traffic (.abandon waiter.task)
        { traffic with
          queue := (traffic.queue.leave waiter).1
          dropped := traffic.dropped ++ [waiter.task] }
  | stays {number : Nat} : Happens traffic (.abandon number) traffic
  | passes {millis : Nat} :
      Happens traffic (.pass millis) { traffic with now := traffic.now + millis }

/-- The endings that a look adds. -/
theorem endingsOf_look (traffic : Traffic Item) (number : Nat) (look : Look Item Nat) :
    traffic.endings ++ traffic.endingsOf (look.turn number).2 =
      traffic.ending number look.outcome := by
  rw [endingsOf, (turn_results number look).2, List.map_map]
  rfl

theorem endingsOf_ready (traffic : Traffic Item) (woken : List Nat) :
    traffic.endingsOf (woken.map .ready) = [] := by
  rw [endingsOf, Effect.results_ready]
  rfl

/-- A call that is over with its first turn. -/
theorem step_over {made : Call Item} {after : BoundedQueue Item Nat} {woken : List Nat}
    {outcome : Outcome Item} (turned : traffic.turn (.call made) =
      (after, woken.map .ready ++ [.done traffic.calls.length outcome])) :
    traffic.step (.call made) =
      { traffic with
        queue := after
        calls := traffic.calls ++ [(made, traffic.now)]
        endings := traffic.ending traffic.calls.length (some outcome) } := by
  rw [step, turned, endingsOf, Effect.results_append, Effect.results_ready]
  simp [dropped?, Event.begun?, Event.millis, ending, Effect.results]

/-- A call that looks at the queue with its first turn. -/
theorem step_look {waiter : Waiter Item Nat}
    (turned : traffic.turn (.call waiter.call) =
      (traffic.queue.look traffic.now waiter).turn waiter.task) :
    traffic.step (.call waiter.call) =
      { traffic with
        queue := (traffic.queue.look traffic.now waiter).queue
        calls := traffic.calls ++ [(waiter.call, traffic.now)]
        endings :=
          traffic.ending waiter.task (traffic.queue.look traffic.now waiter).outcome } := by
  rw [step, turned, endingsOf_look, (turn_results _ _).1]
  simp [dropped?, Event.begun?, Event.millis]

theorem call_happens (traffic : Traffic Item) (made : Call Item) :
    traffic.Happens (.call made) (traffic.step (.call made)) := by
  have looks (waiter : Waiter Item Nat) (own : waiter.task = traffic.calls.length)
      (due : waiter.deadline = traffic.now + waiter.timeout)
      (turned : traffic.turn (.call waiter.call) =
        (traffic.queue.look traffic.now waiter).turn waiter.task) :
      traffic.Happens (.call waiter.call) (traffic.step (.call waiter.call)) := by
    rw [step_look turned]
    exact .begins own due (look_looks traffic.now waiter traffic.queue)
  have misses (outcome : Outcome Item) (prompt : made.waits? = none)
      (yields : made.Yields outcome)
      (shifts : Shifts (some outcome) traffic.queue.items traffic.queue.items)
      (turned : traffic.turn (.call made) =
        (traffic.queue, ([] : List Nat).map .ready ++ [.done traffic.calls.length outcome])) :
      traffic.Happens (.call made) (traffic.step (.call made)) := by
    rw [step_over turned]
    exact .misses prompt yields shifts
  cases made with
  | enqueue item timeout =>
      let waiter : Waiter Item Nat :=
        { task := traffic.calls.length, demand := .push item, timeout
          deadline := traffic.now + timeout }
      exact looks waiter rfl rfl rfl
  | dequeue timeout =>
      let waiter : Waiter Item Nat :=
        { task := traffic.calls.length, demand := .pop, timeout
          deadline := traffic.now + timeout }
      exact looks waiter rfl rfl rfl
  | tryEnqueue item =>
      rcases traffic.queue.push?_cases item with ⟨full, _⟩ | ⟨after, woken, added, met⟩
      · exact misses _ rfl (.refused item) (List.append_nil _).symm
          (by simp [turn, component, begin, full])
      · have turned : traffic.turn (.call (.tryEnqueue item)) =
            (after, woken.map .ready ++ [.done traffic.calls.length (.pushed item)]) := by
          simp [turn, component, begin, added]
        rw [step_over turned]
        exact .tries met (.added item)
  | tryDequeue =>
      rcases traffic.queue.pop?_cases with ⟨nothing, _⟩ | ⟨item, after, woken, taken, met⟩
      · exact misses _ rfl .nothing (List.append_nil _).symm
          (by simp [turn, component, begin, nothing])
      · have turned : traffic.turn (.call .tryDequeue) =
            (after, woken.map .ready ++ [.done traffic.calls.length (.popped item)]) := by
          simp [turn, component, begin, taken]
        rw [step_over turned]
        exact .tries met (.taken item)

theorem step_happens (traffic : Traffic Item) (event : Event Item) :
    traffic.Happens event (traffic.step event) := by
  cases event with
  | call made => exact traffic.call_happens made
  | turn number =>
      have turned : traffic.turn (.turn number) =
          (traffic.queue.resume traffic.now number).turn number := rfl
      rw [step, turned, endingsOf_look, (turn_results _ _).1]
      simpa [dropped?, Event.begun?, Event.millis] using
        Happens.resumes (resume_resumes traffic.now number traffic.queue)
  | abandon number =>
      cases found : traffic.queue.waiter? number with
      | none =>
          have turned : traffic.turn (.abandon number) =
              (traffic.queue, ([] : List Nat).map .ready) := by
            simp [turn, component, abandon, found]
          rw [step, turned, endingsOf_ready]
          simpa [dropped?, found, Event.begun?, Event.millis] using
            (Happens.stays : traffic.Happens (.abandon number) traffic)
      | some waiter =>
          obtain ⟨waits, rfl⟩ := waiter?_eq_some found
          have turned : traffic.turn (.abandon waiter.task) =
              ((traffic.queue.leave waiter).1, (traffic.queue.leave waiter).2.map .ready) := by
            simp [turn, component, abandon, found]
          rw [step, turned, endingsOf_ready]
          simpa [dropped?, found, Event.begun?, Event.millis] using Happens.leaves waits
  | pass millis =>
      simpa [step, turn, dropped?, Event.begun?, Event.millis, endingsOf, Effect.results] using
        (Happens.passes : traffic.Happens (.pass millis) _)

/-- One call at most is over with an event, and the contents change by what it took and added. -/
theorem Happens.shifts {event : Event Item} {after : Traffic Item}
    (happens : traffic.Happens event after) :
    ∃ number outcome, after.endings = traffic.ending number outcome ∧
      Shifts outcome traffic.queue.items after.queue.items := by
  have same (items : List Item) : Shifts none items items := (List.append_nil items).symm
  have nothing : traffic.endings = traffic.ending 0 none := (List.append_nil _).symm
  cases happens with
  | begins own due looks => exact ⟨_, _, rfl, looks.shifts⟩
  | tries met yields => exact ⟨_, _, rfl, met.shifts⟩
  | misses _ yields shifts => exact ⟨_, _, rfl, shifts⟩
  | resumes resumes => exact ⟨_, _, rfl, resumes.shifts⟩
  | @leaves waiter waits =>
      refine ⟨0, none, nothing, ?_⟩
      rw [(traffic.queue.leave_frame waiter).1]
      exact same _
  | stays | passes => exact ⟨0, none, nothing, same _⟩

/-- The calls and the queue of a traffic in order. -/
structure Orderly (traffic : Traffic Item) : Prop where
  sound : traffic.queue.Sound
  placed : (traffic.queue.waiters.map Waiter.task ++ traffic.endings.map Ending.number ++
    traffic.dropped).Perm (List.range traffic.calls.length)
  kept : ∀ waiter ∈ traffic.queue.waiters, ∃ began,
    traffic.calls[waiter.task]? = some (waiter.call, began) ∧
      waiter.deadline = began + waiter.timeout
  yielded : ∀ ending ∈ traffic.endings, ∃ made began,
    traffic.calls[ending.number]? = some (made, began) ∧ made.Yields ending.outcome
  conserved : traffic.added = traffic.taken ++ traffic.queue.items

/-- The next call has a number of its own. -/
theorem Orderly.fresh (orderly : traffic.Orderly) :
    traffic.calls.length ∉ traffic.queue.waiters.map Waiter.task := by
  intro member
  have known := orderly.placed.subset (List.mem_append_left _ (List.mem_append_left _ member))
  exact Nat.lt_irrefl _ (List.mem_range.mp known)

theorem Orderly.conserves {after : Traffic Item} (orderly : traffic.Orderly) {number : Nat}
    {outcome : Option (Outcome Item)} (endings : after.endings = traffic.ending number outcome)
    (shifts : Shifts outcome traffic.queue.items after.queue.items) :
    after.added = after.taken ++ after.queue.items := by
  have taken : after.taken = traffic.taken ++ (outcome.bind Outcome.taken?).toList := by
    rw [Traffic.taken, endings, ending, List.filterMap_append, Traffic.taken]
    cases outcome with
    | none => rfl
    | some outcome => cases outcome <;> rfl
  have added : after.added = traffic.added ++ (outcome.bind Outcome.added?).toList := by
    rw [Traffic.added, endings, ending, List.filterMap_append, Traffic.added]
    cases outcome with
    | none => rfl
    | some outcome => cases outcome <;> rfl
  rw [Shifts] at shifts
  rw [added, taken, orderly.conserved, List.append_assoc, List.append_assoc, shifts]

/-- What is known of a call stays known. -/
theorem calls_append {calls more : List (Call Item × Nat)} {number : Nat} {made : Call Item × Nat}
    (known : calls[number]? = some made) : (calls ++ more)[number]? = some made := by
  rw [List.getElem?_append_left (List.getElem?_eq_some_iff.mp known).1]
  exact known

/-- A call that is over with its first turn. -/
theorem Orderly.over {after : Traffic Item} (orderly : traffic.Orderly) {made : Call Item}
    {outcome : Outcome Item} (calls : after.calls = traffic.calls ++ [(made, traffic.now)])
    (endings : after.endings = traffic.ending traffic.calls.length (some outcome))
    (dropped : after.dropped = traffic.dropped)
    (waiters : after.queue.waiters = traffic.queue.waiters) (yields : made.Yields outcome)
    (sound : after.queue.Sound) (conserved : after.added = after.taken ++ after.queue.items) :
    after.Orderly := by
  refine ⟨sound, ?_, ?_, ?_, conserved⟩
  -- Counting how often a number occurs leaves only sums to compare.
  · have placed := orderly.placed
    rw [List.perm_iff_count] at placed ⊢
    intro number
    have known := placed number
    simp only [waiters, endings, dropped, calls, ending, List.map_append, List.count_append,
      List.length_append, List.length_singleton, List.range_succ] at known ⊢
    simp only [Option.toList_some, List.map_cons, List.map_nil]
    omega
  · intro waiter waits
    rw [waiters] at waits
    obtain ⟨began, known, due⟩ := orderly.kept waiter waits
    exact ⟨began, calls ▸ calls_append known, due⟩
  · intro one member
    rw [endings, ending, List.mem_append] at member
    rcases member with earlier | latest
    · obtain ⟨former, began, known, yields⟩ := orderly.yielded one earlier
      exact ⟨former, began, calls ▸ calls_append known, yields⟩
    · obtain rfl := List.mem_singleton.mp latest
      exact ⟨made, traffic.now, by rw [calls]; exact List.getElem?_concat_length, yields⟩

/-- A call that waits after its first turn. -/
theorem Orderly.waits {after : Traffic Item} (orderly : traffic.Orderly)
    {waiter : Waiter Item Nat} (own : waiter.task = traffic.calls.length)
    (due : waiter.deadline = traffic.now + waiter.timeout)
    (calls : after.calls = traffic.calls ++ [(waiter.call, traffic.now)])
    (endings : after.endings = traffic.endings) (dropped : after.dropped = traffic.dropped)
    (waiters : after.queue.waiters = traffic.queue.waiters ++ [waiter])
    (sound : after.queue.Sound) (conserved : after.added = after.taken ++ after.queue.items) :
    after.Orderly := by
  refine ⟨sound, ?_, ?_, ?_, conserved⟩
  · have placed := orderly.placed
    rw [List.perm_iff_count] at placed ⊢
    intro number
    have known := placed number
    simp only [waiters, endings, dropped, calls, own, List.map_append, List.count_append,
      List.length_append, List.length_singleton, List.range_succ, List.map_cons, List.map_nil]
      at known ⊢
    omega
  · intro other among
    rw [waiters, List.mem_append] at among
    rcases among with earlier | latest
    · obtain ⟨began, known, due⟩ := orderly.kept other earlier
      exact ⟨began, calls ▸ calls_append known, due⟩
    · obtain rfl := List.mem_singleton.mp latest
      exact ⟨traffic.now, by rw [calls, own]; exact List.getElem?_concat_length, due⟩
  · intro one member
    rw [endings] at member
    obtain ⟨former, began, known, yields⟩ := orderly.yielded one member
    exact ⟨former, began, calls ▸ calls_append known, yields⟩

/-- A waiting call that is over or was given up. -/
theorem Orderly.goes {after : Traffic Item} (orderly : traffic.Orderly)
    {waiter : Waiter Item Nat} (waiters : (waiter :: after.queue.waiters).Perm traffic.queue.waiters)
    (calls : after.calls = traffic.calls)
    (gone : (∃ outcome, waiter.call.Yields outcome ∧
        after.endings = traffic.ending waiter.task (some outcome) ∧
          after.dropped = traffic.dropped) ∨
      after.endings = traffic.endings ∧ after.dropped = traffic.dropped ++ [waiter.task])
    (sound : after.queue.Sound) (conserved : after.added = after.taken ++ after.queue.items) :
    after.Orderly := by
  obtain ⟨began, own, _⟩ := orderly.kept waiter (waiters.subset List.mem_cons_self)
  refine ⟨sound, ?_, ?_, ?_, conserved⟩
  · have placed := orderly.placed
    have tasks := waiters.map Waiter.task
    rw [List.perm_iff_count] at placed tasks ⊢
    intro number
    have known := placed number
    have waiting := tasks number
    rcases gone with ⟨outcome, _, endings, dropped⟩ | ⟨endings, dropped⟩
    · simp only [endings, dropped, calls, ending, Option.toList_some, List.map_append,
        List.map_cons, List.map_nil, List.count_append, List.count_cons, List.count_nil]
        at known waiting ⊢
      omega
    · simp only [endings, dropped, calls, List.map_cons, List.count_append, List.count_cons,
        List.count_nil] at known waiting ⊢
      omega
  · intro other among
    rw [calls]
    exact orderly.kept other (waiters.subset (List.mem_cons_of_mem _ among))
  · intro one member
    rw [calls]
    rcases gone with ⟨outcome, yields, endings, _⟩ | ⟨endings, _⟩
    · rw [endings, ending, List.mem_append] at member
      rcases member with earlier | latest
      · exact orderly.yielded one earlier
      · obtain rfl := List.mem_singleton.mp latest
        exact ⟨waiter.call, began, own, yields⟩
    · rw [endings] at member
      exact orderly.yielded one member

/-- Every event keeps a traffic in order. -/
theorem Orderly.step (orderly : traffic.Orderly) {event : Event Item} {after : Traffic Item}
    (happens : traffic.Happens event after) : after.Orderly := by
  have conserved : after.added = after.taken ++ after.queue.items := by
    obtain ⟨number, outcome, endings, shifts⟩ := happens.shifts
    exact orderly.conserves endings shifts
  have sound := orderly.sound
  cases happens with
  | @begins waiter look own due looks =>
      have fresh : waiter.task ∉ traffic.queue.waiters.map Waiter.task := own ▸ orderly.fresh
      have remain := looks.waiters fresh
      have stays := looks.sound sound.bounded sound.listed (sound.spare _) fresh
      cases ended : look.outcome with
      | none =>
          rw [ended] at remain conserved
          exact orderly.waits own due rfl (List.append_nil _) rfl remain stays conserved
      | some outcome =>
          rw [ended] at remain conserved
          have yields := looks.yields outcome ended
          exact orderly.over rfl (by rw [own]) rfl remain yields stays conserved
  | tries met yields =>
      exact orderly.over rfl rfl rfl met.waiters yields (met.sound sound) conserved
  | misses _ yields shifts => exact orderly.over rfl rfl rfl rfl yields sound conserved
  | @resumes number look resumes =>
      have remain := resumes.waiters sound.listed
      have stays := sound.resume resumes
      cases ended : look.outcome with
      | none =>
          rw [ended] at remain conserved
          have unended : traffic.ending number none = traffic.endings := List.append_nil _
          rw [unended] at conserved ⊢
          have tasks := remain.map Waiter.task
          refine ⟨stays, ?_, ?_, orderly.yielded, conserved⟩
          · exact ((tasks.append_right _).append_right _).trans orderly.placed
          · exact fun waiter among => orderly.kept waiter (remain.subset among)
      | some outcome =>
          rw [ended] at remain conserved
          obtain ⟨waiter, waiters, own, yields⟩ := remain
          refine orderly.goes waiters rfl (Or.inl ⟨outcome, yields, ?_, rfl⟩) stays conserved
          rw [own]
  | @leaves waiter waits =>
      exact orderly.goes (sound.listed.perm_leave waits) rfl (Or.inr ⟨rfl, rfl⟩)
        (sound.leave waits) conserved
  | stays => exact orderly
  | passes => exact ⟨sound, orderly.placed, orderly.kept, orderly.yielded, conserved⟩

theorem Orderly.run (orderly : traffic.Orderly) (events : List (Event Item)) :
    (traffic.run events).Orderly := by
  induction events generalizing traffic with
  | nil => exact orderly
  | cons event rest ih => exact ih (orderly.step (traffic.step_happens event))

/-- A queue that nobody called yet. -/
def opened (capacity : Nat) : Traffic Item where
  queue := { capacity }

theorem opened_orderly (capacity : Nat) : (opened capacity : Traffic Item).Orderly := by
  refine ⟨⟨Nat.zero_le _, ⟨List.nodup_nil, ?_⟩, ?_⟩, .refl _, ?_, ?_, rfl⟩
  · intro takes
    cases takes <;> exact .refl _
  · intro takes waits
    cases takes <;> exact absurd rfl waits
  · intro waiter waits
    cases waits
  · intro one member
    cases member

/-- No event changes how much a queue may hold. -/
theorem capacity_step (traffic : Traffic Item) (event : Event Item) :
    (traffic.step event).queue.capacity = traffic.queue.capacity := by
  have happens := traffic.step_happens event
  generalize traffic.step event = after at happens ⊢
  cases happens with
  | begins own due looks => exact looks.capacity
  | tries met yields => exact met.capacity
  | resumes resumes => exact resumes.capacity
  | @leaves waiter waits => exact (traffic.queue.leave_frame waiter).2.1
  | misses | stays | passes => rfl

theorem capacity_run (traffic : Traffic Item) (events : List (Event Item)) :
    (traffic.run events).queue.capacity = traffic.queue.capacity := by
  induction events generalizing traffic with
  | nil => rfl
  | cons event rest ih => exact (ih (traffic.step event)).trans (traffic.capacity_step event)

/-- Calls that add and calls that take meet at a queue in any order, wait, run late, time out and
are given up. The queue never holds more than it may. What calls added, in the order in which they
did, is what calls took, in the order in which they did, and then what the queue holds. Every call
is in exactly one place, a call ends only as its kind can, and whatever else happens to it leaves
the contents alone. -/
theorem run_conserves (capacity : Nat) (events : List (Event Item)) :
    let traffic := (opened capacity).run events
    traffic.queue.items.length ≤ capacity ∧
      traffic.added = traffic.taken ++ traffic.queue.items ∧
      (traffic.queue.waiters.map Waiter.task ++ traffic.endings.map Ending.number ++
        traffic.dropped).Perm (List.range traffic.calls.length) ∧
      (∀ ending ∈ traffic.endings, ∃ made began,
        traffic.calls[ending.number]? = some (made, began) ∧ made.Yields ending.outcome) ∧
      ∀ event, ∃ number outcome,
        (traffic.step event).endings = traffic.ending number outcome ∧
          Shifts outcome traffic.queue.items (traffic.step event).queue.items := by
  have orderly := (opened_orderly capacity).run events
  have bounded := orderly.sound.bounded
  rw [capacity_run] at bounded
  exact ⟨bounded, orderly.conserved, orderly.placed, orderly.yielded,
    fun event => (step_happens _ event).shifts⟩

end Traffic

end BoundedQueue

end ReliableTransport
