import Mathlib.Data.List.Perm.Basic
import ReliableTransport.BoundedQueue
/-!
This module says who waits at a bounded queue, and who is on its way to what. Calls that add and
calls that take wait on two sides. A call that waits on one side without being woken leaves nothing
to be had there: every item, or every free place, has a woken call on its way to it.
-/

namespace ReliableTransport

namespace Signal

variable {Task : Type} (signal : Signal Task)

/-- Those who wait for a signal, woken or not. -/
def members : List Task := signal.waiting ++ signal.woken

theorem members_notify : signal.notify.1.members.Perm signal.members := by
  obtain ⟨waiting, woken, permit⟩ := signal
  cases waiting with
  | nil => exact .refl _
  | cons task rest =>
      show (rest ++ (woken ++ [task])).Perm (task :: (rest ++ woken))
      rw [← List.append_assoc]
      exact List.perm_append_singleton task (rest ++ woken)

theorem members_enroll (task : Task) :
    (signal.enroll task).members.Perm (task :: signal.members) := by
  show (signal.waiting ++ [task] ++ signal.woken).Perm (task :: (signal.waiting ++ signal.woken))
  rw [List.append_assoc]
  exact List.perm_middle

/-- Whoever still waits after a notification waited before, and somebody was woken instead. -/
theorem woken_notify (waits : signal.notify.1.waiting ≠ []) :
    signal.waiting ≠ [] ∧ signal.notify.1.woken.length = signal.woken.length + 1 := by
  obtain ⟨waiting, woken, permit⟩ := signal
  cases waiting with
  | nil => exact absurd rfl waits
  | cons task rest => exact ⟨List.cons_ne_nil task rest, List.length_append⟩

variable [DecidableEq Task]

theorem members_receive {task : Task} (woken : task ∈ signal.woken) :
    (task :: (signal.receive task).members).Perm signal.members :=
  List.perm_middle.symm.trans ((List.perm_cons_erase woken).symm.append_left signal.waiting)

theorem members_leave {task : Task} (member : task ∈ signal.members) :
    (task :: (signal.leave task).1.members).Perm signal.members := by
  unfold leave
  split
  next woken =>
    exact ((signal.receive task).members_notify.cons task).trans (signal.members_receive woken)
  next quiet =>
    have waits : task ∈ signal.waiting := (List.mem_append.mp member).resolve_right quiet
    exact (List.perm_cons_erase waits).symm.append_right signal.woken

theorem length_receive {task : Task} (woken : task ∈ signal.woken) :
    (signal.receive task).woken.length + 1 = signal.woken.length := by
  have positive := List.length_pos_of_mem woken
  rw [receive, List.length_erase_of_mem woken]
  omega

/-- A waiter that leaves hands its wake-up on as long as another one waits. -/
theorem woken_leave {task : Task} (waits : (signal.leave task).1.waiting ≠ []) :
    signal.waiting ≠ [] ∧ (signal.leave task).1.woken.length = signal.woken.length := by
  unfold leave at waits ⊢
  split at waits
  next woken =>
    obtain ⟨others, handed⟩ := (signal.receive task).woken_notify waits
    rw [if_pos woken, handed]
    exact ⟨others, signal.length_receive woken⟩
  next quiet =>
    rw [if_neg quiet]
    refine ⟨?_, rfl⟩
    rintro empty
    exact waits (by simp [empty])

end Signal

namespace BoundedQueue

variable {Item Task : Type}

/-- The demand is for an item. Otherwise it is for a free place. -/
def Demand.takes : Demand Item → Bool
  | .push _ => false
  | .pop => true

/-- What there is for the calls on one side: items for those that take, and free places for those
that add. -/
def supply (queue : BoundedQueue Item Task) (takes : Bool) : Nat :=
  if takes then queue.items.length else queue.capacity - queue.items.length

/-- The signal of the calls on one side. -/
def bell (queue : BoundedQueue Item Task) (takes : Bool) : Signal Task :=
  if takes then queue.notEmpty else queue.notFull

/-- The tasks of the waiting calls on one side. -/
def crowd (queue : BoundedQueue Item Task) (takes : Bool) : List Task :=
  (queue.waiters.filter fun waiter => waiter.demand.takes == takes).map Waiter.task

theorem signal_eq (queue : BoundedQueue Item Task) (demand : Demand Item) :
    queue.signal demand = queue.bell demand.takes := by
  cases demand <;> rfl

/-- Every call waits once, and each signal lists the calls on its side. -/
structure Listed (queue : BoundedQueue Item Task) : Prop where
  distinct : (queue.waiters.map Waiter.task).Nodup
  members : ∀ takes, (queue.bell takes).members.Perm (queue.crowd takes)

/-- As long as a call waits on a side without being woken, every supply of that side but a spare
part has a woken call on its way to it. -/
def Promised (queue : BoundedQueue Item Task) (spare : Bool → Nat) : Prop :=
  ∀ takes, (queue.bell takes).waiting ≠ [] →
    queue.supply takes ≤ (queue.bell takes).woken.length + spare takes

/-- Nothing changes for those who wait when the other parts of a queue do. -/
theorem Listed.congr {queue other : BoundedQueue Item Task} (listed : queue.Listed)
    (waiters : other.waiters = queue.waiters)
    (members : ∀ takes, (other.bell takes).members.Perm (queue.bell takes).members) :
    other.Listed := by
  refine ⟨waiters ▸ listed.distinct, fun takes => ?_⟩
  rw [crowd, waiters]
  exact (members takes).trans (listed.members takes)

/-- How a demand is met: an item is added and one of those who take is told, or the oldest item is
taken and one of those who add is told. -/
inductive Met (queue : BoundedQueue Item Task) :
    Demand Item → BoundedQueue Item Task → List Task → Outcome Item → Prop where
  | adds {item : Item} (room : queue.items.length < queue.capacity) :
      Met queue (.push item)
        { queue with items := queue.items ++ [item], notEmpty := queue.notEmpty.notify.1 }
        queue.notEmpty.notify.2.toList (.pushed item)
  | takes {item : Item} {rest : List Item} (first : queue.items = item :: rest) :
      Met queue .pop { queue with items := rest, notFull := queue.notFull.notify.1 }
        queue.notFull.notify.2.toList (.popped item)

theorem push?_cases (queue : BoundedQueue Item Task) (item : Item) :
    queue.push? item = none ∧ queue.supply false = 0 ∨
      ∃ after woken, queue.push? item = some (after, woken) ∧
        Met queue (.push item) after woken (.pushed item) := by
  unfold push?
  split
  next room => exact Or.inr ⟨_, _, rfl, .adds room⟩
  next full => exact Or.inl ⟨rfl, Nat.sub_eq_zero_of_le (Nat.le_of_not_lt full)⟩

theorem pop?_cases (queue : BoundedQueue Item Task) :
    queue.pop? = none ∧ queue.supply true = 0 ∨
      ∃ item after woken, queue.pop? = some (item, after, woken) ∧
        Met queue .pop after woken (.popped item) := by
  unfold pop?
  cases first : queue.items with
  | nil => exact Or.inl ⟨rfl, by simp [supply, first]⟩
  | cons item rest => exact Or.inr ⟨item, _, _, rfl, .takes first⟩

/-- A demand is met unless there is nothing on its side. -/
theorem meet?_cases (queue : BoundedQueue Item Task) (demand : Demand Item) :
    queue.meet? demand = none ∧ queue.supply demand.takes = 0 ∨
      ∃ after woken outcome, queue.meet? demand = some (after, woken, outcome) ∧
        Met queue demand after woken outcome := by
  cases demand with
  | push item =>
      rcases queue.push?_cases item with ⟨refused, short⟩ | ⟨after, woken, added, met⟩
      · exact Or.inl ⟨by simp [meet?, refused], short⟩
      · exact Or.inr ⟨after, woken, _, by simp [meet?, added], met⟩
  | pop =>
      rcases queue.pop?_cases with ⟨nothing, short⟩ | ⟨item, after, woken, taken, met⟩
      · exact Or.inl ⟨by simp [meet?, nothing], short⟩
      · exact Or.inr ⟨after, woken, _, by simp [meet?, taken], met⟩

theorem Met.waiters {queue after : BoundedQueue Item Task} {demand : Demand Item}
    {woken : List Task} {outcome : Outcome Item} (met : Met queue demand after woken outcome) :
    after.waiters = queue.waiters := by
  cases met <;> rfl

theorem Met.capacity {queue after : BoundedQueue Item Task} {demand : Demand Item}
    {woken : List Task} {outcome : Outcome Item} (met : Met queue demand after woken outcome) :
    after.capacity = queue.capacity := by
  cases met <;> rfl

theorem Met.bounded {queue after : BoundedQueue Item Task} {demand : Demand Item}
    {woken : List Task} {outcome : Outcome Item} (met : Met queue demand after woken outcome)
    (bounded : queue.items.length ≤ queue.capacity) : after.items.length ≤ after.capacity := by
  cases met with
  | adds room =>
      rw [List.length_append]
      exact room
  | takes first =>
      rw [first] at bounded
      exact Nat.le_of_succ_le bounded

/-- The demand's own side keeps its signal, and the other one is told. -/
theorem Met.bell {queue after : BoundedQueue Item Task} {demand : Demand Item} {woken : List Task}
    {outcome : Outcome Item} (met : Met queue demand after woken outcome) (takes : Bool) :
    after.bell takes =
      if takes = demand.takes then queue.bell takes else (queue.bell takes).notify.1 := by
  cases met <;> cases takes <;> rfl

/-- The demand's own side has one less to offer, and the other one more. -/
theorem Met.supply {queue after : BoundedQueue Item Task} {demand : Demand Item} {woken : List Task}
    {outcome : Outcome Item} (met : Met queue demand after woken outcome)
    (bounded : queue.items.length ≤ queue.capacity) (takes : Bool) :
    if takes = demand.takes then after.supply takes + 1 = queue.supply takes
    else after.supply takes = queue.supply takes + 1 := by
  cases met with
  | adds room =>
      cases takes
      · simp only [BoundedQueue.supply, Demand.takes, List.length_append, List.length_singleton]
        simp
        omega
      · simp [BoundedQueue.supply, Demand.takes]
  | takes first =>
      rw [first, List.length_cons] at bounded
      cases takes
      · simp only [BoundedQueue.supply, Demand.takes, first, List.length_cons]
        simp
        omega
      · simp [BoundedQueue.supply, Demand.takes, first]

theorem Listed.met {queue after : BoundedQueue Item Task} (listed : queue.Listed)
    {demand : Demand Item} {woken : List Task} {outcome : Outcome Item}
    (met : Met queue demand after woken outcome) : after.Listed := by
  apply listed.congr met.waiters
  intro takes
  rw [met.bell]
  split
  · exact .refl _
  · exact (queue.bell takes).members_notify

/-- A demand that is met uses up a spare part of its own side, and wakes somebody for what it adds
to the other one. -/
theorem Promised.met {queue after : BoundedQueue Item Task} {demand : Demand Item}
    (promised : queue.Promised fun takes => if takes = demand.takes then 1 else 0)
    (bounded : queue.items.length ≤ queue.capacity) {woken : List Task} {outcome : Outcome Item}
    (met : Met queue demand after woken outcome) : after.Promised fun _ => 0 := by
  intro takes waits
  have supplied := met.supply bounded takes
  rw [met.bell] at waits ⊢
  by_cases own : takes = demand.takes
  · rw [if_pos own] at waits supplied ⊢
    have promise := promised takes waits
    simp only [if_pos own] at promise
    omega
  · rw [if_neg own] at waits supplied ⊢
    obtain ⟨others, told⟩ := (queue.bell takes).woken_notify waits
    have promise := promised takes others
    simp only [if_neg own] at promise
    omega

/-- Nobody has to go where a task does not wait. -/
theorem others_of_absent [DecidableEq Task] {waiters : List (Waiter Item Task)} {task : Task}
    (absent : task ∉ waiters.map Waiter.task) :
    (waiters.filter fun other => other.task != task) = waiters := by
  rw [List.filter_eq_self]
  intro other among
  rw [bne_iff_ne]
  exact fun same => absent (same ▸ List.mem_map_of_mem among)

/-- The waiting calls without the one of a task. -/
theorem perm_others [DecidableEq Task] {waiters : List (Waiter Item Task)}
    (distinct : (waiters.map Waiter.task).Nodup) {waiter : Waiter Item Task}
    (member : waiter ∈ waiters) :
    (waiter :: waiters.filter fun other => other.task != waiter.task).Perm waiters := by
  induction waiters with
  | nil => cases member
  | cons first rest ih =>
      rw [List.map_cons, List.nodup_cons] at distinct
      obtain ⟨absent, distinct⟩ := distinct
      rcases List.mem_cons.mp member with rfl | later
      · rw [List.filter_cons_of_neg (by simp), others_of_absent absent]
      · have different : (first.task != waiter.task) = true := by
          rw [bne_iff_ne]
          exact fun same => absent (same ▸ List.mem_map_of_mem later)
        have kept : ((first :: rest).filter fun other => other.task != waiter.task) =
            first :: rest.filter fun other => other.task != waiter.task :=
          List.filter_cons_of_pos different
        rw [kept]
        exact (List.Perm.swap first waiter _).trans ((ih distinct later).cons first)

/-- One more call waits, on its own side. -/
theorem crowd_cons {queue other : BoundedQueue Item Task} {waiter : Waiter Item Task}
    (waiters : (waiter :: queue.waiters).Perm other.waiters) (takes : Bool) :
    (if takes = waiter.demand.takes then waiter.task :: queue.crowd takes
      else queue.crowd takes).Perm (other.crowd takes) := by
  have kept := (waiters.filter fun waiter => waiter.demand.takes == takes).map Waiter.task
  rw [List.filter_cons] at kept
  by_cases own : takes = waiter.demand.takes
  · rw [if_pos own]
    rwa [if_pos (by simp [own]), List.map_cons] at kept
  · rw [if_neg own]
    rwa [if_neg (by simpa using fun same => own same.symm)] at kept

theorem bell_enroll (queue : BoundedQueue Item Task) (waiter : Waiter Item Task) (takes : Bool) :
    (queue.enroll waiter).bell takes =
      if takes = waiter.demand.takes then
        (queue.bell takes).takePermit.1.enroll waiter.task
      else queue.bell takes := by
  obtain ⟨task, demand, timeout, deadline⟩ := waiter
  cases demand <;> cases takes <;> rfl

/-- Waiting, leaving and running change neither the items nor the room for them. -/
theorem enroll_frame (queue : BoundedQueue Item Task) (waiter : Waiter Item Task) :
    (queue.enroll waiter).items = queue.items ∧ (queue.enroll waiter).capacity = queue.capacity ∧
      (queue.enroll waiter).waiters = queue.waiters ++ [waiter] := by
  obtain ⟨task, demand, timeout, deadline⟩ := waiter
  cases demand <;> exact ⟨rfl, rfl, rfl⟩

theorem supply_congr {queue other : BoundedQueue Item Task} (items : other.items = queue.items)
    (capacity : other.capacity = queue.capacity) (takes : Bool) :
    other.supply takes = queue.supply takes := by
  rw [supply, supply, items, capacity]

/-- The queue lists one call more than before. -/
theorem Listed.more {queue after : BoundedQueue Item Task} (listed : queue.Listed)
    {waiter : Waiter Item Task} (waiters : (waiter :: queue.waiters).Perm after.waiters)
    (fresh : waiter.task ∉ queue.waiters.map Waiter.task)
    (members : ∀ takes, (if takes = waiter.demand.takes then
        waiter.task :: (queue.bell takes).members else (queue.bell takes).members).Perm
      (after.bell takes).members) : after.Listed := by
  refine ⟨?_, fun takes => ?_⟩
  · exact (waiters.map Waiter.task).nodup_iff.mp (List.nodup_cons.mpr ⟨fresh, listed.distinct⟩)
  · have among := members takes
    have crowd := crowd_cons waiters takes
    split at among
    next own =>
      rw [if_pos own] at crowd
      exact among.symm.trans (((listed.members takes).cons waiter.task).trans crowd)
    next other =>
      rw [if_neg other] at crowd
      exact among.symm.trans ((listed.members takes).trans crowd)

/-- The queue lists one call less than before. -/
theorem Listed.fewer {queue after : BoundedQueue Item Task} (listed : queue.Listed)
    {waiter : Waiter Item Task} (waiters : (waiter :: after.waiters).Perm queue.waiters)
    (members : ∀ takes, (if takes = waiter.demand.takes then
        waiter.task :: (after.bell takes).members else (after.bell takes).members).Perm
      (queue.bell takes).members) : after.Listed := by
  refine ⟨?_, fun takes => ?_⟩
  · have distinct := (waiters.map Waiter.task).nodup_iff.mpr listed.distinct
    exact (List.nodup_cons.mp distinct).2
  · have among := members takes
    have crowd := crowd_cons waiters takes
    split at among
    next own =>
      rw [if_pos own] at crowd
      exact ((among.trans (listed.members takes)).trans crowd.symm).cons_inv
    next other =>
      rw [if_neg other] at crowd
      exact (among.trans (listed.members takes)).trans crowd.symm

/-- A waiting call is listed on its side. -/
theorem Listed.member {queue : BoundedQueue Item Task} (listed : queue.Listed)
    {waiter : Waiter Item Task} (waits : waiter ∈ queue.waiters) :
    waiter.task ∈ (queue.bell waiter.demand.takes).members := by
  rw [(listed.members _).mem_iff, crowd]
  exact List.mem_map_of_mem (List.mem_filter.mpr ⟨waits, by simp⟩)

theorem Listed.enroll {queue : BoundedQueue Item Task} (listed : queue.Listed)
    {waiter : Waiter Item Task} (fresh : waiter.task ∉ queue.waiters.map Waiter.task) :
    (queue.enroll waiter).Listed := by
  apply listed.more _ fresh
  · intro takes
    rw [bell_enroll]
    split
    · exact (Signal.members_enroll _ waiter.task).symm
    · exact .refl _
  · rw [(queue.enroll_frame waiter).2.2]
    exact (List.perm_append_singleton waiter queue.waiters).symm

/-- A call waits only where there is nothing to be had. -/
theorem Promised.enroll {queue : BoundedQueue Item Task} {waiter : Waiter Item Task}
    (promised : queue.Promised fun takes => if takes = waiter.demand.takes then 1 else 0)
    (short : queue.supply waiter.demand.takes = 0) :
    (queue.enroll waiter).Promised fun _ => 0 := by
  obtain ⟨items, capacity, _⟩ := queue.enroll_frame waiter
  intro takes waits
  rw [supply_congr items capacity]
  rw [bell_enroll] at waits ⊢
  by_cases own : takes = waiter.demand.takes
  · rw [own, short]
    exact Nat.zero_le _
  · rw [if_neg own] at waits ⊢
    simpa only [if_neg own] using promised takes waits

variable [DecidableEq Task]

/-- A woken call runs, and looks at the queue again. -/
def dismiss (queue : BoundedQueue Item Task) (waiter : Waiter Item Task) :
    BoundedQueue Item Task :=
  { queue.withSignal waiter.demand ((queue.signal waiter.demand).receive waiter.task) with
    waiters := queue.waiters.filter fun other => other.task != waiter.task }

theorem bell_leave (queue : BoundedQueue Item Task) (waiter : Waiter Item Task) (takes : Bool) :
    (queue.leave waiter).1.bell takes =
      if takes = waiter.demand.takes then ((queue.bell takes).leave waiter.task).1
      else queue.bell takes := by
  obtain ⟨task, demand, timeout, deadline⟩ := waiter
  cases demand <;> cases takes <;> rfl

theorem bell_dismiss (queue : BoundedQueue Item Task) (waiter : Waiter Item Task) (takes : Bool) :
    (queue.dismiss waiter).bell takes =
      if takes = waiter.demand.takes then (queue.bell takes).receive waiter.task
      else queue.bell takes := by
  obtain ⟨task, demand, timeout, deadline⟩ := waiter
  cases demand <;> cases takes <;> rfl

theorem leave_frame (queue : BoundedQueue Item Task) (waiter : Waiter Item Task) :
    (queue.leave waiter).1.items = queue.items ∧
      (queue.leave waiter).1.capacity = queue.capacity ∧
      (queue.leave waiter).1.waiters =
        queue.waiters.filter fun other => other.task != waiter.task := by
  obtain ⟨task, demand, timeout, deadline⟩ := waiter
  cases demand <;> exact ⟨rfl, rfl, rfl⟩

theorem dismiss_frame (queue : BoundedQueue Item Task) (waiter : Waiter Item Task) :
    (queue.dismiss waiter).items = queue.items ∧
      (queue.dismiss waiter).capacity = queue.capacity ∧
      (queue.dismiss waiter).waiters =
        queue.waiters.filter fun other => other.task != waiter.task := by
  obtain ⟨task, demand, timeout, deadline⟩ := waiter
  cases demand <;> exact ⟨rfl, rfl, rfl⟩

/-- The waiting call was woken and has not run yet. -/
def isWoken (queue : BoundedQueue Item Task) (waiter : Waiter Item Task) : Bool :=
  waiter.task ∈ (queue.signal waiter.demand).woken

/-- The calls on one side that wait and were not woken. -/
def dozing (queue : BoundedQueue Item Task) (takes : Bool) : List (Waiter Item Task) :=
  queue.waiters.filter fun waiter => waiter.demand.takes == takes && !queue.isWoken waiter

/-- The calls on one side that were woken and have not run yet. -/
def roused (queue : BoundedQueue Item Task) (takes : Bool) : List (Waiter Item Task) :=
  queue.waiters.filter fun waiter => waiter.demand.takes == takes && queue.isWoken waiter

/-- Exactly one call leaves. -/
theorem Listed.perm_leave {queue : BoundedQueue Item Task} (listed : queue.Listed)
    {waiter : Waiter Item Task} (waits : waiter ∈ queue.waiters) :
    (waiter :: (queue.leave waiter).1.waiters).Perm queue.waiters := by
  rw [(queue.leave_frame waiter).2.2]
  exact perm_others listed.distinct waits

/-- Exactly one call runs. -/
theorem Listed.perm_dismiss {queue : BoundedQueue Item Task} (listed : queue.Listed)
    {waiter : Waiter Item Task} (waits : waiter ∈ queue.waiters) :
    (waiter :: (queue.dismiss waiter).waiters).Perm queue.waiters := by
  rw [(queue.dismiss_frame waiter).2.2]
  exact perm_others listed.distinct waits

theorem Listed.leave {queue : BoundedQueue Item Task} (listed : queue.Listed)
    {waiter : Waiter Item Task} (waits : waiter ∈ queue.waiters) :
    (queue.leave waiter).1.Listed := by
  apply listed.fewer (listed.perm_leave waits)
  intro takes
  rw [bell_leave]
  split
  next own =>
    rw [own]
    exact Signal.members_leave _ (listed.member waits)
  · exact .refl _

theorem Listed.dismiss {queue : BoundedQueue Item Task} (listed : queue.Listed)
    {waiter : Waiter Item Task} (waits : waiter ∈ queue.waiters)
    (woken : waiter.task ∈ (queue.bell waiter.demand.takes).woken) :
    (queue.dismiss waiter).Listed := by
  apply listed.fewer (listed.perm_dismiss waits)
  intro takes
  rw [bell_dismiss]
  split
  next own =>
    rw [own]
    exact Signal.members_receive _ woken
  · exact .refl _

theorem Promised.leave {queue : BoundedQueue Item Task} {spare : Bool → Nat}
    (promised : queue.Promised spare) (waiter : Waiter Item Task) :
    (queue.leave waiter).1.Promised spare := by
  obtain ⟨items, capacity, _⟩ := queue.leave_frame waiter
  intro takes waits
  rw [supply_congr items capacity]
  rw [bell_leave] at waits ⊢
  by_cases own : takes = waiter.demand.takes
  · rw [if_pos own] at waits ⊢
    obtain ⟨others, kept⟩ := (queue.bell takes).woken_leave waits
    rw [kept]
    exact promised takes others
  · rw [if_neg own] at waits ⊢
    exact promised takes waits

/-- What a woken call was on its way to becomes a spare part when the call runs. -/
theorem Promised.dismiss {queue : BoundedQueue Item Task} (promised : queue.Promised fun _ => 0)
    {waiter : Waiter Item Task} (woken : waiter.task ∈ (queue.bell waiter.demand.takes).woken) :
    (queue.dismiss waiter).Promised fun takes => if takes = waiter.demand.takes then 1 else 0 := by
  obtain ⟨items, capacity, _⟩ := queue.dismiss_frame waiter
  intro takes waits
  rw [supply_congr items capacity]
  rw [bell_dismiss] at waits ⊢
  have promise := promised takes
  by_cases own : takes = waiter.demand.takes
  · simp only [if_pos own] at waits ⊢
    rw [Signal.length_receive _ (own ▸ woken)]
    exact promise waits
  · simp only [if_neg own] at waits ⊢
    exact promise waits

/-- Those of a side who were woken are exactly those whom its signal woke. -/
theorem Listed.length_roused {queue : BoundedQueue Item Task} (listed : queue.Listed)
    (takes : Bool) : (queue.roused takes).length = (queue.bell takes).woken.length := by
  have distinct : (queue.bell takes).members.Nodup := by
    rw [(listed.members takes).nodup_iff]
    exact listed.distinct.sublist (List.filter_sublist.map Waiter.task)
  have tasks : (queue.roused takes).map Waiter.task =
      (queue.crowd takes).filter (· ∈ (queue.bell takes).woken) := by
    rw [crowd, List.filter_map, List.filter_filter, roused]
    congr 1
    apply List.filter_congr
    intro waiter _
    rw [isWoken, signal_eq, Function.comp_apply, Bool.and_comm]
    cases own : waiter.demand.takes == takes with
    | true => rw [eq_of_beq own]
    | false => rw [Bool.and_false, Bool.and_false]
  have quiet : (queue.bell takes).waiting.filter (· ∈ (queue.bell takes).woken) = [] := by
    rw [List.filter_eq_nil_iff]
    intro task waits
    simpa using (List.nodup_append.mp distinct).2.2 task waits task
  calc (queue.roused takes).length
      = ((queue.crowd takes).filter (· ∈ (queue.bell takes).woken)).length := by
        rw [← tasks, List.length_map]
    _ = ((queue.bell takes).members.filter (· ∈ (queue.bell takes).woken)).length :=
        ((listed.members takes).symm.filter _).length_eq
    _ = (queue.bell takes).woken.length := by
        rw [Signal.members, List.filter_append, quiet, List.nil_append, List.filter_eq_self.mpr]
        intro task woken
        exact decide_eq_true woken

/-- A call that waits without being woken is one that its signal has not told yet. -/
theorem Listed.waits_of_dozing {queue : BoundedQueue Item Task} (listed : queue.Listed)
    {takes : Bool} (dozing : queue.dozing takes ≠ []) : (queue.bell takes).waiting ≠ [] := by
  obtain ⟨waiter, member⟩ := List.exists_mem_of_ne_nil _ dozing
  simp only [BoundedQueue.dozing, List.mem_filter, Bool.and_eq_true, beq_iff_eq] at member
  obtain ⟨waits, rfl, quiet⟩ := member
  rw [isWoken, signal_eq, Bool.not_eq_true', decide_eq_false_iff_not] at quiet
  exact List.ne_nil_of_mem ((List.mem_append.mp (listed.member waits)).resolve_right quiet)

end BoundedQueue

end ReliableTransport
