/-!
This module holds what all components have in common. Calls on a component are tasks that take
turns. A turn lasts from one waiting point of a call to the next one, and nothing else happens
during it. What a turn does beyond the component's own state is a list of effects.
-/

namespace ReliableTransport

/-- What a turn does beyond the state. -/
inductive Effect (Task Order Result : Type) where
  /-- A task can run. -/
  | ready (task : Task)
  /-- A task can run once no other can. -/
  | aside (task : Task)
  /-- A task can run once an instant is reached. -/
  | alarm (task : Task) (due : Nat)
  /-- A task asks the outside for something. -/
  | order (task : Task) (what : Order)
  /-- A call is over. -/
  | done (task : Task) (result : Result)
  deriving Repr

/-- What a turn asks of the outside, in order. -/
def Effect.orders {Task Order Result : Type} (effects : List (Effect Task Order Result)) :
    List Order :=
  effects.filterMap fun effect =>
    match effect with
    | .order _ what => some what
    | _ => none

@[simp] theorem Effect.orders_nil {Task Order Result : Type} :
    Effect.orders ([] : List (Effect Task Order Result)) = [] := rfl

@[simp] theorem Effect.orders_order {Task Order Result : Type} (task : Task) (what : Order)
    (effects : List (Effect Task Order Result)) :
    Effect.orders (.order task what :: effects) = what :: Effect.orders effects := rfl

@[simp] theorem Effect.orders_done {Task Order Result : Type} (task : Task) (result : Result)
    (effects : List (Effect Task Order Result)) :
    Effect.orders (.done task result :: effects) = Effect.orders effects := rfl

@[simp] theorem Effect.orders_append {Task Order Result : Type}
    (front back : List (Effect Task Order Result)) :
    Effect.orders (front ++ back) = Effect.orders front ++ Effect.orders back :=
  List.filterMap_append

/-- Waking tasks asks nothing of the outside. -/
@[simp] theorem Effect.orders_ready {Task Order Result : Type} (woken : List Task) :
    Effect.orders (woken.map .ready : List (Effect Task Order Result)) = [] := by
  induction woken with
  | nil => rfl
  | cons _ rest ih => exact ih

/-- The calls that are over after a turn, with their results, in order. -/
def Effect.results {Task Order Result : Type} (effects : List (Effect Task Order Result)) :
    List (Task × Result) :=
  effects.filterMap fun effect =>
    match effect with
    | .done task result => some (task, result)
    | _ => none

@[simp] theorem Effect.results_append {Task Order Result : Type}
    (front back : List (Effect Task Order Result)) :
    Effect.results (front ++ back) = Effect.results front ++ Effect.results back :=
  List.filterMap_append

/-- Waking tasks ends no call. -/
@[simp] theorem Effect.results_ready {Task Order Result : Type} (woken : List Task) :
    Effect.results (woken.map .ready : List (Effect Task Order Result)) = [] := by
  induction woken with
  | nil => rfl
  | cons _ rest ih => exact ih

/-- A state and what was done to reach it. -/
abbrev Turn (State Task Order Result : Type) := State × List (Effect Task Order Result)

/-- Goes on from the state that a turn reached. -/
def Turn.andThen {State Task Order Result : Type} (turn : Turn State Task Order Result)
    (next : State → Turn State Task Order Result) : Turn State Task Order Result :=
  let (state, effects) := next turn.1
  (state, turn.2 ++ effects)

@[simp] theorem Turn.andThen_fst {State Task Order Result : Type}
    (turn : Turn State Task Order Result) (next : State → Turn State Task Order Result) :
    (turn.andThen next).1 = (next turn.1).1 := rfl

@[simp] theorem Turn.andThen_snd {State Task Order Result : Type}
    (turn : Turn State Task Order Result) (next : State → Turn State Task Order Result) :
    (turn.andThen next).2 = turn.2 ++ (next turn.1).2 := rfl

/-- It does not matter which of two steps a third one is added to. -/
theorem Turn.andThen_assoc {State Task Order Result : Type}
    (turn : Turn State Task Order Result) (next last : State → Turn State Task Order Result) :
    (turn.andThen next).andThen last = turn.andThen fun state => (next state).andThen last := by
  simp [Turn.andThen]

/-- A component is a set of turns over its state. Each turn is told the time. -/
structure Component (State Task Call Order Answer Result : Type) where
  /-- The first turn of a call. -/
  start : Nat → Task → Call → State → Turn State Task Order Result
  /-- A turn of a task that was woken or whose alarm went off. -/
  resume : Nat → Task → State → Turn State Task Order Result
  /-- A turn of a task whose order was answered. -/
  answer : Nat → Task → Answer → State → Turn State Task Order Result
  /-- Gives a call up at the point where it waits. -/
  abandon : Task → State → Turn State Task Order Result

/-- A task that is struck off a list has no entry there any more, and the others keep theirs. -/
theorem lookup_struck {Task Entry : Type} [DecidableEq Task] (entries : List (Task × Entry))
    (task other : Task) :
    (entries.filter fun entry => entry.1 != task).lookup other =
      if other = task then none else entries.lookup other := by
  induction entries with
  | nil => simp
  | cons entry rest ih =>
      obtain ⟨owner, kept⟩ := entry
      by_cases own : owner = task
      · subst own
        rw [List.filter_cons_of_neg (by simp), ih]
        by_cases same : other = owner
        · rw [if_pos same, if_pos same]
        · rw [if_neg same, if_neg same, List.lookup_cons, beq_eq_false_iff_ne.mpr same]
      · rw [List.filter_cons_of_pos (by simpa using own), List.lookup_cons, List.lookup_cons, ih]
        by_cases same : other = owner
        · subst same
          simp only [beq_self_eq_true, if_neg own]
        · rw [beq_eq_false_iff_ne.mpr same]

/-- A task that moves to the end of a list has its new entry there, and the others keep theirs. -/
theorem lookup_moved {Task Entry : Type} [DecidableEq Task] (entries : List (Task × Entry))
    (task : Task) (entry : Entry) (other : Task) :
    ((entries.filter fun entry => entry.1 != task) ++ [(task, entry)]).lookup other =
      if other = task then some entry else entries.lookup other := by
  rw [List.lookup_append, lookup_struck]
  by_cases same : other = task
  · simp [same]
  · have different : (other == task) = false := beq_eq_false_iff_ne.mpr same
    simp [same, List.lookup_cons, different]

theorem absent_of_lookup {Task Entry : Type} [DecidableEq Task] {entries : List (Task × Entry)}
    {task : Task} (missed : entries.lookup task = none) : task ∉ entries.map Prod.fst := by
  intro member
  obtain ⟨entry, among, rfl⟩ := List.mem_map.mp member
  simpa using List.lookup_eq_none_iff.mp missed entry among

/-- Striking off a task that has no entry does nothing. -/
theorem struck_of_absent {Task Entry : Type} [DecidableEq Task] {entries : List (Task × Entry)}
    {task : Task} (absent : task ∉ entries.map Prod.fst) :
    (entries.filter fun entry => entry.1 != task) = entries := by
  rw [List.filter_eq_self]
  intro entry among
  rw [bne_iff_ne]
  exact fun same => absent (List.mem_map.mpr ⟨entry, among, same⟩)

/-- Striking a task off a list takes one entry out of it, if no task has two. -/
theorem perm_struck {Task Entry : Type} [DecidableEq Task] {entries : List (Task × Entry)}
    {task : Task} {entry : Entry} (distinct : (entries.map Prod.fst).Nodup)
    (found : entries.lookup task = some entry) :
    ((task, entry) :: entries.filter fun entry => entry.1 != task).Perm entries := by
  induction entries with
  | nil => cases found
  | cons first rest ih =>
      obtain ⟨owner, kept⟩ := first
      rw [List.map_cons, List.nodup_cons] at distinct
      obtain ⟨absent, distinct⟩ := distinct
      by_cases own : task = owner
      · subst own
        obtain rfl : kept = entry := by simpa using found
        rw [List.filter_cons_of_neg (by simp), struck_of_absent absent]
      · have later : rest.lookup task = some entry := by
          rwa [List.lookup_cons, beq_eq_false_iff_ne.mpr own] at found
        rw [List.filter_cons_of_pos (by simpa using Ne.symm own)]
        exact (List.Perm.swap _ _ _).trans ((ih distinct later).cons _)

theorem mem_of_lookup {Task Entry : Type} [DecidableEq Task] {entries : List (Task × Entry)}
    {task : Task} {entry : Entry} (found : entries.lookup task = some entry) :
    (task, entry) ∈ entries := by
  obtain ⟨front, back, rfl, _⟩ := List.lookup_eq_some_iff.mp found
  exact List.mem_append_right front List.mem_cons_self

/-- An entry of a task is the one that is found, if no task has two. -/
theorem lookup_of_mem {Task Entry : Type} [DecidableEq Task] {entries : List (Task × Entry)}
    {task : Task} {entry : Entry} (distinct : (entries.map Prod.fst).Nodup)
    (among : (task, entry) ∈ entries) : entries.lookup task = some entry := by
  induction entries with
  | nil => cases among
  | cons first rest ih =>
      obtain ⟨owner, kept⟩ := first
      rw [List.map_cons, List.nodup_cons] at distinct
      obtain ⟨absent, distinct⟩ := distinct
      rcases List.mem_cons.mp among with same | later
      · obtain ⟨rfl, rfl⟩ := Prod.mk.inj same
        rw [List.lookup_cons, beq_self_eq_true]
      · have other : task ≠ owner := fun same =>
          absent (same ▸ List.mem_map.mpr ⟨(task, entry), later, rfl⟩)
        rw [List.lookup_cons, beq_eq_false_iff_ne.mpr other]
        exact ih distinct later

end ReliableTransport
