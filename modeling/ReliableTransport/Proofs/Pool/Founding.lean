import ReliableTransport.Proofs.Pool.Balance
/-!
This module says how a pool comes to be. A new pool makes and connects its senders one after the
other, and nobody uses it before the last one is there. Then all its senders are free.
-/

namespace ReliableTransport

namespace Pool

/-- Fills a new pool, with the answers that its orders get. -/
def filling (fresh : Pool Nat) (answers : List Answer) : PoolTurn Nat :=
  answers.foldl (fun turn answer => Turn.andThen turn (component.answer 0 0 answer))
    (component.start 0 0 .fill fresh)

/-- A pool that was filled and waits for its first use. -/
inductive Service.Founded (size timeout : Nat) : Service → Prop where
  | filled {fresh : Pool Nat} {answers : List Answer} {now : Nat}
      (created : create size timeout = .ok fresh)
      (ended : Effect.results (filling fresh answers).2 = [(0, .filled (.ok ()))]) :
      Founded size timeout
        { pool := (filling fresh answers).1
          now
          orders := Effect.orders (filling fresh answers).2 }

/-- The answers to a fill whose senders can all be made and connected. -/
def smooth (size : Nat) : List Answer :=
  (List.replicate size [.created (.ok ()), .connected (.ok ())]).flatten

/-- A pool whose first senders are there, all of them free. -/
def stocked (size timeout made : Nat) : Pool Nat where
  queue :=
    { capacity := size, items := List.range made, notEmpty := { permit := decide (0 < made) } }
  live := made
  timeout := timeout

/-- What was asked so far makes a number of senders, one after the other, and closes none. -/
structure Makes (count : Nat) (effects : List (Effect Nat Order Result)) : Prop where
  creates : (Effect.orders effects).filterMap Order.creates? = List.range count
  closes : (Effect.orders effects).filterMap Order.closes? = []

/-- How far a new pool has come. -/
inductive Fills (size timeout : Nat) : PoolTurn Nat → Prop where
  | creates {count : Nat} {effects : List (Effect Nat Order Result)} (more : count < size)
      (makes : Makes (count + 1) effects) (goesOn : Effect.results effects = []) :
      Fills size timeout
        ({ stocked size timeout count with calls := [(0, .creating count)] }, effects)
  | joins {count : Nat} {effects : List (Effect Nat Order Result)} (more : count < size)
      (makes : Makes (count + 1) effects) (goesOn : Effect.results effects = []) :
      Fills size timeout
        ({ stocked size timeout count with calls := [(0, .joining count)] }, effects)
  | ready {effects : List (Effect Nat Order Result)} (makes : Makes size effects) :
      Fills size timeout (stocked size timeout size, effects)
  | fails {pool : Pool Nat} {effects : List (Effect Nat Order Result)} {failure : Failure}
      (idle : pool.calls = []) (ended : Effect.results effects = [(0, .filled (.error failure))]) :
      Fills size timeout (pool, effects)

variable {size timeout count : Nat} {effects : List (Effect Nat Order Result)}

theorem Makes.more (makes : Makes count effects) :
    Makes (count + 1) (effects ++ [.order 0 (.create count)]) := by
  refine ⟨?_, ?_⟩
  · rw [Effect.orders_append, List.filterMap_append, makes.creates, List.range_succ]
    rfl
  · rw [Effect.orders_append, List.filterMap_append, makes.closes]
    rfl

theorem Makes.connect (makes : Makes count effects) (sender : Nat) :
    Makes count (effects ++ [.order 0 (.connect sender)]) := by
  refine ⟨?_, ?_⟩
  · rw [Effect.orders_append, List.filterMap_append, makes.creates]
    exact List.append_nil _
  · rw [Effect.orders_append, List.filterMap_append, makes.closes]
    rfl

theorem Makes.done (makes : Makes count effects) (result : Result) :
    Makes count (effects ++ [.done 0 result]) := by
  refine ⟨?_, ?_⟩
  · rw [Effect.orders_append, List.filterMap_append, makes.creates]
    exact List.append_nil _
  · rw [Effect.orders_append, List.filterMap_append, makes.closes]
    rfl

theorem fillNext_of_lt (more : count < size) {calls : List (Nat × Stage)}
    (alone : (calls.filter fun call => call.1 != 0) = []) :
    ({ stocked size timeout count with calls } : Pool Nat).fillNext 0 =
      ({ stocked size timeout count with calls := [(0, .creating count)] },
        [.order 0 (.create count)]) := by
  simp [fillNext, capacity, stocked, more, park, alone]

theorem fillNext_of_full {calls : List (Nat × Stage)}
    (alone : (calls.filter fun call => call.1 != 0) = []) :
    ({ stocked size timeout size with calls } : Pool Nat).fillNext 0 =
      (stocked size timeout size, [.done 0 (.filled (.ok ()))]) := by
  simp [fillNext, capacity, stocked, finish, remove, alone]

/-- A new pool goes on to its next sender, or is ready. -/
theorem Makes.next (makes : Makes count effects) (goesOn : Effect.results effects = [])
    (within : count ≤ size) {calls : List (Nat × Stage)}
    (alone : (calls.filter fun call => call.1 != 0) = []) :
    Fills size timeout
      (Turn.andThen ({ stocked size timeout count with calls }, effects)
        fun pool => pool.fillNext 0) := by
  by_cases more : count < size
  · rw [Turn.andThen, fillNext_of_lt more alone]
    exact .creates more makes.more (by rw [Effect.results_append, goesOn]; rfl)
  · obtain rfl : count = size := Nat.le_antisymm within (Nat.le_of_not_lt more)
    rw [Turn.andThen, fillNext_of_full alone]
    exact .ready (makes.done _)

theorem andThen_nothing {turn : PoolTurn Nat} {next : Pool Nat → PoolTurn Nat}
    (nothing : next turn.1 = (turn.1, [])) : Turn.andThen turn next = turn := by
  simp [Turn.andThen, nothing]

/-- A new sender that is connected is free. -/
theorem takeIn_stocked (more : count < size) (calls : List (Nat × Stage)) :
    ({ stocked size timeout count with calls } : Pool Nat).takeIn 0 count =
      ({ stocked size timeout (count + 1) with calls } : Pool Nat).fillNext 0 := by
  -- Nobody waits at the queue of a new pool, so its signal only keeps a permit.
  have pushed : (stocked size timeout count).queue.push? count =
      some ((stocked size timeout (count + 1)).queue, []) := by
    simp [BoundedQueue.push?, stocked, more, Signal.notify, List.range_succ]
  rw [takeIn]
  simp only [pushed]
  rfl

/-- An answer brings a new pool forward, or does not matter to it. -/
theorem Fills.step {turn : PoolTurn Nat} (fills : Fills size timeout turn) (answer : Answer) :
    Fills size timeout (Turn.andThen turn (component.answer 0 0 answer)) := by
  cases fills with
  | @creates count effects more makes goesOn =>
      cases answer with
      | created result =>
          cases result with
          | ok _ =>
              refine .joins more (makes.connect count) ?_
              rw [Effect.results_append, goesOn]
              rfl
          | error failure =>
              refine @Fills.fails _ _ _ _ failure rfl ?_
              rw [Effect.results_append, goesOn]
              rfl
      | connected | sent | closed =>
          rw [andThen_nothing rfl]
          exact .creates more makes goesOn
  | @joins count effects more makes goesOn =>
      cases answer with
      | connected result =>
          cases result with
          | ok _ =>
              have next : Fills size timeout
                  (Turn.andThen
                    ({ stocked size timeout (count + 1) with calls := [(0, .joining count)] },
                      effects) fun pool => pool.fillNext 0) := makes.next goesOn more rfl
              simp only [Turn.andThen, ← takeIn_stocked more] at next
              exact next
          | error failure =>
              refine @Fills.fails _ _ _ _ failure rfl ?_
              rw [Effect.results_append, goesOn]
              rfl
      | created | sent | closed =>
          rw [andThen_nothing rfl]
          exact .joins more makes goesOn
  | ready makes =>
      rw [andThen_nothing rfl]
      exact .ready makes
  | @fails pool effects failure idle ended =>
      have nothing : component.answer 0 0 answer pool = (pool, []) := by
        simp only [component, answered, idle]
        rfl
      rw [andThen_nothing nothing]
      exact .fails idle ended

theorem create_eq_ok {fresh : Pool Nat} (created : create size timeout = .ok fresh) :
    0 < size ∧ fresh = stocked size timeout 0 := by
  by_cases empty : size = 0
  · simp [create, BoundedQueue.create, empty, bind, Except.bind] at created
  · by_cases room : Memory.hasRoom size senderSize
    · simp only [create, BoundedQueue.create, if_neg empty, if_pos room, bind, Except.bind, pure,
        Except.pure, Except.ok.injEq] at created
      exact ⟨Nat.pos_of_ne_zero empty, created.symm⟩
    · simp [create, BoundedQueue.create, empty, room, bind, Except.bind] at created

theorem filling_fills {fresh : Pool Nat} (created : create size timeout = .ok fresh)
    (answers : List Answer) : Fills size timeout (filling fresh answers) := by
  obtain ⟨positive, rfl⟩ := create_eq_ok created
  have begun : Fills size timeout (component.start 0 0 .fill (stocked size timeout 0)) :=
    @Makes.next size timeout 0 [] ⟨rfl, rfl⟩ rfl (Nat.zero_le size) [] rfl
  rw [filling]
  generalize component.start 0 0 .fill (stocked size timeout 0) = turn at begun ⊢
  induction answers generalizing turn with
  | nil => exact begun
  | cons answer rest ih => exact ih _ (begun.step answer)

theorem stocked_sound (size timeout : Nat) : (stocked size timeout size).queue.Sound := by
  refine ⟨Nat.le_of_eq List.length_range, ⟨List.nodup_nil, fun takes => ?_⟩, fun takes waits => ?_⟩
  · cases takes <;> exact .refl _
  · cases takes <;> exact absurd rfl waits

/-- The next sender of a new pool can be made and connected. -/
theorem fold_round (more : count < size) (effects : List (Effect Nat Order Result)) :
    [Answer.created (.ok ()), .connected (.ok ())].foldl
      (fun turn answer => Turn.andThen turn (component.answer 0 0 answer))
      ({ stocked size timeout count with calls := [(0, .creating count)] }, effects) =
        Turn.andThen ({ stocked size timeout (count + 1) with calls := [(0, .joining count)] },
          effects ++ [.order 0 (.connect count)]) fun pool => pool.fillNext 0 := by
  simp only [Turn.andThen, ← takeIn_stocked more]
  rfl

/-- A new pool is ready once the senders that it still lacks are there. -/
theorem results_smooth (left : Nat) (lacks : count + (left + 1) = size)
    (goesOn : Effect.results effects = []) :
    Effect.results ((smooth (left + 1)).foldl
      (fun turn answer => Turn.andThen turn (component.answer 0 0 answer))
      ({ stocked size timeout count with calls := [(0, .creating count)] }, effects)).2 =
        [(0, .filled (.ok ()))] := by
  induction left generalizing count effects with
  | zero =>
      subst lacks
      rw [smooth, List.replicate_succ, List.flatten_cons, List.foldl_append,
        fold_round (Nat.lt_succ_self count), Turn.andThen, fillNext_of_full rfl]
      show Effect.results (effects ++ [.order 0 (.connect count)] ++ _) = _
      rw [Effect.results_append, Effect.results_append, goesOn]
      rfl
  | succ left ih =>
      rw [smooth, List.replicate_succ, List.flatten_cons, List.foldl_append,
        fold_round (show count < size by omega), Turn.andThen,
        fillNext_of_lt (show count + 1 < size by omega) rfl]
      refine ih (by omega) ?_
      rw [Effect.results_append, Effect.results_append, goesOn]
      rfl

namespace Service

/-- All senders of a pool that was filled are free. -/
theorem Founded.eq_stocked {service : Service} (founded : Founded size timeout service) :
    0 < size ∧ ∃ now effects, Makes size effects ∧
      service = { pool := stocked size timeout size, now, orders := Effect.orders effects } := by
  cases founded with
  | @filled fresh answers now created ended =>
      have fills := filling_fills created answers
      refine ⟨(create_eq_ok created).1, now, ?_⟩
      generalize filling fresh answers = turn at fills ended
      cases fills with
      | creates _ _ goesOn | joins _ _ goesOn => cases ended.symm.trans goesOn
      | fails _ failed =>
          have same := ended.symm.trans failed
          simp at same
      | @ready effects makes => exact ⟨effects, makes, rfl⟩

theorem Founded.live {service : Service} (founded : Founded size timeout service) :
    0 < service.pool.live := by
  obtain ⟨positive, _, _, _, rfl⟩ := founded.eq_stocked
  exact positive

theorem Founded.timeout_eq {service : Service} (founded : Founded size timeout service) :
    service.pool.timeout = timeout := by
  obtain ⟨_, _, _, _, rfl⟩ := founded.eq_stocked
  rfl

/-- A pool that was filled is in order. -/
theorem Founded.orderly {service : Service} (founded : Founded size timeout service) :
    Orderly size service {} := by
  obtain ⟨_, now, effects, makes, rfl⟩ := founded.eq_stocked
  exact {
    sound := stocked_sound size timeout
    capacity := rfl
    poppers := fun _ waits => by cases waits
    waiting := .refl _
    placed := .refl _
    fits := fun _ among => by cases among
    yields := fun _ among => by cases among
    senders := by simp [stocked, leased, closing, lost]
    live := rfl
    told := by simp [makes.closes, stocked, closing, lost]
    made := makes.creates
    shut := fun among => by cases among
    emptied := fun _ among => by cases among }

/-- A pool whose senders could all be made and connected at once. -/
def opened (size timeout : Nat) : Service where
  pool := (filling (stocked size timeout 0) (smooth size)).1
  orders := Effect.orders (filling (stocked size timeout 0) (smooth size)).2

/-- A pool that memory has room for can be filled. -/
theorem opened_founded (positive : 0 < size) (room : Memory.hasRoom size senderSize = true)
    (timeout : Nat) : Founded size timeout (opened size timeout) := by
  obtain ⟨left, rfl⟩ : ∃ left, size = left + 1 := ⟨size - 1, by omega⟩
  have created : create (left + 1) timeout = .ok (stocked (left + 1) timeout 0) := by
    simp only [create, BoundedQueue.create, if_neg (Nat.succ_ne_zero left), if_pos room]
    rfl
  refine .filled created ?_
  have begun : component.start 0 0 .fill (stocked (left + 1) timeout 0) =
      ({ stocked (left + 1) timeout 0 with calls := [(0, .creating 0)] },
        [.order 0 (.create 0)]) := @fillNext_of_lt _ _ _ (Nat.succ_pos left) [] rfl
  rw [filling, begun]
  exact results_smooth left (Nat.zero_add _) rfl

end Service

end Pool

end ReliableTransport
