import ReliableTransport.Proofs.Pool.Runs
/-!
This module says how a pool lends its senders as long as nobody closes it. Sends begin, have turns,
get answers and are given up. A sender is free, or one send has it.
-/

namespace ReliableTransport

namespace Pool

open BoundedQueue (Look Waiter)

/-- A pool that nobody but these sends has used. -/
def Lending (size now : Nat) (sends : List Bytes) (pool : Pool Nat) : Prop :=
  ∃ service : Service, Service.Orderly size service {} ∧ service.pool = pool ∧
    service.now = now ∧ service.requests = sends.map .send

/-- A call that parks is found where it parked. -/
theorem lookup_park (pool : Pool Nat) (number : Nat) (stage : Stage) (other : Nat) :
    (pool.park number stage).calls.lookup other =
      if other = number then some stage else pool.calls.lookup other :=
  lookup_moved pool.calls number stage other

theorem lookup_remove (pool : Pool Nat) (number other : Nat) :
    (pool.remove number).calls.lookup other =
      if other = number then none else pool.calls.lookup other :=
  lookup_struck pool.calls number other

namespace Lending

variable {size now number sender : Nat} {sends : List Bytes} {pool : Pool Nat} {stage : Stage}

/-- A pool that was just filled. -/
theorem founded {timeout : Nat} {fresh : Pool Nat} (created : create size timeout = .ok fresh)
    (now : Nat) : Lending size now [] (stocked size timeout size) := by
  obtain ⟨positive, _⟩ := create_eq_ok created
  have room : Memory.hasRoom size senderSize = true := by
    by_contra full
    simp [create, BoundedQueue.create, Nat.ne_of_gt positive, full, bind, Except.bind] at created
  have opened := Service.opened_founded positive room timeout
  obtain ⟨_, begun, effects, _, same⟩ := opened.eq_stocked
  refine ⟨(Service.opened size timeout).step (.pass now), ?_, ?_, ?_, ?_⟩
  · exact opened.orderly.step (opened.orderly.happens (.pass now))
  · show (Service.opened size timeout).pool = _
    rw [same]
  · exact Nat.zero_add now
  · rfl

theorem send (lending : Lending size now sends pool) (data : Bytes) :
    Lending size now (sends ++ [data]) (pool.begin now sends.length (.send data)).1 := by
  obtain ⟨service, orderly, rfl, rfl, made⟩ := lending
  refine ⟨service.step (.request (.send data)), orderly.step (orderly.happens _), ?_, rfl, ?_⟩
  · show (service.pool.begin service.now service.requests.length (.send data)).1 = _
    rw [made, List.length_map]
  · show service.requests ++ [.send data] = _
    rw [made, List.map_append, List.map_singleton]

theorem turn (lending : Lending size now sends pool) (number : Nat) :
    Lending size now sends (pool.resume now number).1 := by
  obtain ⟨service, orderly, rfl, rfl, made⟩ := lending
  exact ⟨service.step (.turn number), orderly.step (orderly.happens _), rfl, rfl, made⟩

theorem answer (lending : Lending size now sends pool) (number : Nat) (answer : Answer) :
    Lending size now sends (pool.answered now number answer).1 := by
  obtain ⟨service, orderly, rfl, rfl, made⟩ := lending
  exact ⟨service.step (.answer number answer), orderly.step (orderly.happens _), rfl, rfl, made⟩

theorem abandon (lending : Lending size now sends pool) (number : Nat) :
    Lending size now sends (pool.abandon number).1 := by
  obtain ⟨service, orderly, rfl, rfl, made⟩ := lending
  exact ⟨service.step (.abandon number), orderly.step (orderly.happens _), rfl, rfl, made⟩

theorem pass (lending : Lending size now sends pool) (millis : Nat) :
    Lending size (now + millis) sends pool := by
  obtain ⟨service, orderly, rfl, rfl, made⟩ := lending
  exact ⟨service.step (.pass millis), orderly.step (orderly.happens _), rfl, rfl, made⟩

/-- A send waits for a sender or has one. -/
theorem cases_stage (lending : Lending size now sends pool)
    (found : pool.calls.lookup number = some stage) :
    ∃ data, sends[number]? = some data ∧
      (stage = .waiting data ∨ (∃ sender, stage = .sending sender) ∨
        ∃ sender failure, stage = .reconnecting sender failure) := by
  obtain ⟨service, orderly, rfl, rfl, made⟩ := lending
  obtain ⟨request, known, fits⟩ := orderly.known found
  rw [made, List.getElem?_map, Option.map_eq_some_iff] at known
  obtain ⟨data, known, rfl⟩ := known
  refine ⟨data, known, ?_⟩
  cases fits with
  | waiting => exact .inl rfl
  | sending _ sender => exact .inr (.inl ⟨sender, rfl⟩)
  | reconnecting _ sender failure => exact .inr (.inr ⟨sender, failure, rfl⟩)

/-- A send that has begun has its data. -/
theorem known (lending : Lending size now sends pool)
    (found : pool.calls.lookup number = some stage) : number < sends.length := by
  obtain ⟨data, known, _⟩ := lending.cases_stage found
  exact (List.getElem?_eq_some_iff.mp known).1

theorem fresh (lending : Lending size now sends pool) :
    pool.calls.lookup sends.length = none := by
  cases found : pool.calls.lookup sends.length with
  | none => rfl
  | some stage => exact absurd (lending.known found) (Nat.lt_irrefl _)

/-- There is room for a sender that a send gives back. -/
theorem push (lending : Lending size now sends pool)
    (found : pool.calls.lookup number = some stage) (leased : stage.leased? = some sender) :
    ∃ queue woken, pool.queue.push? sender = some (queue, woken) ∧
      queue.items = pool.queue.items ++ [sender] := by
  obtain ⟨service, orderly, rfl, rfl, _⟩ := lending
  obtain ⟨queue, woken, pushed⟩ := orderly.push found leased
  refine ⟨queue, woken, pushed, ?_⟩
  rw [BoundedQueue.push?] at pushed
  split at pushed
  · exact congrArg BoundedQueue.items (Prod.mk.inj (Option.some.inj pushed)).1.symm
  · cases pushed

/-- A sender that is free is free once, and no send has it. -/
theorem nodup (lending : Lending size now sends pool) :
    (pool.queue.items ++ pool.leased).Nodup := by
  obtain ⟨service, orderly, rfl, rfl, _⟩ := lending
  have distinct := orderly.senders.nodup_iff.mpr List.nodup_range
  rw [List.append_assoc, List.append_assoc, List.nodup_append] at distinct
  exact distinct.1

theorem free_apart (lending : Lending size now sends pool) (free : sender ∈ pool.queue.items)
    {other : Nat} (found : pool.calls.lookup number = some stage)
    (leased : stage.leased? = some other) : other ≠ sender := by
  have among : other ∈ pool.leased :=
    List.mem_filterMap.mpr ⟨(number, stage), mem_of_lookup found, leased⟩
  exact fun same => (List.nodup_append.mp lending.nodup).2.2 sender free other among same.symm

/-- Two sends do not have the same sender. -/
theorem leased_apart (lending : Lending size now sends pool) {one two first second : Nat}
    {mine yours : Stage} (different : two ≠ one) (found : pool.calls.lookup one = some mine)
    (leased : mine.leased? = some first) (other : pool.calls.lookup two = some yours)
    (lent : yours.leased? = some second) : second ≠ first := by
  have distinct := (List.nodup_append.mp lending.nodup).2.1
  obtain ⟨service, orderly, rfl, rfl, _⟩ := lending
  have lifted := Service.leased_lift (orderly.perm_lift found)
  rw [leased] at lifted
  have apart := (lifted.nodup_iff.mpr distinct)
  have kept : (service.lift one).pool.calls.lookup two = some yours := by
    rw [Service.lift, lookup_remove, if_neg different]
    exact other
  have among : second ∈ (service.lift one).pool.leased :=
    List.mem_filterMap.mpr ⟨(two, yours), mem_of_lookup kept, lent⟩
  rintro rfl
  exact (List.nodup_cons.mp apart).1 among

/-- The first look of a new send for a sender. -/
theorem search_start (lending : Lending size now sends pool) :
    Search now pool.timeout sends.length [] pool.queue
      (pool.queue.start now sends.length .pop pool.timeout) := by
  obtain ⟨service, orderly, rfl, rfl, made⟩ := lending
  have absent := orderly.absent
  rw [made, List.length_map] at absent
  exact Pool.search_start orderly.sound orderly.poppers absent

/-- Another look of a send that waits. -/
theorem search_resume (lending : Lending size now sends pool) {data : Bytes}
    (waits : pool.calls.lookup number = some (.waiting data)) :
    Search now pool.timeout number [number] pool.queue (pool.queue.resume now number) := by
  obtain ⟨service, orderly, rfl, rfl, _⟩ := lending
  exact Pool.search_resume orderly.sound orderly.poppers (orderly.waits waits rfl)

end Lending

/-- A call that gives up its wait leaves the free senders alone. -/
theorem items_abandon (queue : BoundedQueue Nat Nat) (number : Nat) :
    (queue.abandon number).1.items = queue.items := by
  rw [BoundedQueue.abandon]
  cases queue.waiter? number with
  | none => rfl
  | some waiter => exact (queue.leave_frame waiter).1

end Pool

end ReliableTransport
