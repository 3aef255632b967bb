import ReliableTransport.Proofs.Pool.Service
/-!
This module says where the senders of a pool are. Each of them is free, or a send has it, or a close
does, or it is closed, or it is lost with a close that was given up. Only one call at a time changes
places, and what it takes out of one place it puts into another.
-/

namespace ReliableTransport

namespace Pool

open BoundedQueue (Look Waiter)

/-- The points at which a call can wait. -/
inductive Request.Fits : Request → Stage → Prop where
  | waiting (data : Bytes) : Fits (.send data) (.waiting data)
  | sending (data : Bytes) (sender : Nat) : Fits (.send data) (.sending sender)
  | reconnecting (data : Bytes) (sender : Nat) (failure : Failure) :
      Fits (.send data) (.reconnecting sender failure)
  | draining : Fits .close .draining
  | closing (sender : Nat) : Fits .close (.closing sender)

/-- What a call can answer. -/
inductive Request.Yields : Request → Result → Prop where
  | sent (data : Bytes) (result : Except Failure Nat) : Yields (.send data) (.sent result)
  | closed (result : Except Failure Unit) : Yields .close (.closed result)

/-- What a call that has its turn took out of its place. -/
structure Hand where
  /-- The call itself. -/
  calls : List Nat := []
  senders : List Nat := []
  /-- The sender that the call closes. -/
  closing : List Nat := []
  /-- The call, if it still waits in the queue. -/
  waiting : List Nat := []

/-- What a call takes from the point at which it waits. -/
def Hand.of (number : Nat) (stage : Stage) : Hand where
  calls := [number]
  senders := stage.leased?.toList
  closing := stage.closing?.toList
  waiting := if stage.seeks then [number] else []

theorem Hand.of_leased {stage : Stage} {sender : Nat} (leased : stage.leased? = some sender)
    (number : Nat) : Hand.of number stage = { calls := [number], senders := [sender] } := by
  cases stage <;> cases leased <;> rfl

theorem Hand.of_seeks {stage : Stage} (seeks : stage.seeks = true) (number : Nat) :
    Hand.of number stage = { calls := [number], waiting := [number] } := by
  cases stage <;> cases seeks <;> rfl

namespace Service

/-- A pool in order, while a call may have its turn. -/
structure Orderly (size : Nat) (service : Service) (hand : Hand) : Prop where
  sound : service.pool.queue.Sound
  capacity : service.pool.queue.capacity = size
  poppers : Poppers service.now service.pool.timeout service.pool.queue
  waiting : (service.pool.queue.waiters.map Waiter.task).Perm
    (hand.waiting ++ service.pool.seekers)
  placed : (hand.calls ++ service.pool.calls.map Prod.fst ++
    service.endings.map Ending.number ++ service.dropped.map Prod.fst).Perm
      (List.range service.requests.length)
  fits : ∀ entry ∈ service.pool.calls ++ service.dropped, ∃ request,
    service.requests[entry.1]? = some request ∧ request.Fits entry.2
  yields : ∀ ending ∈ service.endings, ∃ request,
    service.requests[ending.number]? = some request ∧ request.Yields ending.result
  senders : (service.pool.queue.items ++ (hand.senders ++ service.pool.leased) ++
    (hand.closing ++ service.pool.closing) ++ service.closed ++ service.lost).Perm
      (List.range size)
  live : service.pool.live + service.closed.length = size
  told : (service.orders.filterMap Order.closes?).Perm
    (hand.closing ++ service.pool.closing ++ service.closed ++ service.lost)
  made : service.orders.filterMap Order.creates? = List.range size
  shut : .close ∈ service.requests → service.pool.closed = true
  emptied : ∀ ending ∈ service.endings, ending.result = .closed (.ok ()) →
    service.pool.live = 0

variable {size : Nat} {service : Service} {hand : Hand} {number : Nat} {stage : Stage}

theorem Orderly.distinct (orderly : Orderly size service hand) :
    (service.pool.calls.map Prod.fst).Nodup := by
  have distinct := orderly.placed.nodup_iff.mpr List.nodup_range
  rw [List.append_assoc, List.append_assoc, List.nodup_append] at distinct
  exact (List.nodup_append.mp distinct.2.1).1

/-- The calls without the one that leaves. -/
theorem perm_lift {calls : List (Nat × Stage)} (distinct : (calls.map Prod.fst).Nodup)
    (found : calls.lookup number = some stage) :
    ((number, stage) :: calls.filter fun call => call.1 != number).Perm calls :=
  perm_struck distinct found

theorem filterMap_lift {Place Thing : Type} {first : Place} {rest all : List Place}
    (perm : (first :: rest).Perm all) (place : Place → Option Thing) :
    ((place first).toList ++ rest.filterMap place).Perm (all.filterMap place) := by
  have kept := perm.filterMap place
  rw [List.filterMap_cons] at kept
  cases placed : place first with
  | none => rwa [placed] at kept
  | some thing => rwa [placed] at kept

/-- A pool with one more call has what the call has. -/
theorem leased_lift {pool whole : Pool Nat}
    (perm : ((number, stage) :: pool.calls).Perm whole.calls) :
    (stage.leased?.toList ++ pool.leased).Perm whole.leased :=
  filterMap_lift perm fun call => call.2.leased?

theorem closing_lift {pool whole : Pool Nat}
    (perm : ((number, stage) :: pool.calls).Perm whole.calls) :
    (stage.closing?.toList ++ pool.closing).Perm whole.closing :=
  filterMap_lift perm fun call => call.2.closing?

theorem seekers_lift {pool whole : Pool Nat}
    (perm : ((number, stage) :: pool.calls).Perm whole.calls) :
    ((if stage.seeks then [number] else []) ++ pool.seekers).Perm whole.seekers := by
  have kept := (perm.filter fun call => call.2.seeks).map Prod.fst
  rw [List.filter_cons] at kept
  cases seeks : stage.seeks with
  | true =>
      rw [if_pos seeks] at kept
      exact kept
  | false =>
      rw [if_neg (Bool.eq_false_iff.mp seeks)] at kept
      exact kept

theorem Orderly.perm_lift (orderly : Orderly size service hand)
    (found : service.pool.calls.lookup number = some stage) :
    ((number, stage) :: (service.lift number).pool.calls).Perm service.pool.calls :=
  Service.perm_lift orderly.distinct found

theorem Orderly.mem_of_found (orderly : Orderly size service hand)
    (found : service.pool.calls.lookup number = some stage) :
    (number, stage) ∈ service.pool.calls :=
  (orderly.perm_lift found).subset List.mem_cons_self

theorem Orderly.found_of_mem (orderly : Orderly size service hand)
    (stands : (number, stage) ∈ service.pool.calls) :
    service.pool.calls.lookup number = some stage :=
  lookup_of_mem orderly.distinct stands

/-- A call waits only where calls of its kind do. -/
theorem Orderly.known (orderly : Orderly size service hand)
    (found : service.pool.calls.lookup number = some stage) :
    ∃ request, service.requests[number]? = some request ∧ request.Fits stage :=
  orderly.fits (number, stage) (List.mem_append_left _ (orderly.mem_of_found found))

/-- A call is taken out of its place with all that it has. -/
theorem Orderly.lift (orderly : Orderly size service {})
    (found : service.pool.calls.lookup number = some stage) :
    Orderly size (service.lift number) (.of number stage) := by
  have perm := orderly.perm_lift found
  have closing := closing_lift perm
  have placed : ([number] ++ (service.lift number).pool.calls.map Prod.fst ++
      service.endings.map Ending.number ++ service.dropped.map Prod.fst).Perm
        (List.range service.requests.length) := by
    have calls : ([number] ++ (service.lift number).pool.calls.map Prod.fst).Perm
        (service.pool.calls.map Prod.fst) := perm.map Prod.fst
    exact ((calls.append_right _).append_right _).trans orderly.placed
  have fits : ∀ entry ∈ (service.lift number).pool.calls ++ service.dropped, ∃ request,
      service.requests[entry.1]? = some request ∧ request.Fits entry.2 := by
    intro entry among
    rcases List.mem_append.mp among with waits | gone
    · exact orderly.fits entry (List.mem_append_left _ (List.mem_of_mem_filter waits))
    · exact orderly.fits entry (List.mem_append_right _ gone)
  have senders : (service.pool.queue.items ++
      (stage.leased?.toList ++ (service.lift number).pool.leased) ++
      (stage.closing?.toList ++ (service.lift number).pool.closing) ++ service.closed ++
      service.lost).Perm (List.range size) :=
    (((((leased_lift perm).append_left _).append closing).append_right _).append_right _).trans
      orderly.senders
  have told : (service.orders.filterMap Order.closes?).Perm
      (stage.closing?.toList ++ (service.lift number).pool.closing ++ service.closed ++
        service.lost) :=
    orderly.told.trans ((closing.symm.append_right _).append_right _)
  exact { orderly with
    waiting := orderly.waiting.trans (seekers_lift perm).symm
    placed, fits, senders, told }

/-- A call waits with all that it has. -/
theorem Orderly.wait (orderly : Orderly size service (.of number stage)) {request : Request}
    (known : service.requests[number]? = some request) (fits : request.Fits stage) :
    Orderly size (service.wait number stage) {} := by
  have perm : ((number, stage) :: service.pool.calls).Perm
      (service.wait number stage).pool.calls := (List.perm_append_singleton _ _).symm
  have closing := closing_lift perm
  have placed : ((service.wait number stage).pool.calls.map Prod.fst ++
      service.endings.map Ending.number ++ service.dropped.map Prod.fst).Perm
        (List.range service.requests.length) :=
    (((perm.symm.map Prod.fst).append_right _).append_right _).trans orderly.placed
  have fits : ∀ entry ∈ (service.wait number stage).pool.calls ++ service.dropped, ∃ request,
      service.requests[entry.1]? = some request ∧ request.Fits entry.2 := by
    intro entry among
    rcases List.mem_append.mp among with waits | gone
    · rcases List.mem_append.mp waits with earlier | latest
      · exact orderly.fits entry (List.mem_append_left _ earlier)
      · obtain rfl := List.mem_singleton.mp latest
        exact ⟨request, known, fits⟩
    · exact orderly.fits entry (List.mem_append_right _ gone)
  have senders : (service.pool.queue.items ++ (service.wait number stage).pool.leased ++
      (service.wait number stage).pool.closing ++ service.closed ++ service.lost).Perm
        (List.range size) :=
    (((((leased_lift perm).symm.append_left _).append closing.symm).append_right _).append_right
      _).trans orderly.senders
  have told : (service.orders.filterMap Order.closes?).Perm
      ((service.wait number stage).pool.closing ++ service.closed ++ service.lost) :=
    orderly.told.trans ((closing.append_right _).append_right _)
  exact { orderly with
    waiting := orderly.waiting.trans (seekers_lift perm)
    placed, fits, senders, told }

/-- What is known of a call stays known. -/
theorem known_append {requests more : List Request} {request : Request}
    (known : requests[number]? = some request) : (requests ++ more)[number]? = some request :=
  (List.getElem?_append_left (List.getElem?_eq_some_iff.mp known).1).trans known

/-- A new call has a number of its own. -/
theorem Orderly.fresh (orderly : Orderly size service hand) :
    service.requests.length ∉ service.pool.calls.map Prod.fst := by
  intro member
  have among : service.requests.length ∈ List.range service.requests.length :=
    orderly.placed.subset (List.mem_append_left _ (List.mem_append_left _
      (List.mem_append_right _ member)))
  exact Nat.lt_irrefl _ (List.mem_range.mp among)

theorem lift_absent (absent : number ∉ service.pool.calls.map Prod.fst) :
    service.lift number = service := by
  rw [lift, remove, struck_of_absent absent]

theorem Orderly.accept (orderly : Orderly size service {}) (request : Request) :
    Orderly size ((service.accept request).lift service.requests.length)
      { calls := [service.requests.length] } := by
  have fits : ∀ entry ∈ service.pool.calls ++ service.dropped, ∃ made,
      (service.requests ++ [request])[entry.1]? = some made ∧ made.Fits entry.2 := by
    intro entry among
    obtain ⟨made, known, fits⟩ := orderly.fits entry among
    exact ⟨made, known_append known, fits⟩
  have yields : ∀ ending ∈ service.endings, ∃ made,
      (service.requests ++ [request])[ending.number]? = some made ∧
        made.Yields ending.result := by
    intro ending among
    obtain ⟨made, known, yields⟩ := orderly.yields ending among
    exact ⟨made, known_append known, yields⟩
  have placed : ([service.requests.length] ++ service.pool.calls.map Prod.fst ++
      service.endings.map Ending.number ++ service.dropped.map Prod.fst).Perm
        (List.range (service.requests ++ [request]).length) := by
    rw [List.length_append, List.length_singleton, List.range_succ]
    exact (orderly.placed.cons _).trans (List.perm_append_singleton _ _).symm
  have absent : service.requests.length ∉ (service.accept request).pool.calls.map Prod.fst := by
    cases request <;> exact orderly.fresh
  rw [lift_absent absent]
  cases request with
  | send data =>
      refine { orderly with fits, yields, placed, shut := fun member => orderly.shut ?_ }
      exact (List.mem_append.mp member).resolve_right (by simp)
  | close => exact { orderly with fits, yields, placed, shut := fun _ => rfl }

/-- The queue takes senders from a call or gives them to it. -/
theorem Orderly.requeue (orderly : Orderly size service hand) {queue : BoundedQueue Nat Nat}
    {senders waiting : List Nat} (sound : queue.Sound)
    (capacity : queue.capacity = service.pool.queue.capacity)
    (poppers : Poppers service.now service.pool.timeout queue)
    (waiters : ∀ others,
      (service.pool.queue.waiters.map Waiter.task).Perm (hand.waiting ++ others) →
        (queue.waiters.map Waiter.task).Perm (waiting ++ others))
    (moved : (queue.items ++ senders).Perm (service.pool.queue.items ++ hand.senders)) :
    Orderly size (service.requeue queue) { hand with senders, waiting } := by
  have senders : (queue.items ++ (senders ++ service.pool.leased) ++
      (hand.closing ++ service.pool.closing) ++ service.closed ++ service.lost).Perm
        (List.range size) := by
    have before := orderly.senders
    simp only [List.append_assoc] at before ⊢
    rw [← List.append_assoc] at before ⊢
    exact (moved.append_right _).trans before
  exact { orderly with
    sound, poppers, senders
    capacity := capacity.trans orderly.capacity
    waiting := waiters _ orderly.waiting }

/-- A call asks for something that makes and closes no sender. -/
theorem Orderly.ask (orderly : Orderly size service hand) {order : Order}
    (makes : order.creates? = none) (closes : order.closes? = none) :
    Orderly size (service.ask order) hand := by
  have told : (service.orders ++ [order]).filterMap Order.closes? =
      service.orders.filterMap Order.closes? := by
    rw [List.filterMap_append, List.filterMap_cons_none closes, List.filterMap_nil,
      List.append_nil]
  have made : (service.orders ++ [order]).filterMap Order.creates? =
      service.orders.filterMap Order.creates? := by
    rw [List.filterMap_append, List.filterMap_cons_none makes, List.filterMap_nil,
      List.append_nil]
  exact { orderly with told := told ▸ orderly.told, made := made.trans orderly.made }

/-- A call asks its sender to close. -/
theorem Orderly.askClose {sender : Nat}
    (orderly : Orderly size service { calls := [number], senders := [sender] }) :
    Orderly size (service.ask (.close sender)) { calls := [number], closing := [sender] } := by
  have told : ((service.orders ++ [Order.close sender]).filterMap Order.closes?).Perm
      ([sender] ++ service.pool.closing ++ service.closed ++ service.lost) := by
    rw [List.filterMap_append]
    exact (List.perm_append_singleton _ _).trans (orderly.told.cons sender)
  have made : (service.orders ++ [Order.close sender]).filterMap Order.creates? =
      List.range size := by
    rw [List.filterMap_append, orderly.made]
    exact List.append_nil _
  have senders : (service.pool.queue.items ++ service.pool.leased ++
      ([sender] ++ service.pool.closing) ++ service.closed ++ service.lost).Perm
        (List.range size) := by
    refine List.Perm.trans ?_ orderly.senders
    refine (List.Perm.append_right _ ?_).append_right _
    rw [List.append_assoc, List.append_assoc]
    exact (List.perm_middle.append_left _).trans (by simp)
  exact { orderly with told, made, senders }

/-- A call that has nothing is over. -/
theorem Orderly.conclude (orderly : Orderly size service { calls := [number] }) {request : Request}
    (known : service.requests[number]? = some request) {result : Result}
    (yields : request.Yields result)
    (emptied : result = .closed (.ok ()) → service.pool.live = 0) :
    Orderly size (service.conclude number result) {} := by
  have placed : (service.pool.calls.map Prod.fst ++ (service.conclude number result).endings.map
      Ending.number ++ service.dropped.map Prod.fst).Perm
        (List.range service.requests.length) := by
    refine List.Perm.trans (List.Perm.append_right _ ?_) orderly.placed
    rw [Service.conclude, List.map_append, ← List.append_assoc]
    exact List.perm_append_singleton _ _
  refine { orderly with placed, yields := ?_, emptied := ?_ }
  · intro ending among
    rcases List.mem_append.mp among with earlier | latest
    · exact orderly.yields ending earlier
    · obtain rfl := List.mem_singleton.mp latest
      exact ⟨request, known, yields⟩
  · intro ending among succeeded
    rcases List.mem_append.mp among with earlier | latest
    · exact orderly.emptied ending earlier succeeded
    · obtain rfl := List.mem_singleton.mp latest
      exact emptied succeeded

/-- The sender of a close is closed. -/
theorem Orderly.retire {sender : Nat}
    (orderly : Orderly size service { calls := [number], closing := [sender] }) :
    Orderly size (service.retire sender) { calls := [number] } := by
  -- One sender changes its place and the others stay, which is a matter of counting.
  have before := orderly.senders
  have live : service.pool.live - 1 + (service.closed ++ [sender]).length = size := by
    have all := before.length_eq
    have alive := orderly.live
    simp only [List.length_append, List.length_singleton, List.length_range] at all ⊢
    omega
  have senders : (service.pool.queue.items ++ service.pool.leased ++ service.pool.closing ++
      (service.closed ++ [sender]) ++ service.lost).Perm (List.range size) := by
    refine List.perm_iff_count.mpr fun one => ?_
    have all := before.count_eq one
    simp only [List.count_append, List.count_nil] at all ⊢
    omega
  have told : (service.orders.filterMap Order.closes?).Perm
      (service.pool.closing ++ (service.closed ++ [sender]) ++ service.lost) := by
    refine List.perm_iff_count.mpr fun one => ?_
    have all := orderly.told.count_eq one
    simp only [List.count_append] at all ⊢
    omega
  refine { orderly with live, senders, told, emptied := fun ending among succeeded => ?_ }
  exact Nat.sub_eq_zero_of_le (orderly.emptied ending among succeeded ▸ Nat.zero_le 1)

/-- A call that has no sender but the one that it closes is given up. -/
theorem Orderly.drop
    (orderly : Orderly size service { calls := [number], closing := stage.closing?.toList })
    {request : Request} (known : service.requests[number]? = some request)
    (fits : request.Fits stage) : Orderly size (service.drop number stage) {} := by
  have lost : (service.drop number stage).lost = service.lost ++ stage.closing?.toList := by
    rw [Service.lost, Service.drop, List.filterMap_append]
    cases stage <;> rfl
  have placed : (service.pool.calls.map Prod.fst ++ service.endings.map Ending.number ++
      (service.drop number stage).dropped.map Prod.fst).Perm
        (List.range service.requests.length) := by
    refine List.Perm.trans ?_ orderly.placed
    rw [Service.drop, List.map_append, ← List.append_assoc]
    exact List.perm_append_singleton _ _
  have fits : ∀ entry ∈ service.pool.calls ++ (service.drop number stage).dropped, ∃ request,
      service.requests[entry.1]? = some request ∧ request.Fits entry.2 := by
    intro entry among
    rw [Service.drop, ← List.append_assoc] at among
    rcases List.mem_append.mp among with earlier | latest
    · exact orderly.fits entry earlier
    · obtain rfl := List.mem_singleton.mp latest
      exact ⟨request, known, fits⟩
  have senders : (service.pool.queue.items ++ service.pool.leased ++ service.pool.closing ++
      service.closed ++ (service.drop number stage).lost).Perm (List.range size) := by
    rw [lost]
    refine List.perm_iff_count.mpr fun one => ?_
    have all := orderly.senders.count_eq one
    simp only [List.count_append, List.count_nil] at all ⊢
    omega
  have told : (service.orders.filterMap Order.closes?).Perm
      (service.pool.closing ++ service.closed ++ (service.drop number stage).lost) := by
    rw [lost]
    refine List.perm_iff_count.mpr fun one => ?_
    have all := orderly.told.count_eq one
    simp only [List.count_append] at all ⊢
    omega
  exact { orderly with placed, fits, senders, told }

/-- There is room for every sender that a call has. -/
theorem Orderly.room (orderly : Orderly size service hand) (holds : hand.senders ≠ []) :
    service.pool.queue.items.length < service.pool.queue.capacity := by
  have all := orderly.senders.length_eq
  have some := List.length_pos_iff.mpr holds
  simp only [List.length_append, List.length_range] at all
  rw [orderly.capacity]
  omega

/-- A sender that a call gives back is free. -/
theorem Orderly.giveBack {sender : Nat}
    (orderly : Orderly size service { calls := [number], senders := [sender] })
    {queue : BoundedQueue Nat Nat} {woken : List Nat}
    (pushed : service.pool.queue.push? sender = some (queue, woken)) :
    Orderly size (service.requeue queue) { calls := [number] } := by
  rcases service.pool.queue.push?_cases sender with ⟨refused, _⟩ | ⟨_, _, found, met⟩
  · cases pushed.symm.trans refused
  · cases pushed.symm.trans found
    have sound := met.sound orderly.sound
    cases met with
    | adds _ =>
        exact orderly.requeue sound rfl orderly.poppers (fun _ listed => listed)
          (List.Perm.of_eq (List.append_nil _))

/-- A call that is given up does not wait in the queue any more. -/
theorem Orderly.leaveQueue (orderly : Orderly size service
      { calls := [number], waiting := [number] })
    {waiter : Waiter Nat Nat} (waits : waiter ∈ service.pool.queue.waiters)
    (own : waiter.task = number) :
    Orderly size (service.requeue (service.pool.queue.leave waiter).1) { calls := [number] } := by
  obtain ⟨items, capacity, _⟩ := service.pool.queue.leave_frame waiter
  have perm := orderly.sound.listed.perm_leave waits
  refine orderly.requeue (orderly.sound.leave waits) capacity ?_ ?_ ?_
  · exact fun other among => orderly.poppers other (perm.subset (List.mem_cons_of_mem _ among))
  · intro others listed
    subst own
    exact ((perm.map Waiter.task).trans listed).cons_inv
  · rw [items]

/-- A call looks for a sender, and then it has one, waits or is over. -/
theorem Orderly.seek {waited : List Nat} {look : Look Nat Nat}
    (orderly : Orderly size service { calls := [number], waiting := waited }) {request : Request}
    (known : service.requests[number]? = some request)
    (search : Search service.now service.pool.timeout number waited service.pool.queue look) :
    Orderly size (service.seek number request look) {} := by
  obtain ⟨queue, woken, outcome⟩ := look
  obtain ⟨sound, capacity, finds, poppers, waiters, _⟩ := search
  simp only at sound capacity finds poppers waiters
  generalize free : queue.items = items at finds
  cases finds with
  | @sender sender rest first =>
      have holding : Orderly size (service.requeue queue)
          { calls := [number], senders := [sender] } := by
        refine orderly.requeue sound capacity poppers waiters ?_
        rw [first, free]
        simp
      cases request with
      | send data => exact (holding.ask rfl rfl).wait known (.sending data sender)
      | close => exact holding.askClose.wait known (.closing sender)
  | nothing =>
      have waiting : Orderly size (service.requeue queue)
          { calls := [number], waiting := [number] } :=
        orderly.requeue sound capacity poppers waiters (by rw [free])
      cases request with
      | send data => exact waiting.wait known (.waiting data)
      | close => exact waiting.wait known .draining
  | late =>
      have idle : Orderly size (service.requeue queue) { calls := [number] } :=
        orderly.requeue sound capacity poppers waiters (by rw [free])
      cases request with
      | send data =>
          exact idle.conclude known (.sent data _) (fun impossible => by cases impossible)
      | close => exact idle.conclude known (.closed _) (fun impossible => by cases impossible)

variable {event : Event} {after : Service}

/-- Every event keeps a pool in order. -/
theorem Orderly.step (orderly : Orderly size service {}) (happens : service.Happens event after) :
    Orderly size after {} := by
  -- The call is lifted out of its place, and what it does then puts all that it had somewhere else.
  have latest (request : Request) :
      (service.requests ++ [request])[service.requests.length]? = some request :=
    List.getElem?_concat_length
  cases happens with
  | refuses shut => exact (orderly.accept _).conclude (latest _) (.sent _ _) (by simp)
  | sends unshut search => exact (orderly.accept _).seek (latest _) search
  | succeeds drained => exact (orderly.accept _).conclude (latest _) (.closed _) (fun _ => drained)
  | closes live search => exact (orderly.accept _).seek (latest _) search
  | @resumes number request look found search =>
      obtain ⟨made, known, fits⟩ := orderly.known found
      have lifted := orderly.lift found
      cases request with
      | send data =>
          cases fits
          exact lifted.seek known search
      | close =>
          cases fits
          exact lifted.seek known search
  | @returns number sender stage answer result queue woken found concludes pushed =>
      obtain ⟨made, known, fits⟩ := orderly.known found
      have lifted := orderly.lift found
      rw [Hand.of_leased concludes.leased?] at lifted
      have yields : made.Yields (.sent result) := by
        cases concludes <;> cases fits <;> exact .sent _ _
      exact (lifted.giveBack pushed).conclude known yields (by simp)
  | @reconnects number sender failure found broken =>
      obtain ⟨made, known, fits⟩ := orderly.known found
      cases fits with
      | sending data =>
          have lifted := orderly.lift found
          have asked : Orderly size ((service.lift number).ask (.connect sender))
              (.of number (.sending sender)) := lifted.ask rfl rfl
          exact Orderly.wait asked known (.reconnecting data sender failure)
  | retires found others search =>
      obtain ⟨made, known, fits⟩ := orderly.known found
      cases fits
      exact (orderly.lift found).retire.seek known search
  | finishes found last =>
      obtain ⟨made, known, fits⟩ := orderly.known found
      cases fits
      exact (orderly.lift found).retire.conclude known (.closed _)
        (fun _ => Nat.sub_eq_zero_of_le last)
  | @leaves number stage waiter found seeks waits own =>
      obtain ⟨made, known, fits⟩ := orderly.known found
      have lifted := orderly.lift found
      rw [Hand.of_seeks seeks] at lifted
      have left := lifted.leaveQueue waits own
      cases stage <;> cases seeks <;> exact left.drop known fits
  | @yields number sender stage queue woken found leased pushed =>
      obtain ⟨made, known, fits⟩ := orderly.known found
      have lifted := orderly.lift found
      rw [Hand.of_leased leased] at lifted
      have returned := lifted.giveBack pushed
      cases stage <;> cases leased <;> exact returned.drop known fits
  | loses found =>
      obtain ⟨made, known, fits⟩ := orderly.known found
      exact (orderly.lift found).drop known fits
  | stays missed => exact orderly
  | passes => exact { orderly with poppers := orderly.poppers.later _ }

end Service

end Pool

end ReliableTransport
