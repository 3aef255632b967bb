import ReliableTransport.Proofs.Pool.Runs
/-!
This module says what a close that succeeds leaves behind. All senders are closed then, each of them
once, nobody has one, and nothing is asked of any sender ever after.
-/

namespace ReliableTransport

namespace Pool

open BoundedQueue (Look Waiter)

namespace Service

variable {size number : Nat} {service after : Service} {event : Event}

/-- What is noted of a pool stays, and the patience of its calls does too. -/
structure Grows (service after : Service) : Prop where
  requests : service.requests <+: after.requests
  endings : service.endings <+: after.endings
  dropped : service.dropped <+: after.dropped
  timeout : after.pool.timeout = service.pool.timeout

theorem Grows.refl (service : Service) : service.Grows service :=
  ⟨List.prefix_rfl, List.prefix_rfl, List.prefix_rfl, rfl⟩

theorem Grows.trans {middle : Service} (first : service.Grows middle)
    (second : middle.Grows after) : service.Grows after :=
  ⟨first.requests.trans second.requests, first.endings.trans second.endings,
    first.dropped.trans second.dropped, second.timeout.trans first.timeout⟩

/-- A look for a sender gives the call one, lets it wait or ends it. -/
theorem seek_cases {timeout : Nat} {free : List Nat} {look : Look Nat Nat}
    (finds : Finds timeout free look.outcome look.queue.items) (request : Request) :
    (∃ sender, free = sender :: look.queue.items ∧ look.outcome = some (.popped sender) ∧
      service.seek number request look =
        ((service.requeue look.queue).ask (request.order sender)).wait number
          (request.having sender)) ∨
      (free = look.queue.items ∧ look.outcome = none ∧ service.seek number request look =
        (service.requeue look.queue).wait number request.waiting) ∨
      (free = look.queue.items ∧ look.outcome = some (.timedOut (lateFailure timeout)) ∧
        service.seek number request look =
          (service.requeue look.queue).conclude number (request.late (lateFailure timeout))) := by
  obtain ⟨queue, woken, outcome⟩ := look
  simp only at finds ⊢
  generalize remaining : queue.items = rest at finds ⊢
  cases finds with
  | sender first => exact .inl ⟨_, first, rfl, rfl⟩
  | nothing => exact .inr (.inl ⟨rfl, rfl, rfl⟩)
  | late => exact .inr (.inr ⟨rfl, rfl, rfl⟩)

@[simp] theorem seek_live (service : Service) (number : Nat) (request : Request)
    (look : Look Nat Nat) :
    (service.seek number request look).pool.live = service.pool.live := by
  rw [seek]
  split <;> rfl

/-- A look for a sender that finds none asks for nothing. -/
theorem orders_seek {timeout : Nat} {free : List Nat} {look : Look Nat Nat}
    (finds : Finds timeout free look.outcome look.queue.items) (empty : free = [])
    (request : Request) : (service.seek number request look).orders = service.orders := by
  rcases seek_cases finds request with ⟨_, first, _⟩ | ⟨_, _, same⟩ | ⟨_, _, same⟩
  · cases empty.symm.trans first
  · rw [same]
    rfl
  · rw [same]
    rfl

theorem Grows.same (requests : after.requests = service.requests)
    (endings : after.endings = service.endings) (dropped : after.dropped = service.dropped)
    (timeout : after.pool.timeout = service.pool.timeout) : service.Grows after :=
  ⟨requests ▸ List.prefix_rfl, endings ▸ List.prefix_rfl, dropped ▸ List.prefix_rfl, timeout⟩

theorem Grows.seek (grows : service.Grows after) (number : Nat) (request : Request)
    (look : Look Nat Nat) : service.Grows (after.seek number request look) := by
  refine grows.trans ?_
  rw [Service.seek]
  split
  · exact .same rfl rfl rfl rfl
  · exact ⟨List.prefix_rfl, List.prefix_append _ _, List.prefix_rfl, rfl⟩
  · exact .same rfl rfl rfl rfl

theorem Happens.grows (happens : service.Happens event after) : service.Grows after := by
  have accepted (request : Request) :
      service.Grows ((service.accept request).lift service.requests.length) := by
    cases request <;> exact ⟨List.prefix_append _ _, List.prefix_rfl, List.prefix_rfl, rfl⟩
  cases happens with
  | refuses | succeeds =>
      exact ⟨List.prefix_append _ _, List.prefix_append _ _, List.prefix_rfl, rfl⟩
  | sends | closes => exact (accepted _).seek _ _ _
  | @resumes number =>
      have lifted : service.Grows (service.lift number) := .same rfl rfl rfl rfl
      exact lifted.seek _ _ _
  | @retires number sender =>
      have retired : service.Grows ((service.lift number).retire sender) := .same rfl rfl rfl rfl
      exact retired.seek _ _ _
  | returns | finishes => exact ⟨List.prefix_rfl, List.prefix_append _ _, List.prefix_rfl, rfl⟩
  | reconnects | stays | passes => exact .same rfl rfl rfl rfl
  | leaves | yields | loses =>
      exact ⟨List.prefix_rfl, List.prefix_rfl, List.prefix_append _ _, rfl⟩

theorem Orderly.grows (orderly : Orderly size service {}) (events : List Event) :
    service.Grows (service.run events) := by
  induction events generalizing service with
  | nil => exact .refl service
  | cons event rest ih =>
      have happens := orderly.happens event
      exact happens.grows.trans (ih (orderly.step happens))

/-- A pool without live senders has none anywhere. -/
theorem Orderly.nothing_left (orderly : Orderly size service {}) (drained : service.pool.live = 0) :
    service.pool.queue.items = [] ∧ service.pool.leased = [] ∧ service.pool.closing = [] ∧
      service.lost = [] := by
  have alive := orderly.live_eq
  rw [available, drained] at alive
  refine ⟨?_, ?_, ?_, ?_⟩ <;> exact List.eq_nil_of_length_eq_zero (by omega)

/-- A call of a pool without live senders has no sender. -/
theorem Orderly.idle (orderly : Orderly size service {}) (drained : service.pool.live = 0)
    {stage : Stage} (found : service.pool.calls.lookup number = some stage) :
    stage.leased? = none ∧ stage.closing? = none := by
  obtain ⟨_, leased, closing, _⟩ := orderly.nothing_left drained
  have call := orderly.mem_of_found found
  exact ⟨List.filterMap_eq_nil_iff.mp leased _ call, List.filterMap_eq_nil_iff.mp closing _ call⟩

/-- Nothing is asked of the senders of a pool that has none. -/
theorem Happens.drained (happens : service.Happens event after) (orderly : Orderly size service {})
    (drained : service.pool.live = 0) :
    after.pool.live = 0 ∧ after.orders = service.orders := by
  have empty := (orderly.nothing_left drained).1
  cases happens with
  | refuses | succeeds | leaves | stays | passes => exact ⟨drained, rfl⟩
  | sends unshut search =>
      exact ⟨(seek_live _ _ _ _).trans drained, orders_seek search.finds empty _⟩
  | resumes found search =>
      exact ⟨(seek_live _ _ _ _).trans drained, orders_seek search.finds empty _⟩
  | closes live search => omega
  | retires found others search => omega
  | returns found concludes pushed =>
      cases concludes.leased?.symm.trans (orderly.idle drained found).1
  | reconnects found broken => cases (orderly.idle drained found).1
  | finishes found last => cases (orderly.idle drained found).2
  | yields found leased pushed => cases leased.symm.trans (orderly.idle drained found).1
  | loses found => cases (orderly.idle drained found).2

theorem Orderly.run_drained (orderly : Orderly size service {}) (drained : service.pool.live = 0)
    (events : List Event) :
    (service.run events).pool.live = 0 ∧ (service.run events).orders = service.orders := by
  induction events generalizing service with
  | nil => exact ⟨drained, rfl⟩
  | cons event rest ih =>
      have happens := orderly.happens event
      obtain ⟨still, same⟩ := happens.drained orderly drained
      obtain ⟨never, unasked⟩ := ih (orderly.step happens) still
      exact ⟨never, unasked.trans same⟩

/-- A close that succeeded has shut the pool and left no sender. -/
theorem Orderly.closed_of_ending (orderly : Orderly size service {}) {ending : Ending}
    (ended : ending ∈ service.endings) (succeeded : ending.result = .closed (.ok ())) :
    service.pool.live = 0 ∧ .close ∈ service.requests := by
  obtain ⟨request, known, yields⟩ := orderly.yields ending ended
  rw [succeeded] at yields
  cases yields
  exact ⟨orderly.emptied ending ended succeeded, List.mem_of_getElem? known⟩

/-- A send that finds the pool shut is over at once, and changes nothing. -/
theorem Orderly.refuses (orderly : Orderly size service {}) (shut : service.pool.closed = true)
    (data : Bytes) :
    service.step (.request (.send data)) =
      { service with
        requests := service.requests ++ [.send data]
        endings := service.endings ++ [
          { number := service.requests.length
            instant := service.now
            result := .sent (.error (.invalidOperation .poolClosed)) }] } := by
  have happens := orderly.happens (.request (.send data))
  generalize service.step (.request (.send data)) = after at happens ⊢
  cases happens with
  | refuses _ =>
      rw [lift_absent (show _ ∉ (service.accept (.send data)).pool.calls.map Prod.fst from
        orderly.fresh)]
      rfl
  | sends unshut _ => cases shut.symm.trans unshut
  | stays missed => cases missed

/-- Once a close has succeeded, no sender is left. Each sender that the pool made was closed once,
nobody has one, and nothing is asked of any sender any more. Every later send is refused at once.
-/
theorem close_is_final {timeout : Nat} (founded : Founded size timeout service)
    (events later : List Event)
    (succeeded : ∃ ending ∈ (service.run events).endings, ending.result = .closed (.ok ())) :
    let closed := service.run events
    let after := closed.run later
    after.pool.live = 0 ∧ after.pool.available = 0 ∧ after.pool.leased = [] ∧
      after.pool.closing = [] ∧ after.orders = closed.orders ∧
      after.orders.filterMap Order.creates? = List.range size ∧
      (after.orders.filterMap Order.closes?).Perm (List.range size) ∧
      ∀ data, after.step (.request (.send data)) =
        { after with
          requests := after.requests ++ [.send data]
          endings := after.endings ++ [
            { number := after.requests.length
              instant := after.now
              result := .sent (.error (.invalidOperation .poolClosed)) }] } := by
  intro closed after
  have before : Orderly size closed {} := founded.orderly.run events
  have orderly : Orderly size after {} := before.run later
  obtain ⟨ending, ended, succeeded⟩ := succeeded
  obtain ⟨drained, asked⟩ := before.closed_of_ending ended succeeded
  obtain ⟨still, unasked⟩ := before.run_drained drained later
  obtain ⟨free, leased, closing, lost⟩ := orderly.nothing_left still
  have shut : after.pool.closed = true :=
    orderly.shut ((before.grows later).requests.subset asked)
  have all : (after.orders.filterMap Order.closes?).Perm (List.range size) := by
    have senders := orderly.senders
    refine orderly.told.trans ?_
    simpa [free, leased, closing, lost] using senders
  exact ⟨still, by rw [available, free]; rfl, leased, closing, unasked, orderly.made, all,
    orderly.refuses shut⟩

/-- One of two senders comes back from a send that is given up, and a send that waited longer than
the first close takes it. Then two closes share the work. -/
def shared : List Event :=
  [.request (.send [1]), .request (.send [2]), .request (.send [3]), .request .close,
    .abandon 0, .turn 2, .request .close, .answer 1 (.sent (.ok 1)), .turn 3,
    .answer 3 .closed, .answer 2 (.sent (.ok 1)), .turn 4, .answer 4 .closed]

theorem close_is_final_shared :
    let closed := (opened 2 100).run shared
    let after := closed.run [.request (.send [4]), .pass 100, .turn 3]
    Founded 2 100 (opened 2 100) ∧
      (∃ ending ∈ closed.endings, ending.result = .closed (.ok ())) ∧
      after.pool.live = 0 ∧ after.pool.available = 0 ∧ after.orders = closed.orders ∧
      (after.orders.filterMap Order.closes?).Perm [0, 1] ∧
      after.orders.filterMap Order.closes? = [1, 0] := by
  have founded : Founded 2 100 (opened 2 100) := opened_founded (by decide) (by decide) 100
  have succeeded : ∃ ending ∈ ((opened 2 100).run shared).endings,
      ending.result = .closed (.ok ()) :=
    ⟨_, List.getLast_mem (by decide), rfl⟩
  have final := close_is_final founded shared [.request (.send [4]), .pass 100, .turn 3] succeeded
  exact ⟨founded, succeeded, final.1, final.2.1, final.2.2.2.2.1, final.2.2.2.2.2.2.1, by decide⟩

end Service

end Pool

end ReliableTransport
