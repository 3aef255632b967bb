import ReliableTransport.Proofs.Pool.Founding
/-!
This module says that a filled pool stays in order, whatever happens to it. As long as no close is
given up, the pool owns exactly the senders that are free, lent to a send or being closed.
-/

namespace ReliableTransport

namespace Pool

open BoundedQueue (Look Waiter)

namespace Service

variable {size : Nat} {service : Service} {number : Nat} {stage : Stage}

/-- A call that looks for a sender waits in the queue. -/
theorem Orderly.waits (orderly : Orderly size service {})
    (found : service.pool.calls.lookup number = some stage) (seeks : stage.seeks = true) :
    number ∈ service.pool.queue.waiters.map Waiter.task := by
  have seekers := seekers_lift (orderly.perm_lift found)
  rw [if_pos seeks] at seekers
  exact orderly.waiting.symm.subset (seekers.subset List.mem_cons_self)

/-- A new call does not wait in the queue yet. -/
theorem Orderly.absent (orderly : Orderly size service {}) :
    service.requests.length ∉ service.pool.queue.waiters.map Waiter.task := by
  intro member
  obtain ⟨call, among, own⟩ := List.mem_map.mp (orderly.waiting.subset member)
  exact orderly.fresh (List.mem_map.mpr ⟨call, List.mem_of_mem_filter among, own⟩)

theorem Orderly.request_happens (orderly : Orderly size service {}) (request : Request) :
    service.Happens (.request request) (service.step (.request request)) := by
  have search := search_start orderly.sound orderly.poppers orderly.absent
  cases request with
  | send data =>
      cases shut : service.pool.closed with
      | true =>
          have turned : service.turn (.request (.send data)) =
              service.pool.finish service.requests.length
                (.sent (.error (.invalidOperation .poolClosed))) := by
            simp [turn, component, Request.call, begin, shut]
          have happens : service.Happens (.request (.send data)) _ := .refuses shut
          rw [← took_finish] at happens
          rw [Service.step, turned]
          exact happens
      | false =>
          have turned : service.turn (.request (.send data)) =
              service.pool.sendAfter service.requests.length data
                (service.pool.queue.start service.now service.requests.length .pop
                  service.pool.timeout) := by
            simp [turn, component, Request.call, begin, shut]
          have happens : service.Happens (.request (.send data)) _ := .sends shut search
          rw [← took_look search.finds] at happens
          rw [Service.step, turned]
          exact happens
  | close =>
      by_cases drained : service.pool.live = 0
      · have turned : service.turn (.request .close) =
            (service.accept .close).pool.finish service.requests.length (.closed (.ok ())) := by
          show (service.accept .close).pool.drain service.now service.requests.length = _
          unfold drain
          exact if_pos drained
        have happens := Happens.succeeds drained
        rw [← took_finish] at happens
        rw [Service.step, turned]
        exact happens
      · have turned : service.turn (.request .close) =
            (service.accept .close).pool.closeAfter service.requests.length
              (service.pool.queue.start service.now service.requests.length .pop
                service.pool.timeout) := by
          show (service.accept .close).pool.drain service.now service.requests.length = _
          unfold drain
          exact if_neg drained
        have happens := Happens.closes (Nat.pos_of_ne_zero drained) search
        rw [← took_look search.finds] at happens
        rw [Service.step, turned]
        exact happens

/-- An event that finds no call that it matters to leaves no note. -/
theorem note_of_missed {event : Event} (missed : service.reaches event = false) :
    service.note event = service := by
  cases event with
  | request | pass => cases missed
  | turn => rfl
  | answer number answer =>
      have nothing : service.closes? number answer = none := by
        cases answer with
        | created | connected | sent => rfl
        | closed =>
            rw [reaches] at missed
            rw [closes?]
            cases found : service.pool.calls.lookup number with
            | none => rfl
            | some stage =>
                rw [found] at missed
                cases stage with
                | closing => cases missed
                | creating | joining | waiting | sending | reconnecting | draining => rfl
      rw [note, nothing]
      simp
  | abandon number =>
      have nothing : service.pool.calls.lookup number = none := by
        simpa [reaches] using missed
      rw [note, nothing]
      simp

/-- An event that finds no call that it matters to leaves the pool alone. -/
theorem Orderly.turn_of_missed (orderly : Orderly size service {}) {event : Event}
    (missed : service.reaches event = false) : service.turn event = (service.pool, []) := by
  cases event with
  | request | pass => cases missed
  | turn number =>
      simp only [reaches] at missed
      simp only [turn, component, resume]
      cases found : service.pool.calls.lookup number with
      | none => rfl
      | some stage =>
          rw [found] at missed
          cases stage with
          | waiting | draining => cases missed
          | creating | joining | sending | reconnecting | closing => rfl
  | answer number answer =>
      simp only [reaches] at missed
      simp only [turn, component, answered]
      cases found : service.pool.calls.lookup number with
      | none => rfl
      | some stage =>
          obtain ⟨request, known, fits⟩ := orderly.known found
          rw [found] at missed
          cases fits with
          | waiting | draining => rfl
          | sending =>
              cases answer with
              | sent => cases missed
              | created | connected | closed => rfl
          | reconnecting =>
              cases answer with
              | connected => cases missed
              | created | sent | closed => rfl
          | closing =>
              cases answer with
              | closed => cases missed
              | created | connected | sent => rfl
  | abandon number =>
      have nothing : service.pool.calls.lookup number = none := by
        simpa [reaches] using missed
      have lifted := congrArg Service.pool (lift_absent (absent_of_lookup nothing))
      simp only [turn, component, abandon, nothing]
      exact congrArg (·, []) lifted

theorem Orderly.turn_happens (orderly : Orderly size service {})
    (reached : service.reaches (.turn number) = true) :
    service.Happens (.turn number) (service.step (.turn number)) := by
  obtain ⟨stage, found, seeks⟩ : ∃ stage, service.pool.calls.lookup number = some stage ∧
      stage.seeks = true := by simpa [reaches, Option.any_eq_true] using reached
  have search := search_resume orderly.sound orderly.poppers
    (orderly.waits found seeks)
  cases stage with
  | creating | joining | sending | reconnecting | closing => cases seeks
  | waiting data =>
      have turned : service.turn (.turn number) =
          service.pool.sendAfter number data
            (service.pool.queue.resume service.now number) := by
        simp only [turn, component, resume, found]
      have happens := @Happens.resumes service number (.send data) _ found search
      rw [← took_look search.finds] at happens
      rw [Service.step, turned]
      exact happens
  | draining =>
      have turned : service.turn (.turn number) =
          service.pool.closeAfter number (service.pool.queue.resume service.now number) := by
        simp only [turn, component, resume, found]
      have happens := @Happens.resumes service number .close _ found search
      rw [← took_look search.finds] at happens
      rw [Service.step, turned]
      exact happens

/-- There is room for the sender that a send has. -/
theorem Orderly.push {sender : Nat} (orderly : Orderly size service {})
    (found : service.pool.calls.lookup number = some stage)
    (leased : stage.leased? = some sender) :
    ∃ queue woken, service.pool.queue.push? sender = some (queue, woken) := by
  have lifted := orderly.lift found
  rw [Hand.of_leased leased] at lifted
  have room : service.pool.queue.items.length < service.pool.queue.capacity :=
    lifted.room (List.cons_ne_nil sender [])
  rcases service.pool.queue.push?_cases sender with ⟨_, full⟩ | ⟨queue, woken, pushed, _⟩
  · simp only [BoundedQueue.supply, Bool.false_eq_true, if_false] at full
    omega
  · exact ⟨queue, woken, pushed⟩

theorem Orderly.concludes_happens {sender : Nat} {answer : Answer} {result : Except Failure Nat}
    (orderly : Orderly size service {})
    (found : service.pool.calls.lookup number = some stage)
    (concludes : stage.Concludes answer sender result)
    (turned : service.turn (.answer number answer) =
      service.pool.finishSend number sender result) :
    service.Happens (.answer number answer) (service.step (.answer number answer)) := by
  obtain ⟨queue, woken, pushed⟩ := orderly.push found concludes.leased?
  have noted : service.note (.answer number answer) = service := by
    cases concludes <;> simp [note, closes?]
  have given : service.pool.finishSend number sender result =
      Pool.after ((service.requeue queue).pool.finish number (.sent result))
        (woken.map .ready) := by
    rw [finishSend, Pool.giveBack, pushed]
    rfl
  have happens := Happens.returns found concludes pushed
  rw [Service.step, noted, turned, given, took_after]
  exact ((service.requeue queue).took_finish number (.sent result)) ▸ happens

/-- A call that has a sender does not wait in the queue. -/
theorem Orderly.busy (orderly : Orderly size service {})
    (found : service.pool.calls.lookup number = some stage) (busy : stage.seeks = false) :
    number ∉ service.pool.queue.waiters.map Waiter.task := by
  intro member
  have seekers := seekers_lift (orderly.perm_lift found)
  rw [if_neg (Bool.eq_false_iff.mp busy)] at seekers
  obtain ⟨call, among, own⟩ :=
    List.mem_map.mp (seekers.symm.subset (orderly.waiting.subset member))
  have other := (List.mem_filter.mp (List.mem_of_mem_filter among)).2
  simp [own] at other

theorem Orderly.closed_happens {sender : Nat} (orderly : Orderly size service {})
    (found : service.pool.calls.lookup number = some (.closing sender)) :
    service.Happens (.answer number .closed) (service.step (.answer number .closed)) := by
  have noted : service.note (.answer number .closed) =
      { service with closed := service.closed ++ [sender] } := by
    simp [note, closes?, found, Stage.closing?]
  have turned : service.turn (.answer number .closed) =
      (service.retire sender).pool.drain service.now number := by
    simp only [turn, component, answered, found]
    rfl
  rw [Service.step, noted, turned]
  by_cases last : service.pool.live ≤ 1
  · have drained : (service.retire sender).pool.drain service.now number =
        (service.retire sender).pool.finish number (.closed (.ok ())) := by
      unfold drain
      exact if_pos (Nat.sub_eq_zero_of_le last)
    have happens : service.Happens (.answer number .closed)
        (((service.retire sender).lift number).conclude number (.closed (.ok ()))) :=
      .finishes found last
    rw [← took_finish] at happens
    rw [drained]
    exact happens
  · have drained : (service.retire sender).pool.drain service.now number =
        (service.retire sender).pool.closeAfter number
          (service.pool.queue.start service.now number .pop service.pool.timeout) := by
      unfold drain
      exact if_neg (show ¬service.pool.live - 1 = 0 by omega)
    have search := search_start orderly.sound orderly.poppers
      (orderly.busy found rfl)
    have happens : service.Happens (.answer number .closed)
        (((service.retire sender).lift number).seek number .close
          (service.pool.queue.start service.now number .pop service.pool.timeout)) :=
      .retires found (Nat.lt_of_not_le last) search
    rw [← took_look search.finds] at happens
    rw [drained]
    exact happens

theorem Orderly.answer_happens {answer : Answer} (orderly : Orderly size service {})
    (reached : service.reaches (.answer number answer) = true) :
    service.Happens (.answer number answer) (service.step (.answer number answer)) := by
  obtain ⟨stage, found, awaits⟩ : ∃ stage, service.pool.calls.lookup number = some stage ∧
      stage.awaits answer = true := by simpa [reaches, Option.any_eq_true] using reached
  cases stage with
  | creating | joining | waiting | draining => cases answer <;> cases awaits
  | sending sender =>
      cases answer with
      | created | connected | closed => cases awaits
      | sent result =>
          cases result with
          | ok length =>
              refine orderly.concludes_happens found .sent ?_
              simp only [turn, component, answered, found]
          | error failure =>
              cases broken : failure.isTransient with
              | false =>
                  refine orderly.concludes_happens found (.failed broken) ?_
                  simp [turn, component, answered, found, broken]
              | true =>
                  have turned : service.turn (.answer number (.sent (.error failure))) =
                      (service.pool.park number (.reconnecting sender failure),
                        [.order number (.connect sender)]) := by
                    simp [turn, component, answered, found, broken]
                  have noted : service.note (.answer number (.sent (.error failure))) =
                      service := by
                    simp [note, closes?]
                  rw [Service.step, noted, turned, took_order]
                  exact .reconnects found broken
  | reconnecting sender failure =>
      cases answer with
      | created | sent | closed => cases awaits
      | connected result =>
          refine orderly.concludes_happens found .reconnected ?_
          simp only [turn, component, answered, found]
  | closing sender =>
      cases answer with
      | created | connected | sent => cases awaits
      | closed => exact orderly.closed_happens found

theorem note_abandon (found : service.pool.calls.lookup number = some stage) :
    service.note (.abandon number) = service.drop number stage := by
  rw [note, found]
  rfl

theorem Orderly.leaves_happens (orderly : Orderly size service {})
    (found : service.pool.calls.lookup number = some stage) (seeks : stage.seeks = true) :
    service.Happens (.abandon number) (service.step (.abandon number)) := by
  have waits := orderly.waits found seeks
  cases stands : service.pool.queue.waiter? number with
  | none => exact absurd waits (BoundedQueue.waiter?_eq_none stands)
  | some waiter =>
      obtain ⟨among, own⟩ := BoundedQueue.waiter?_eq_some stands
      have turned : service.turn (.abandon number) =
          (((service.lift number).requeue (service.pool.queue.leave waiter).1).pool,
            (service.pool.queue.leave waiter).2.map .ready) := by
        cases stage with
        | creating | joining | sending | reconnecting | closing => cases seeks
        | waiting | draining =>
            simp only [turn, component, abandon, found, BoundedQueue.abandon, stands]
            rfl
      rw [Service.step, note_abandon found, turned, took_ready]
      exact .leaves found seeks among own

theorem Orderly.yields_happens {sender : Nat} (orderly : Orderly size service {})
    (found : service.pool.calls.lookup number = some stage)
    (leased : stage.leased? = some sender) :
    service.Happens (.abandon number) (service.step (.abandon number)) := by
  obtain ⟨queue, woken, pushed⟩ := orderly.push found leased
  have turned : service.turn (.abandon number) =
      (((service.lift number).requeue queue).pool, woken.map .ready) := by
    have given : (service.pool.remove number).giveBack sender =
        (((service.lift number).requeue queue).pool, woken.map .ready) := by
      have same : (service.pool.remove number).queue.push? sender = some (queue, woken) := pushed
      rw [Pool.giveBack, same]
      rfl
    cases stage <;> cases leased <;>
      simpa only [turn, component, abandon, found] using given
  rw [Service.step, note_abandon found, turned, took_ready]
  exact .yields found leased pushed

theorem Orderly.abandon_happens (orderly : Orderly size service {})
    (reached : service.reaches (.abandon number) = true) :
    service.Happens (.abandon number) (service.step (.abandon number)) := by
  obtain ⟨stage, found⟩ := Option.isSome_iff_exists.mp reached
  obtain ⟨request, known, fits⟩ := orderly.known found
  cases fits with
  | waiting | draining => exact orderly.leaves_happens found rfl
  | sending | reconnecting => exact orderly.yields_happens found rfl
  | closing sender =>
      have turned : service.turn (.abandon number) =
          ((service.lift number).pool, ([] : List Nat).map .ready) := by
        simp only [turn, component, abandon, found]
        rfl
      rw [Service.step, note_abandon found, turned, took_ready]
      exact .loses found

theorem Orderly.happens (orderly : Orderly size service {}) (event : Event) :
    service.Happens event (service.step event) := by
  cases reached : service.reaches event with
  | false =>
      rw [Service.step, orderly.turn_of_missed reached, note_of_missed reached, took_nothing]
      exact .stays reached
  | true =>
      cases event with
      | request request => exact orderly.request_happens request
      | turn number => exact orderly.turn_happens reached
      | answer number answer => exact orderly.answer_happens reached
      | abandon number => exact orderly.abandon_happens reached
      | pass millis =>
          have stepped : service.step (.pass millis) =
              { service with now := service.now + millis } := took_nothing
          rw [stepped]
          exact .passes

theorem Orderly.run (orderly : Orderly size service {}) (events : List Event) :
    Orderly size (service.run events) {} := by
  induction events generalizing service with
  | nil => exact orderly
  | cons event rest ih => exact ih (orderly.step (orderly.happens event))

/-- The live senders are those that are free, lent to a send, being closed or lost. -/
theorem Orderly.live_eq (orderly : Orderly size service {}) :
    service.pool.live = service.pool.available + service.pool.leased.length +
      service.pool.closing.length + service.lost.length := by
  have all := orderly.senders.length_eq
  have live := orderly.live
  simp only [List.nil_append, List.length_append, List.length_range] at all
  rw [Pool.available]
  omega

/-- What calls have is what sends and closes have. -/
theorem perm_held {calls : List (Nat × Stage)}
    (fits : ∀ call ∈ calls, ∃ request : Request, request.Fits call.2) :
    (calls.filterMap fun call => call.2.sender?).Perm
      ((calls.filterMap fun call => call.2.leased?) ++
        calls.filterMap fun call => call.2.closing?) := by
  induction calls with
  | nil => exact .refl _
  | cons call rest ih =>
      obtain ⟨number, stage⟩ := call
      obtain ⟨request, fitting⟩ := fits (number, stage) List.mem_cons_self
      have others := ih fun call among => fits call (List.mem_cons_of_mem _ among)
      cases fitting with
      | waiting | draining => exact others
      | sending | reconnecting => exact others.cons _
      | closing sender => exact (others.cons sender).trans List.perm_middle.symm

/-- A pool loses no sender as long as no close is given up. -/
theorem Orderly.lost_eq_nil (orderly : Orderly size service {})
    (kept : ∀ entry ∈ service.dropped, service.requests[entry.1]? ≠ some .close) :
    service.lost = [] := by
  rw [lost, List.filterMap_eq_nil_iff]
  intro entry among
  obtain ⟨request, known, fits⟩ := orderly.fits entry (List.mem_append_right _ among)
  obtain ⟨number, stage⟩ := entry
  cases fits with
  | waiting | sending | reconnecting => rfl
  | draining | closing => exact absurd known (kept _ among)

/-- Sends and closes use a pool in any order, wait, run late, time out, and sends are given up at
any point. As long as no close is given up, the live senders are those that are free, lent to a send
or being closed, each of them once. There is always room for a sender that a send gives back. Every
call is in one place, and when none runs, all live senders are free. -/
theorem run_balances {timeout : Nat} (founded : Founded size timeout service)
    (events : List Event)
    (kept : ∀ entry ∈ (service.run events).dropped,
      (service.run events).requests[entry.1]? ≠ some .close) :
    let after := service.run events
    after.pool.live =
        after.pool.available + after.pool.leased.length + after.pool.closing.length ∧
      after.pool.live ≤ after.pool.capacity ∧ after.pool.capacity = size ∧
      (after.pool.calls.filterMap fun call => call.2.sender?).Nodup ∧
      (after.pool.queue.items ++ after.pool.leased ++ after.pool.closing ++ after.closed).Perm
        (List.range size) ∧
      (∀ number stage sender, after.pool.calls.lookup number = some stage →
        stage.leased? = some sender → (after.pool.queue.push? sender).isSome) ∧
      (after.pool.calls.map Prod.fst ++ after.endings.map Ending.number ++
        after.dropped.map Prod.fst).Perm (List.range after.requests.length) ∧
      after.pool.live = size - after.closed.length ∧
      (after.pool.calls = [] → after.pool.available = after.pool.live) := by
  intro after
  have orderly : Orderly size after {} := founded.orderly.run events
  have intact := orderly.lost_eq_nil kept
  have live := orderly.live
  have alive := orderly.live_eq
  rw [intact, List.length_nil, Nat.add_zero] at alive
  have senders : (after.pool.queue.items ++ after.pool.leased ++ after.pool.closing ++
      after.closed).Perm (List.range size) := by
    have all := orderly.senders
    rw [intact, List.append_nil] at all
    exact all
  have held : (after.pool.calls.filterMap fun call => call.2.sender?).Nodup := by
    have fits : ∀ call ∈ after.pool.calls, ∃ request : Request, request.Fits call.2 := by
      intro call among
      obtain ⟨request, _, fits⟩ := orderly.fits call (List.mem_append_left _ among)
      exact ⟨request, fits⟩
    have distinct := senders.nodup_iff.mpr List.nodup_range
    rw [(perm_held fits).nodup_iff]
    rw [List.append_assoc, List.append_assoc, List.nodup_append, ← List.append_assoc,
      List.nodup_append] at distinct
    exact distinct.2.1.1
  refine ⟨alive, ?_, orderly.capacity, held, senders, ?_, orderly.placed, by omega, ?_⟩
  · rw [Pool.capacity, orderly.capacity]
    omega
  · intro number stage sender found leased
    obtain ⟨queue, woken, pushed⟩ := orderly.push found leased
    rw [pushed]
    rfl
  · intro quiet
    have nothing : after.pool.leased = [] ∧ after.pool.closing = [] := by
      simp [leased, closing, quiet]
    rw [nothing.1, nothing.2] at alive
    exact alive.symm

/-- Two senders in use by more calls than there are: one send fails and connects again, others are
given up while they send, connect again or wait, and a close takes what comes back. -/
def busy : List Event :=
  [.request (.send [1]), .request (.send [2]), .request (.send [3]),
    .answer 0 (.sent (.error (.io .brokenPipe))), .abandon 1, .abandon 2,
    .request (.send [4]), .request .close, .abandon 0, .turn 4, .pass 60, .answer 4 .closed]

theorem run_balances_busy :
    let after := (opened 2 100).run busy
    Founded 2 100 (opened 2 100) ∧
      (∀ entry ∈ after.dropped, after.requests[entry.1]? ≠ some .close) ∧
      after.pool.live = 1 ∧ after.pool.available = 0 ∧ after.pool.leased = [1] ∧
      after.pool.closing = [] ∧ after.closed = [0] ∧
      after.pool.live =
        after.pool.available + after.pool.leased.length + after.pool.closing.length ∧
      (after.pool.queue.push? 1).isSome := by
  have founded : Founded 2 100 (opened 2 100) := opened_founded (by decide) (by decide) 100
  have balanced := run_balances founded busy (by decide)
  exact ⟨founded, by decide, by decide, by decide, by decide, by decide, by decide, balanced.1,
    balanced.2.2.2.2.2.1 3 (.sending 1) 1 (by decide) rfl⟩

end Service

end Pool

end ReliableTransport
