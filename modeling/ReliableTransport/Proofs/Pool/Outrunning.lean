import Mathlib.Data.List.Induction
import Mathlib.Tactic.ByContra
import ReliableTransport.Proofs.Pool.Draining
/-!
This module says which closes fail. Closes that overlap share the senders. A close that waits while
another close closes the last sender waits for nothing, and fails at its deadline. Every other close
fails only while the pool has a live sender.
-/

namespace ReliableTransport

namespace Pool

open BoundedQueue (Look Waiter)

namespace Service

variable {size number : Nat} {service after : Service} {event : Event} {stage : Stage}

/-- Another close has closed the last sender while a close waited for one. -/
def Outrun (origin : Service) (events : List Event) (number : Nat) : Prop :=
  ∃ first other later, events = first ++ .answer other .closed :: later ∧
    (number, .draining) ∈ (origin.run first).pool.calls ∧ 0 < (origin.run first).pool.live ∧
    (origin.run (first ++ [.answer other .closed])).pool.live = 0

/-- A close looks for a sender only where one is live, and one is live after it. -/
theorem live_of_closes (live : 0 < service.pool.live) (look : Look Nat Nat) :
    (((service.accept .close).lift number).seek number .close look).pool.live ≠ 0 := by
  rw [seek_live]
  exact Nat.ne_of_gt live

theorem live_of_retires (others : 1 < service.pool.live) (sender : Nat) (look : Look Nat Nat) :
    (((service.lift number).retire sender).seek number .close look).pool.live ≠ 0 := by
  rw [seek_live]
  exact Nat.sub_ne_zero_of_lt others

/-- The last sender goes with the close that closes it, and this close succeeds. -/
theorem Happens.last (happens : service.Happens event after) (live : 0 < service.pool.live)
    (drained : after.pool.live = 0) :
    ∃ other sender, event = .answer other .closed ∧
      service.pool.calls.lookup other = some (.closing sender) ∧
      after = ((service.lift other).retire sender).conclude other (.closed (.ok ())) := by
  cases happens with
  | @finishes other sender found last => exact ⟨other, sender, rfl, found, rfl⟩
  | sends | resumes =>
      rw [seek_live] at drained
      exact absurd drained (Nat.ne_of_gt live)
  | closes live search => exact absurd drained (live_of_closes live _)
  | retires found others search => exact absurd drained (live_of_retires others _ _)
  | refuses | succeeds | returns | reconnects | leaves | yields | loses | stays | passes =>
      exact absurd drained (Nat.ne_of_gt live)

/-- Only a close that looked for a sender begins to wait as a close. -/
theorem draining_of_seek {timeout other : Nat} {free : List Nat} {look : Look Nat Nat}
    {request : Request} (finds : Finds timeout free look.outcome look.queue.items)
    (waits : (number, .draining) ∈ (service.seek other request look).pool.calls) :
    (number, .draining) ∈ service.pool.calls ∨ number = other ∧ request = .close := by
  rcases seek_cases finds request with ⟨sender, _, _, same⟩ | ⟨_, _, same⟩ | ⟨_, _, same⟩
  · rw [same] at waits
    rcases List.mem_append.mp waits with earlier | latest
    · exact .inl earlier
    · cases request <;> cases List.mem_singleton.mp latest
  · rw [same] at waits
    rcases List.mem_append.mp waits with earlier | latest
    · exact .inl earlier
    · cases request with
      | send data => cases List.mem_singleton.mp latest
      | close =>
          cases List.mem_singleton.mp latest
          exact .inr ⟨rfl, rfl⟩
  · rw [same] at waits
    exact .inl waits

/-- No close begins to wait for a sender when the pool has none. -/
theorem Happens.waited (happens : service.Happens event after) (orderly : Orderly size service {})
    (drained : after.pool.live = 0) (waits : (number, .draining) ∈ after.pool.calls) :
    (number, .draining) ∈ service.pool.calls := by
  cases happens with
  | sends unshut search =>
      rcases draining_of_seek search.finds waits with earlier | ⟨_, impossible⟩
      · exact List.mem_of_mem_filter earlier
      · cases impossible
  | closes live search => exact absurd drained (live_of_closes live _)
  | resumes found search =>
      rcases draining_of_seek search.finds waits with earlier | ⟨rfl, rfl⟩
      · exact List.mem_of_mem_filter earlier
      · exact orderly.mem_of_found found
  | retires found others search => exact absurd drained (live_of_retires others _ _)
  | reconnects found broken =>
      rcases List.mem_append.mp waits with earlier | latest
      · exact List.mem_of_mem_filter earlier
      · cases List.mem_singleton.mp latest
  | refuses | succeeds | returns | finishes | leaves | yields | loses =>
      exact List.mem_of_mem_filter waits
  | stays | passes => exact waits

/-- A close that waits for a sender of a pool that has none was outrun. -/
theorem Orderly.outrun_of_draining {origin : Service} (orderly : Orderly size origin {})
    (live : 0 < origin.pool.live) (events : List Event)
    (drained : (origin.run events).pool.live = 0)
    (waits : (number, .draining) ∈ (origin.run events).pool.calls) :
    origin.Outrun events number := by
  -- The event that closed the last sender is found from the end: before it a sender was live.
  induction events using List.reverseRecOn with
  | nil => exact absurd drained (Nat.ne_of_gt live)
  | append_singleton rest event ih =>
      have happens := (orderly.run rest).happens event
      rw [run_append] at drained waits
      have waited := happens.waited (orderly.run rest) drained waits
      by_cases gone : (origin.run rest).pool.live = 0
      · obtain ⟨first, other, later, rfl, outrun⟩ := ih gone waited
        exact ⟨first, other, later ++ [event], by simp, outrun⟩
      · have some := Nat.pos_of_ne_zero gone
        obtain ⟨other, _, rfl, _⟩ := happens.last some drained
        refine ⟨rest, other, [], rfl, waited, some, ?_⟩
        rw [run_append]
        exact drained

/-- A look for a sender fails for a close only. -/
theorem seek_failed {timeout other instant : Nat} {free : List Nat} {look : Look Nat Nat}
    {request : Request} {failure : Failure}
    (finds : Finds timeout free look.outcome look.queue.items)
    (failed : (service.seek other request look).endings =
      service.endings ++ [{ number, instant, result := .closed (.error failure) }]) :
    request = .close ∧ other = number ∧ failure = lateFailure timeout := by
  rcases seek_cases finds request with ⟨sender, _, _, same⟩ | ⟨_, _, same⟩ | ⟨_, _, same⟩
  · rw [same] at failed
    simp [Service.wait, Service.ask, requeue] at failed
  · rw [same] at failed
    simp [Service.wait, requeue] at failed
  · rw [same] at failed
    cases request with
    | send data => simp [Service.conclude, requeue, Request.late] at failed
    | close =>
        obtain ⟨own, _, late⟩ : other = number ∧ service.now = instant ∧
            lateFailure timeout = failure := by
          simpa [Service.conclude, requeue, Request.late] using failed
        exact ⟨rfl, own, late.symm⟩

/-- A close fails because it has waited for too long. If no sender is live then, it had waited for
one already. -/
theorem Happens.failed (happens : service.Happens event after) (orderly : Orderly size service {})
    {instant : Nat} {failure : Failure}
    (failed : after.endings =
      service.endings ++ [{ number, instant, result := .closed (.error failure) }]) :
    failure = lateFailure service.pool.timeout ∧
      (after.pool.live = 0 → (number, .draining) ∈ service.pool.calls) := by
  cases happens with
  | refuses | returns | finishes | succeeds =>
      simp [Service.conclude, accept, Service.lift, requeue, Service.retire] at failed
  | sends unshut search => cases (seek_failed search.finds failed).1
  | closes live search =>
      exact ⟨(seek_failed search.finds failed).2.2,
        fun drained => absurd drained (live_of_closes live _)⟩
  | resumes found search =>
      obtain ⟨rfl, rfl, late⟩ := seek_failed search.finds failed
      exact ⟨late, fun _ => orderly.mem_of_found found⟩
  | retires found others search =>
      exact ⟨(seek_failed search.finds failed).2.2,
        fun drained => absurd drained (live_of_retires others _ _)⟩
  | reconnects => simp [Service.wait, Service.ask, Service.lift] at failed
  | leaves | yields | loses => simp [Service.drop, requeue, Service.lift] at failed
  | stays | passes => simp at failed

/-- A close that was outrun waits, or has waited for too long, or was given up. -/
inductive Stranded (number : Nat) (service : Service) : Prop where
  | waits (stands : (number, .draining) ∈ service.pool.calls)
  | late {instant : Nat}
      (ended : { number, instant, result := .closed (.error (lateFailure service.pool.timeout)) } ∈
        service.endings)
  | dropped (gone : (number, .draining) ∈ service.dropped)

theorem mem_lift {call : Nat × Stage} (stands : call ∈ service.pool.calls)
    (other : call.1 ≠ number) : call ∈ (service.lift number).pool.calls :=
  List.mem_filter.mpr ⟨stands, bne_iff_ne.mpr other⟩

theorem mem_seek {call : Nat × Stage} (stands : call ∈ service.pool.calls) (request : Request)
    (look : Look Nat Nat) : call ∈ (service.seek number request look).pool.calls := by
  rw [seek]
  split
  · exact List.mem_append_left _ stands
  · exact stands
  · exact List.mem_append_left _ stands

/-- A close that waits for a sender of a pool that has none never gets one. -/
theorem Happens.strands (happens : service.Happens event after) (orderly : Orderly size service {})
    (drained : service.pool.live = 0) (stands : (number, .draining) ∈ service.pool.calls) :
    Stranded number after := by
  have empty := (orderly.nothing_left drained).1
  have fresh : number ≠ service.requests.length := by
    rintro rfl
    exact orderly.fresh (List.mem_map_of_mem stands)
  have known := orderly.found_of_mem stands
  cases happens with
  | refuses | succeeds => exact .waits (mem_lift stands fresh)
  | @sends data look unshut search =>
      have lifted : (number, .draining) ∈
          ((service.accept (.send data)).lift service.requests.length).pool.calls :=
        mem_lift stands fresh
      exact .waits (mem_seek lifted _ _)
  | closes live search => omega
  | @resumes other request look found search =>
      -- The close itself finds no sender. Any other call leaves it where it is.
      by_cases own : number = other
      · subst own
        obtain rfl := Request.eq_close (Option.some.inj (found.symm.trans known))
        rcases seek_cases search.finds .close with ⟨_, first, _⟩ | ⟨_, _, same⟩ | ⟨_, _, same⟩
        · cases empty.symm.trans first
        · rw [same]
          exact .waits (List.mem_append_right _ (List.mem_singleton_self _))
        · rw [same]
          exact .late (List.mem_append_right _ (List.mem_singleton_self _))
      · exact .waits (mem_seek (mem_lift stands own) _ _)
  | returns found concludes pushed =>
      cases concludes.leased?.symm.trans (orderly.idle drained found).1
  | reconnects found broken => cases (orderly.idle drained found).1
  | retires found others search => omega
  | finishes found last => cases (orderly.idle drained found).2
  | @leaves other stage waiter found seeks waits own =>
      by_cases same : number = other
      · subst same
        obtain rfl : stage = .draining := Option.some.inj (found.symm.trans known)
        exact .dropped (List.mem_append_right _ (List.mem_singleton_self _))
      · exact .waits (mem_lift stands same)
  | yields found leased pushed => cases leased.symm.trans (orderly.idle drained found).1
  | loses found => cases (orderly.idle drained found).2
  | stays | passes => exact .waits stands

theorem Stranded.step (stranded : Stranded number service) (orderly : Orderly size service {})
    (drained : service.pool.live = 0) (happens : service.Happens event after) :
    Stranded number after := by
  have grows := happens.grows
  cases stranded with
  | waits stands => exact happens.strands orderly drained stands
  | late ended => exact .late (grows.timeout ▸ grows.endings.subset ended)
  | dropped gone => exact .dropped (grows.dropped.subset gone)

theorem Stranded.run (stranded : Stranded number service) (orderly : Orderly size service {})
    (drained : service.pool.live = 0) (events : List Event) :
    Stranded number (service.run events) := by
  induction events generalizing service with
  | nil => exact stranded
  | cons event rest ih =>
      have happens := orderly.happens event
      exact ih (stranded.step orderly drained happens) (orderly.step happens)
        (happens.drained orderly drained).1

/-- A close that was outrun finds no sender, and there is none. -/
theorem Outrun.stranded {origin : Service} {events : List Event}
    (outrun : origin.Outrun events number) (orderly : Orderly size origin {}) :
    (origin.run events).pool.live = 0 ∧ Stranded number (origin.run events) := by
  obtain ⟨first, other, later, rfl, waited, live, drained⟩ := outrun
  have before := orderly.run first
  have happens := before.happens (.answer other .closed)
  have split : origin.run (first ++ .answer other .closed :: later) =
      (origin.run (first ++ [.answer other .closed])).run later := by
    rw [← run_append, List.append_assoc]
    rfl
  have stranded : Stranded number (origin.run (first ++ [.answer other .closed])) := by
    rw [run_append] at drained ⊢
    obtain ⟨one, sender, same, found, done⟩ := happens.last live drained
    have different : number ≠ one := by
      rintro rfl
      cases (before.found_of_mem waited).symm.trans found
    show Stranded number ((origin.run first).step (.answer other .closed))
    rw [done]
    exact .waits (mem_lift waited different)
  have after := orderly.run (first ++ [.answer other .closed])
  rw [split]
  exact ⟨(after.run_drained drained later).1, stranded.run after drained later⟩

/-- A call is in one place only. -/
theorem Orderly.placed_once (orderly : Orderly size service {}) :
    (service.pool.calls.map Prod.fst ++ service.endings.map Ending.number ++
      service.dropped.map Prod.fst).Nodup :=
  orderly.placed.nodup_iff.mpr List.nodup_range

theorem Stranded.ending (stranded : Stranded number service) (orderly : Orderly size service {})
    {ending : Ending} (ended : ending ∈ service.endings) (own : ending.number = number) :
    ending.result = .closed (.error (lateFailure service.pool.timeout)) := by
  have once := orderly.placed_once
  have among : number ∈ service.endings.map Ending.number := own ▸ List.mem_map_of_mem ended
  rw [List.nodup_append, List.nodup_append] at once
  obtain ⟨⟨_, distinct, apart⟩, _, gone⟩ := once
  cases stranded with
  | waits stands => exact absurd rfl (apart _ (List.mem_map_of_mem stands) _ among)
  | late late => rw [List.inj_on_of_nodup_map distinct ended late own]
  | dropped left =>
      exact absurd rfl (gone _ (List.mem_append_right _ among) _ (List.mem_map_of_mem left))

/-- A close that waits where no sender is free fails at its deadline. -/
theorem Orderly.late_turn (orderly : Orderly size service {})
    (empty : service.pool.queue.items = [])
    (stands : (number, .draining) ∈ service.pool.calls) :
    (service.run [.pass service.pool.timeout, .turn number]).endings =
      service.endings ++ [
        { number
          instant := service.now + service.pool.timeout
          result := .closed (.error (lateFailure service.pool.timeout)) }] := by
  let passed : Service := { service with now := service.now + service.pool.timeout }
  have later : Orderly size passed {} := orderly.step .passes
  have happens := later.happens (.turn number)
  have known : passed.pool.calls.lookup number = some .draining := later.found_of_mem stands
  have split : service.run [.pass service.pool.timeout, .turn number] =
      passed.step (.turn number) := by
    rw [show passed = service.step (.pass service.pool.timeout) from took_nothing.symm]
    rfl
  rw [split]
  generalize passed.step (.turn number) = after at happens ⊢
  cases happens with
  | @resumes _ request look found search =>
      obtain rfl := Request.eq_close (Option.some.inj (found.symm.trans known))
      rcases seek_cases search.finds .close with ⟨_, first, _⟩ | ⟨_, goesOn, _⟩ | ⟨_, _, same⟩
      · cases empty.symm.trans first
      · -- Every deadline of the queue has come once the timeout has passed.
        obtain ⟨waiter, among, own⟩ := List.mem_map.mp (later.waits known rfl)
        have ended := search.punctual waiter among own (orderly.poppers waiter among).2.2
        rw [goesOn] at ended
        cases ended
      · rw [same]
        rfl
  | stays missed =>
      rw [reaches, known] at missed
      cases missed

/-- A close of a pool that has no live sender succeeds at once. -/
theorem Orderly.close_at_once (orderly : Orderly size service {})
    (drained : service.pool.live = 0) :
    (service.step (.request .close)).endings =
      service.endings ++ [
        { number := service.requests.length
          instant := service.now
          result := .closed (.ok ()) }] := by
  have happens := orderly.happens (.request .close)
  generalize service.step (.request .close) = after at happens ⊢
  cases happens with
  | succeeds _ => rfl
  | closes live _ => omega
  | stays missed => cases missed

/-- Closes overlap, and sends use a pool beside them, in any order. The close that closes the last
sender succeeds. A close fails only because it waited for a sender for too long, and no sender is
live then exactly if it was outrun. A close that was outrun never succeeds: it waits for a sender
that no longer exists, until its deadline. A close that comes later succeeds at once. -/
theorem closes_fail_iff {timeout : Nat} (founded : Founded size timeout service)
    (events : List Event) (number : Nat) :
    let after := service.run events
    (∀ event, 0 < after.pool.live → (after.step event).pool.live = 0 →
      ∃ other, event = .answer other .closed ∧ (after.step event).endings =
        after.endings ++ [
          { number := other, instant := after.now, result := .closed (.ok ()) }]) ∧
      (∀ event instant failure, (after.step event).endings =
          after.endings ++ [{ number, instant, result := .closed (.error failure) }] →
        failure = lateFailure timeout ∧
          ((after.step event).pool.live = 0 ↔ service.Outrun events number)) ∧
      (service.Outrun events number →
        after.pool.live = 0 ∧ Stranded number after ∧
        (∀ ending ∈ after.endings, ending.number = number →
          ending.result = .closed (.error (lateFailure timeout))) ∧
        ((number, .draining) ∈ after.pool.calls →
          (after.run [.pass timeout, .turn number]).endings =
            after.endings ++ [
              { number
                instant := after.now + timeout
                result := .closed (.error (lateFailure timeout)) }])) ∧
      (after.pool.live = 0 → (after.step (.request .close)).endings =
        after.endings ++ [
          { number := after.requests.length
            instant := after.now
            result := .closed (.ok ()) }]) := by
  intro after
  have orderly : Orderly size after {} := founded.orderly.run events
  have patience : after.pool.timeout = timeout :=
    (founded.orderly.grows events).timeout.trans founded.timeout_eq
  refine ⟨?_, ?_, ?_, orderly.close_at_once⟩
  · intro event some drained
    obtain ⟨other, sender, rfl, _, done⟩ := (orderly.happens event).last some drained
    rw [done]
    exact ⟨other, rfl, rfl⟩
  · intro event instant failure failed
    have happens := orderly.happens event
    obtain ⟨late, waited⟩ := happens.failed orderly failed
    refine ⟨patience ▸ late, fun drained => ?_, fun outrun => ?_⟩
    · have gone : after.pool.live = 0 := by
        by_contra some
        obtain ⟨other, sender, rfl, _, done⟩ := happens.last (Nat.pos_of_ne_zero some) drained
        rw [done] at failed
        simp [Service.conclude, Service.retire, Service.lift] at failed
      exact founded.orderly.outrun_of_draining founded.live events gone (waited drained)
    · exact (happens.drained orderly (outrun.stranded founded.orderly).1).1
  · intro outrun
    obtain ⟨drained, stranded⟩ := outrun.stranded founded.orderly
    refine ⟨drained, stranded, fun ending ended own => ?_, fun stands => ?_⟩
    · exact patience ▸ stranded.ending orderly ended own
    · exact patience ▸ orderly.late_turn (orderly.nothing_left drained).1 stands

/-- Two closes wait for one sender, which the first one closes. -/
def race : List Event :=
  [.request (.send [1]), .request .close, .request .close, .answer 0 (.sent (.ok 1)), .turn 1,
    .answer 1 .closed]

theorem closes_fail_race :
    let after := (opened 1 1000).run race
    Founded 1 1000 (opened 1 1000) ∧ (opened 1 1000).Outrun race 2 ∧
      after.pool.calls = [(2, .draining)] ∧ after.pool.live = 0 ∧
      (after.run [.pass 1000, .turn 2]).endings =
        after.endings ++ [
          { number := 2, instant := 1000, result := .closed (.error (lateFailure 1000)) }] := by
  have founded : Founded 1 1000 (opened 1 1000) := opened_founded (by decide) (by decide) 1000
  have outrun : (opened 1 1000).Outrun race 2 :=
    ⟨race.take 5, 1, [], rfl, by decide, by decide, by decide⟩
  have stands : ((opened 1 1000).run race).pool.calls = [(2, .draining)] := by decide
  obtain ⟨drained, _, _, late⟩ := (closes_fail_iff founded race 2).2.2.1 outrun
  exact ⟨founded, outrun, stands, drained, late (stands ▸ List.mem_singleton_self _)⟩

/-- A close fails although all senders of the pool are closed. Nobody gave a call up. -/
theorem outrun_close_fails :
    let after := (opened 1 1000).run (race ++ [.pass 1000])
    Founded 1 1000 (opened 1 1000) ∧ after.dropped = [] ∧
      (after.step (.turn 2)).pool.live = 0 ∧ (after.step (.turn 2)).closed = [0] ∧
      (after.step (.turn 2)).endings =
        after.endings ++ [
          { number := 2, instant := 1000, result := .closed (.error (lateFailure 1000)) }] :=
  ⟨opened_founded (by decide) (by decide) 1000, by decide, by decide, by decide, rfl⟩

end Service

end Pool

end ReliableTransport
