import ReliableTransport.Proofs.Pool.Outrunning
/-!
This module says what is left of a pool when no call runs, and how a close fares that comes then. A
close that is given up while its sender is being closed keeps the sender, and the pool counts it for
ever. Every other call that is given up leaves no trace.
-/

namespace ReliableTransport

namespace Pool

open BoundedQueue (Look)

namespace Service

/-- No call begins, and none is given up. -/
def Event.goesOn : Event → Bool
  | .turn _ | .answer _ _ | .pass _ => true
  | .request _ | .abandon _ => false

/-- The sender of a close is closed. -/
def Event.retires (number : Nat) : Event → Bool
  | .answer other .closed => other == number
  | _ => false

/-- How far a close has come that runs alone, and how many senders it has still to close. -/
inductive Alone (number : Nat) (before : List Ending) : Nat → Service → Prop where
  | closing {service : Service} {sender : Nat}
      (alone : service.pool.calls = [(number, .closing sender)])
      (running : service.endings = before) :
      Alone number before (service.pool.available + 1) service
  | succeeded {service : Service} {instant : Nat} (idle : service.pool.calls = [])
      (intact : service.lost = [])
      (ended : service.endings = before ++ [{ number, instant, result := .closed (.ok ()) }]) :
      Alone number before 0 service
  /-- The close waits, but the senders that the pool still counts are lost. -/
  | draining {service : Service} (alone : service.pool.calls = [(number, .draining)])
      (empty : service.pool.queue.items = []) (lacks : service.lost ≠ [])
      (running : service.endings = before) : Alone number before 0 service
  | late {service : Service} {instant : Nat} (idle : service.pool.calls = [])
      (lacks : service.lost ≠ [])
      (ended : service.endings = before ++ [
        { number, instant, result := .closed (.error (lateFailure service.pool.timeout)) }]) :
      Alone number before 0 service

variable {size number left : Nat} {before : List Ending} {service after : Service} {event : Event}

theorem lookup_alone {other : Nat} {stage found : Stage}
    (alone : service.pool.calls = [(number, stage)])
    (looked : service.pool.calls.lookup other = some found) : other = number ∧ found = stage := by
  rw [alone] at looked
  by_cases own : other = number
  · subst own
    exact ⟨rfl, by simpa using looked.symm⟩
  · have missed : (other == number) = false := beq_eq_false_iff_ne.mpr own
    simp [List.lookup_cons, missed] at looked

theorem lookup_none {other : Nat} {found : Stage} (idle : service.pool.calls = []) :
    service.pool.calls.lookup other ≠ some found := by
  simp [idle]

/-- The live senders of a pool that no call uses are free or lost. -/
theorem Orderly.live_quiet (orderly : Orderly size service {}) (quiet : service.pool.calls = []) :
    service.pool.live = service.pool.available + service.lost.length := by
  have alive := orderly.live_eq
  simpa [leased, Pool.closing, quiet] using alive

theorem Orderly.live_alone (orderly : Orderly size service {}) {stage : Stage}
    (alone : service.pool.calls = [(number, stage)]) :
    service.pool.live = service.pool.available + stage.leased?.toList.length +
      stage.closing?.toList.length + service.lost.length := by
  have alive := orderly.live_eq
  rw [leased, Pool.closing, alone] at alive
  cases stage <;> exact alive

/-- A close that runs alone and looks for a sender takes one, or finds that the senders which the
pool still counts are lost. -/
theorem Orderly.alone_of_seek {base : Service} {look : Look Nat Nat}
    (orderly : Orderly size (base.seek number .close look) {}) (idle : base.pool.calls = [])
    (running : base.endings = before) (live : 0 < base.pool.live)
    (search : Search base.now base.pool.timeout number [] base.pool.queue look) :
    Alone number before base.pool.available (base.seek number .close look) := by
  rcases seek_cases search.finds .close with ⟨sender, first, _, same⟩ | ⟨free, goesOn, same⟩ |
    ⟨free, late, same⟩
  · have alone : (((base.requeue look.queue).ask (.close sender)).wait number
        (.closing sender)).pool.calls = [(number, .closing sender)] := congrArg (· ++ _) idle
    rw [same, available, first]
    exact .closing alone running
  · have empty : base.pool.queue.items = [] := search.eager rfl (by simp [goesOn])
    have left : look.queue.items = [] := free.symm.trans empty
    rw [same] at orderly ⊢
    have alive : base.pool.live = look.queue.items.length + 0 + 0 + base.lost.length :=
      orderly.live_alone (congrArg (· ++ _) idle)
    -- A sender is live, but none is free and nobody has one, so it is lost.
    rw [available, empty]
    refine .draining (congrArg (· ++ _) idle) left (fun intact => ?_) running
    have none : base.lost = [] := intact
    simp only [left, none, List.length_nil] at alive
    omega
  · have empty : base.pool.queue.items = [] := search.eager rfl (by simp [late])
    have left : look.queue.items = [] := free.symm.trans empty
    rw [same] at orderly ⊢
    have alive : base.pool.live = look.queue.items.length + base.lost.length :=
      orderly.live_quiet idle
    rw [available, empty]
    refine .late idle (fun intact => ?_) (congrArg (· ++ _) running)
    have none : base.lost = [] := intact
    simp only [left, none, List.length_nil] at alive
    omega

/-- A close that comes when no call runs. -/
theorem Orderly.alone_start (orderly : Orderly size service {}) (quiet : service.pool.calls = []) :
    Alone service.requests.length service.endings service.pool.available
      (service.step (.request .close)) := by
  have happens := orderly.happens (.request .close)
  have ordered := orderly.step happens
  have idle : ((service.accept .close).lift service.requests.length).pool.calls = [] :=
    congrArg (List.filter _) quiet
  generalize service.step (.request .close) = after at happens ordered ⊢
  cases happens with
  | succeeds drained =>
      obtain ⟨empty, _, _, intact⟩ := orderly.nothing_left drained
      rw [available, empty]
      exact .succeeded idle intact rfl
  | closes live search => exact ordered.alone_of_seek idle rfl live search
  | stays missed => cases missed

theorem Happens.lost_eq (happens : service.Happens event after)
    (kept : ∀ other, event ≠ .abandon other) : after.lost = service.lost := by
  have sought (base : Service) (one : Nat) (request : Request) (look : Look Nat Nat) :
      (base.seek one request look).lost = base.lost := by
    rw [seek]
    split <;> rfl
  cases happens with
  | sends | closes | resumes | retires => exact sought _ _ _ _
  | refuses | succeeds | returns | reconnects | finishes | stays | passes => rfl
  | leaves | yields | loses => exact absurd rfl (kept _)

/-- An event that a close does not notice closes no sender of it. -/
theorem retires_of_missed {sender : Nat} (alone : service.pool.calls = [(number, .closing sender)])
    (missed : service.reaches event = false) : event.retires number = false := by
  cases event with
  | request | turn | abandon | pass => rfl
  | answer other answer =>
      cases answer with
      | created | connected | sent => rfl
      | closed =>
          refine beq_eq_false_iff_ne.mpr ?_
          rintro rfl
          simp [reaches, alone, Stage.awaits] at missed

/-- A close that runs alone and has a sender goes on when the sender is closed. -/
theorem Orderly.step_closing {sender : Nat} (orderly : Orderly size service {})
    (alone : service.pool.calls = [(number, .closing sender)])
    (running : service.endings = before) (happens : service.Happens event after)
    (goesOn : event.goesOn = true) :
    Alone number before
      (service.pool.available + 1 - if event.retires number then 1 else 0) after := by
  have ordered := orderly.step happens
  have alive : service.pool.live = service.pool.available + 0 + 1 + service.lost.length :=
    orderly.live_alone alone
  have gone : (service.lift number).pool.calls = [] := by
    simp [Service.lift, remove, alone]
  cases happens with
  | refuses | sends | succeeds | closes | leaves | yields | loses => cases goesOn
  | @resumes _ request look found search =>
      have same := (lookup_alone alone found).2
      cases request <;> cases same
  | returns found concludes pushed =>
      obtain ⟨_, rfl⟩ := lookup_alone alone found
      cases concludes
  | reconnects found broken => cases (lookup_alone alone found).2
  | retires found others search =>
      obtain ⟨rfl, same⟩ := lookup_alone alone found
      rw [if_pos (by simp [Event.retires]), Nat.add_sub_cancel]
      exact ordered.alone_of_seek gone running (Nat.sub_pos_of_lt others) search
  | finishes found last =>
      obtain ⟨rfl, same⟩ := lookup_alone alone found
      have none : service.pool.available = 0 ∧ service.lost.length = 0 := by omega
      rw [if_pos (by simp [Event.retires]), none.1]
      exact .succeeded gone (List.eq_nil_of_length_eq_zero none.2) (congrArg (· ++ _) running)
  | stays missed =>
      rw [retires_of_missed alone missed]
      exact .closing alone running
  | @passes millis =>
      let passed : Service := { service with now := service.now + millis }
      have later : Alone number before (passed.pool.available + 1) passed :=
        .closing alone running
      exact later

/-- A close that runs alone and waits for a lost sender waits, or fails. -/
theorem Happens.step_draining (happens : service.Happens event after)
    (goesOn : event.goesOn = true) (alone : service.pool.calls = [(number, .draining)])
    (empty : service.pool.queue.items = []) (lacks : service.lost ≠ [])
    (running : service.endings = before) : Alone number before 0 after := by
  cases happens with
  | refuses | sends | succeeds | closes | leaves | yields | loses => cases goesOn
  | @resumes other request look found search =>
      obtain ⟨rfl, waiting⟩ := lookup_alone alone found
      obtain rfl := Request.eq_close waiting
      have gone : (service.lift other).pool.calls = [] := by
        simp [Service.lift, remove, alone]
      rcases seek_cases search.finds .close with ⟨_, first, _⟩ | ⟨free, _, same⟩ | ⟨free, _, same⟩
      · cases empty.symm.trans first
      · rw [same]
        exact .draining (congrArg (· ++ _) gone) (free.symm.trans empty) lacks running
      · rw [same]
        exact .late gone lacks (congrArg (· ++ _) running)
  | returns found concludes pushed =>
      obtain ⟨_, rfl⟩ := lookup_alone alone found
      cases concludes
  | reconnects found | retires found | finishes found => cases (lookup_alone alone found).2
  | stays | passes => exact .draining alone empty lacks running

/-- Nothing happens to a pool that no call uses, as long as none begins. -/
theorem Happens.step_idle (happens : service.Happens event after) (goesOn : event.goesOn = true)
    (idle : service.pool.calls = []) :
    after.pool = service.pool ∧ after.endings = service.endings ∧ after.lost = service.lost := by
  cases happens with
  | refuses | sends | succeeds | closes | leaves | yields | loses => cases goesOn
  | resumes found | returns found | reconnects found | retires found | finishes found =>
      exact absurd found (lookup_none idle)
  | stays | passes => exact ⟨rfl, rfl, rfl⟩

theorem Alone.step (alone : Alone number before left service) (orderly : Orderly size service {})
    (happens : service.Happens event after) (goesOn : event.goesOn = true) :
    Alone number before (left - if event.retires number then 1 else 0) after := by
  cases alone with
  | closing alone running => exact orderly.step_closing alone running happens goesOn
  | succeeded idle intact ended =>
      obtain ⟨pool, endings, lost⟩ := happens.step_idle goesOn idle
      rw [Nat.zero_sub]
      exact .succeeded (pool ▸ idle) (lost.trans intact) (endings.trans ended)
  | draining alone empty lacks running =>
      rw [Nat.zero_sub]
      exact happens.step_draining goesOn alone empty lacks running
  | late idle lacks ended =>
      obtain ⟨pool, endings, lost⟩ := happens.step_idle goesOn idle
      rw [Nat.zero_sub]
      exact .late (pool ▸ idle) (lost ▸ lacks) (pool ▸ endings.trans ended)

theorem Alone.run (alone : Alone number before left service) (orderly : Orderly size service {})
    {later : List Event} (goesOn : ∀ event ∈ later, event.goesOn = true) :
    Alone number before (left - later.countP (Event.retires number)) (service.run later) ∧
      (service.run later).lost = service.lost := by
  induction later generalizing left service with
  | nil => exact ⟨alone, rfl⟩
  | cons event rest ih =>
      rw [List.forall_mem_cons] at goesOn
      have happens := orderly.happens event
      obtain ⟨still, same⟩ := ih (alone.step orderly happens goesOn.1) (orderly.step happens) goesOn.2
      rw [Nat.sub_sub, Nat.add_comm] at still
      rw [List.countP_cons]
      refine ⟨still, same.trans (happens.lost_eq ?_)⟩
      rintro other rfl
      cases goesOn.1

/-- A pool has lost a sender exactly if a close was given up while its sender was being closed. -/
theorem lost_eq_nil_iff :
    service.lost = [] ↔ ∀ entry ∈ service.dropped, entry.2.closing? = none :=
  List.filterMap_eq_nil_iff

/-- A pool that has lost a sender never has none, and no close of it succeeds. -/
theorem Orderly.never_closed (orderly : Orderly size service {}) (lacks : service.lost ≠ [])
    (later : List Event) :
    ∀ ending ∈ (service.run later).endings, ending.result ≠ .closed (.ok ()) := by
  intro ending ended succeeded
  have after := orderly.run later
  have none := (after.nothing_left (after.closed_of_ending ended succeeded).1).2.2.2
  have grows : service.lost <+: (service.run later).lost :=
    (orderly.grows later).dropped.filterMap _
  rw [none] at grows
  exact lacks (List.prefix_nil.mp grows)

/-- Calls use a pool in any order, and any of them may be given up at any point. When none of them
runs, the live senders are those that are free and those that were lost with a close. If none was
lost, a close that comes then and runs alone never waits: it closes one free sender after the other,
and then succeeds. Otherwise no close ever succeeds: after the free senders this one waits for one
that no longer exists, until its deadline. Among other calls, and as long as no sender is lost, a
close waits for one that no longer exists exactly if it was outrun. -/
theorem quiet_close_iff {timeout : Nat} (founded : Founded size timeout service)
    (events : List Event) (quiet : (service.run events).pool.calls = []) :
    let after := service.run events
    let number := after.requests.length
    let late (instant : Nat) : Ending :=
      { number, instant, result := .closed (.error (lateFailure timeout)) }
    after.pool.live = after.pool.available + after.lost.length ∧
      (after.pool.live = after.pool.available ↔
        ∀ entry ∈ after.dropped, entry.2.closing? = none) ∧
      (after.pool.live ≠ after.pool.available → ∀ later,
        ∀ ending ∈ (after.run later).endings, ending.result ≠ .closed (.ok ())) ∧
      (∀ later other, let done := after.run later
        done.lost = [] → (other, .draining) ∈ done.pool.calls →
          (done.pool.available = 0 ∧ done.pool.leased = [] ∧ done.pool.closing = [] ↔
            service.Outrun (events ++ later) other)) ∧
      ∀ later, (∀ event ∈ later, event.goesOn = true) →
        let done := after.run (.request .close :: later)
        if later.countP (Event.retires number) < after.pool.available then
          (∃ sender, done.pool.calls = [(number, .closing sender)]) ∧
            done.endings = after.endings
        else if after.pool.live = after.pool.available then
          done.pool.calls = [] ∧ ∃ instant, done.endings =
            after.endings ++ [{ number, instant, result := .closed (.ok ()) }]
        else
          (done.pool.calls = [(number, .draining)] ∧ done.endings = after.endings ∧
            (done.run [.pass timeout, .turn number]).endings =
              after.endings ++ [late (done.now + timeout)]) ∨
          (done.pool.calls = [] ∧ ∃ instant, done.endings = after.endings ++ [late instant]) := by
  intro after number late
  have orderly : Orderly size after {} := founded.orderly.run events
  have alive := orderly.live_quiet quiet
  have intact : after.pool.live = after.pool.available ↔ after.lost = [] := by
    rw [← List.length_eq_zero_iff]
    omega
  refine ⟨alive, intact.trans lost_eq_nil_iff,
    fun lacks later => orderly.never_closed (fun none => lacks (intact.mpr none)) later, ?_, ?_⟩
  · intro later other done none waits
    have ordered : Orderly size done {} := orderly.run later
    have joined : service.run (events ++ later) = done := run_append service events later
    have alive := ordered.live_eq
    rw [none] at alive
    refine ⟨fun ⟨free, leased, closing⟩ => ?_, fun outrun => ?_⟩
    · rw [free, leased, closing] at alive
      exact founded.orderly.outrun_of_draining founded.live (events ++ later) (joined ▸ alive)
        (joined ▸ waits)
    · have drained : done.pool.live = 0 := joined ▸ (outrun.stranded founded.orderly).1
      obtain ⟨free, leased, closing, _⟩ := ordered.nothing_left drained
      exact ⟨List.length_eq_zero_iff.mpr free, leased, closing⟩
  intro later goesOn done
  have first := orderly.step (orderly.happens (.request .close))
  have ordered : Orderly size done {} := orderly.run (.request .close :: later)
  have patience : done.pool.timeout = timeout := by
    have grows := (founded.orderly.grows events).trans (orderly.grows (.request .close :: later))
    exact grows.timeout.trans founded.timeout_eq
  obtain ⟨alone, same⟩ : Alone number after.endings
      (after.pool.available - later.countP (Event.retires number)) done ∧
        done.lost = (after.step (.request .close)).lost :=
    (orderly.alone_start quiet).run first goesOn
  have kept : done.lost = after.lost :=
    same.trans ((orderly.happens (.request .close)).lost_eq fun _ impossible => by
      cases impossible)
  rw [← kept] at intact
  generalize left : after.pool.available - later.countP (Event.retires number) = rest at alone
  cases alone with
  | @closing _ sender alone running =>
      rw [if_pos (by omega)]
      exact ⟨⟨sender, alone⟩, running⟩
  | @succeeded _ instant idle none ended =>
      rw [if_neg (by omega), if_pos (intact.mpr none)]
      exact ⟨idle, instant, ended⟩
  | draining alone empty lacks running =>
      rw [if_neg (by omega), if_neg (fun all => lacks (intact.mp all))]
      have waits : (number, .draining) ∈ done.pool.calls := alone ▸ List.mem_singleton_self _
      have ended := ordered.late_turn empty waits
      rw [patience, running] at ended
      exact .inl ⟨alone, running, ended⟩
  | @late _ instant idle lacks ended =>
      rw [if_neg (by omega), if_neg (fun all => lacks (intact.mp all))]
      rw [patience] at ended
      exact .inr ⟨idle, instant, ended⟩

/-- A close is given up while it waits, and both senders come back. -/
def restored : List Event :=
  [.request (.send [1]), .request (.send [2]), .request .close, .abandon 2,
    .answer 0 (.sent (.ok 1)), .answer 1 (.sent (.ok 1))]

/-- A close is given up while a sender is being closed, and only the other one comes back. -/
def deprived : List Event :=
  [.request (.send [1]), .request .close, .abandon 1, .answer 0 (.sent (.ok 1))]

theorem quiet_close_iff_restored_deprived :
    let after := (opened 2 100).run restored
    let short := (opened 2 100).run deprived
    Founded 2 100 (opened 2 100) ∧ after.pool.calls = [] ∧ after.pool.live = 2 ∧
      after.pool.available = 2 ∧
      (∃ instant, (after.run [.request .close, .answer 3 .closed, .answer 3 .closed]).endings =
        after.endings ++ [{ number := 3, instant, result := .closed (.ok ()) }]) ∧
      short.pool.calls = [] ∧ short.pool.live = 2 ∧ short.pool.available = 1 ∧
      (∀ later, ∀ ending ∈ (short.run later).endings, ending.result ≠ .closed (.ok ())) ∧
      (short.run [.request .close, .answer 2 .closed]).pool.calls = [(2, .draining)] := by
  have founded : Founded 2 100 (opened 2 100) := opened_founded (by decide) (by decide) 100
  obtain ⟨_, _, _, _, whole⟩ := quiet_close_iff founded restored (by decide)
  obtain ⟨_, _, never, _, part⟩ := quiet_close_iff founded deprived (by decide)
  have succeeds := whole [.answer 3 .closed, .answer 3 .closed] (by simp [Event.goesOn])
  have strands := part [.answer 2 .closed] (by simp [Event.goesOn])
  rw [if_neg (by decide), if_pos (by decide)] at succeeds
  rw [if_neg (by decide), if_neg (by decide)] at strands
  refine ⟨founded, by decide, by decide, by decide, succeeds.2, by decide, by decide, by decide,
    never (by decide), ?_⟩
  rcases strands with ⟨waits, _⟩ | ⟨idle, _⟩
  · exact waits
  · exact absurd idle (by decide)

/-- A close is given up while its sender is being closed. No call runs, but the pool counts a sender
that no longer exists, and the next close waits for it in vain. -/
theorem given_up_close_strands :
    let after := (opened 1 1000).run [.request .close, .abandon 0]
    Founded 1 1000 (opened 1 1000) ∧ after.pool.calls = [] ∧ after.pool.live = 1 ∧
      after.pool.available = 0 ∧
      (after.run [.request .close, .pass 1000, .turn 1]).endings =
        [{ number := 1, instant := 1000, result := .closed (.error (lateFailure 1000)) }] :=
  ⟨opened_founded (by decide) (by decide) 1000, by decide, by decide, by decide, rfl⟩

end Service

end Pool

end ReliableTransport
