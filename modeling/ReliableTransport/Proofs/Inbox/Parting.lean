import ReliableTransport.Proofs.Inbox.Exactness
/-!
This module says how an inbox parts from its source. It can be closed and disposed of in any order,
any number of times and at any point of its work. What it heard of before is still delivered, what
is told later is not, and its own subscription is the only one that goes.
-/

namespace ReliableTransport

namespace Inbox

open Mailbox (Role)

variable {Handler Other : Type}

namespace Course

variable {batched : Bool} {own : Nat} {course : Course Handler Other}

/-- All that was heard is done with: it is unpacked, its messages are delivered, and the handlers
were called. -/
structure Settled (batched : Bool) (course : Course Handler Other) : Prop where
  worked : worked course.log = heard course.log
  delivered : delivered course.log = (unpacked batched (heard course.log)).flatten
  acted : acts course.log = due {} course.log

theorem Custody.settled (custody : Custody own course) (faithful : Faithful batched course)
    (pass : course.pass = {}) (queue : course.inbox.mailbox.queue = []) :
    Settled batched course := by
  obtain ⟨messages, _, acted⟩ := faithful.of_rests pass queue
  have conserved := custody.conserved
  rw [pass, queue] at conserved
  exact {
    worked := by simpa using conserved
    delivered := messages
    acted }

/-- Once the worker has ended, nothing is left. -/
theorem Custody.settled_of_ended (custody : Custody own course)
    (faithful : Faithful batched course) (stopped : course.inbox.mailbox.isOver = true) :
    Settled batched course := by
  have ended : course.inbox.mailbox.worker = .ended := by
    rw [Mailbox.isOver, Bool.or_eq_true, beq_iff_eq, beq_iff_eq] at stopped
    exact stopped.resolve_right custody.whole
  have idle : course.inbox.mailbox.worker ≠ .busy := by
    rw [ended]
    exact Mailbox.Worker.noConfusion
  exact custody.settled faithful (custody.idle idle) (custody.ended ended).2

/-- The inbox is at its source until it is closed or disposed of, and never again after that. -/
theorem Custody.entries (custody : Custody own course) :
    (course.inbox.source.listeners.entries.filter fun entry => entry.2.isInbox) =
      if left course.log then [] else [(own, .inbox)] := by
  cases hasLeft : left course.log with
  | true =>
      have gone := (custody.parted hasLeft).gone
      rw [ears_eq, List.countP_eq_length_filter, List.length_eq_zero_iff] at gone
      rw [gone, if_pos rfl]
  | false =>
      obtain ⟨_, _, _, own_iff, once⟩ := custody.attached hasLeft
      rw [ears_eq, List.countP_eq_length_filter, List.length_eq_one_iff] at once
      obtain ⟨⟨id, listener⟩, only⟩ := once
      have among : (id, listener) ∈ course.inbox.source.listeners.entries.filter
          fun entry => entry.2.isInbox := by
        rw [only]
        exact List.mem_singleton_self _
      obtain ⟨registered, isInbox⟩ := List.mem_filter.mp among
      obtain rfl := (own_iff _ registered).mpr isInbox
      rw [only, if_neg Bool.false_ne_true]
      cases listener with
      | inbox => rfl
      | other => cases isInbox

/-- Whoever closes or disposes of the inbox strikes its subscription off, and no other one. -/
theorem Custody.source_of_leave (custody : Custody own course) {call : Call Handler}
    (leaves : call = .close ∨ call = .dispose) :
    (course.step (.call call)).inbox.source =
      { course.inbox.source with
        listeners := { course.inbox.source.listeners with
          entries := course.inbox.source.listeners.entries.filter
            fun entry => !entry.2.isInbox } } := by
  have gone : course.inbox.unsubscribeFromSource.source =
      { course.inbox.source with
        listeners := { course.inbox.source.listeners with
          entries := course.inbox.source.listeners.entries.filter
            fun entry => !entry.2.isInbox } } := by
    cases hasLeft : left course.log with
    | false => rw [unsubscribeFromSource_of_attached (custody.attached hasLeft)]
    | true =>
        have all : (course.inbox.source.listeners.entries.filter fun entry => !entry.2.isInbox) =
            course.inbox.source.listeners.entries := by
          rw [List.filter_eq_self]
          intro entry among
          have none := (custody.parted hasLeft).gone
          rw [ears_eq, List.countP_eq_zero] at none
          simpa using none entry among
        rw [unsubscribeFromSource_of_parted (custody.parted hasLeft), all]
  rcases leaves with rfl | rfl <;> exact gone

/-- A call that is over has the number of the call that was made. -/
theorem results_call (course : Course Handler Other) (call : Call Handler) :
    ∀ result ∈ Effect.results (course.turn (.call call)).2, result.1 = .caller course.calls := by
  intro result among
  cases call with
  | close =>
      rw [turn, start, Effect.results_append, Mailbox.results_wakeWorker, List.nil_append] at among
      split at among
      · cases among
      · rw [List.mem_singleton.mp among]
  | fire | dispose =>
      rw [turn, start, Effect.results_append, Mailbox.results_wakeWorker, List.nil_append] at among
      rw [List.mem_singleton.mp among]
  | subscribe | unsubscribe | reset => rw [List.mem_singleton.mp among]

/-- Whoever closes first waits if the worker has not ended, and is told so at once otherwise. -/
theorem Custody.close_first (custody : Custody own course) (first : closers course.log = []) :
    if course.inbox.mailbox.isOver then
      Effect.results (course.turn (.call .close)).2 = [(.caller course.calls, .done)]
    else
      Effect.results (course.turn (.call .close)).2 = [] ∧
        (course.step (.call .close)).inbox.mailbox.joiner = some (.caller course.calls) := by
  have free := custody.joinable.mpr first
  obtain ⟨source, gone⟩ := unsubscribeFromSource_frame course.inbox
  have same : course.inbox.mailbox.close.isOver = course.inbox.mailbox.isOver := rfl
  rw [Course.step, turn, start, gone]
  cases stopped : course.inbox.mailbox.isOver with
  | true =>
      simp only [Mailbox.join, free, same, stopped, Effect.results_append,
        Mailbox.results_wakeWorker]
      rfl
  | false => simp [Mailbox.join, free, same, stopped, Mailbox.results_wakeWorker]

/-- Whoever closes first and is told so is told by a worker that has ended. -/
theorem Custody.over_of_return (custody : Custody own course) {event : Event Handler Other}
    {number : Nat} (returns : (.caller number, .done) ∈ Effect.results (course.turn event).2)
    (first : (closers (course.step event).log).head? = some number) :
    (course.step event).inbox.mailbox.isOver = true := by
  cases event with
  | call call =>
      obtain rfl : number = course.calls := Role.caller.inj (results_call course call _ returns)
      -- Nobody closed before, since the numbers of earlier calls are smaller.
      have nobody (same : (closers course.log).head? = some course.calls) : False :=
        Nat.lt_irrefl _ (custody.early _ (List.mem_of_head? same))
      cases call with
      | close =>
          rw [Course.step, Call.deeds, closers_concat] at first
          have none : closers course.log = [] := by
            cases former : closers course.log with
            | nil => rfl
            | cons number rest =>
                rw [former] at first nobody
                exact (nobody first).elim
          have told := custody.close_first none
          have same : (course.step (.call .close)).inbox.mailbox.isOver =
              course.inbox.mailbox.isOver := by
            obtain ⟨joiner, closed, _⟩ := course.turn_close
            rw [Course.step, closed]
            rfl
          cases stopped : course.inbox.mailbox.isOver with
          | true => rw [same, stopped]
          | false =>
              rw [stopped, if_neg Bool.false_ne_true] at told
              rw [told.1] at returns
              cases returns
      | fire packages =>
          rw [Course.step, Call.deeds, (log_tells course.log packages).2.2.1] at first
          exact (nobody first).elim
      | subscribe | unsubscribe | reset | dispose =>
          refine (nobody ?_).elim
          simpa [Course.step, Call.deeds, Deed.closer?] using first
  | turn caller =>
      rw [turn, await] at returns
      obtain ⟨joiner, same, _⟩ := await_frame course.inbox (.caller caller)
      rw [Course.step, turn, same]
      split at returns
      next stopped => exact (Bool.and_eq_true_iff.mp stopped).1
      · cases returns
  | work | abandon | announce | tell | listen | unlisten => cases returns

/-- No call takes the place of whoever waits for the worker's end. -/
theorem Custody.joiner_of_call (custody : Custody own course) {number : Nat}
    (waits : course.inbox.mailbox.joiner = some (.caller number)) (call : Call Handler) :
    (course.step (.call call)).inbox.mailbox.joiner = some (.caller number) := by
  cases call with
  | fire packages =>
      obtain ⟨bytesReceived, queue, fired⟩ := fireAll_frame packages course.inbox
      rw [Course.step, turn, start, fired]
      exact waits
  | close =>
      obtain ⟨joiner, closed, kept⟩ := course.turn_close
      have taken : course.inbox.mailbox.joinable = false := by
        cases free : course.inbox.mailbox.joinable with
        | false => rfl
        | true =>
            rw [custody.alone free] at waits
            cases waits
      rw [Course.step, closed]
      exact (kept taken).trans waits
  | dispose =>
      rw [Course.step, course.turn_dispose]
      exact waits
  | subscribe | unsubscribe | reset => exact waits

/-- Whoever waits for the worker's end goes on to wait until it is told of it, or gives up. -/
theorem Custody.waits_on (custody : Custody own course) {number : Nat}
    (waits : course.inbox.mailbox.joiner = some (.caller number)) (event : Event Handler Other) :
    (course.step event).inbox.mailbox.joiner = some (.caller number) ∨ event = .abandon number ∨
      (.caller number, .done) ∈ Effect.results (course.turn event).2 := by
  cases event with
  | call call => exact .inl (custody.joiner_of_call waits call)
  | work => exact .inl ((work_keeps course).2.2.trans waits)
  | turn caller =>
      rw [Course.step, turn, await]
      split
      next told =>
        have same := (Bool.and_eq_true_iff.mp told).2
        rw [waits, beq_iff_eq] at same
        obtain rfl := Role.caller.inj (Option.some.inj same)
        exact .inr (.inr (List.mem_singleton_self _))
      · exact .inl waits
  | abandon caller =>
      by_cases own : caller = number
      · exact .inr (.inl (congrArg _ own))
      · rw [Course.step, Mailbox.unjoin, waits, if_neg (by simpa using Ne.symm own)]
        exact .inl waits
  | announce | listen => exact .inl waits
  | tell position =>
      rw [Course.step]
      split
      · exact .inl waits
      next package _ =>
        obtain ⟨queue, pushed⟩ := course.inbox.mailbox.pushAll_frame [package]
        have same : (course.inbox.mailbox.push package).1 = { course.inbox.mailbox with queue } :=
          pushed
        refine .inl ?_
        simp only [same]
        exact waits
  | unlisten id =>
      rw [Course.step]
      split
      · exact .inl waits
      · exact .inl waits

/-- Whatever happens is added to the log. -/
theorem log_step (course : Course Handler Other) (event : Event Handler Other) :
    ∃ more, (course.step event).log = course.log ++ more := by
  cases event with
  | call => exact ⟨_, rfl⟩
  | work =>
      generalize next : course.work = after
      rw [Course.step, next]
      cases next ▸ works course with
      | calls | delivers | opens | discards => exact ⟨_, rfl⟩
      | ends | begins => exact ⟨[], (List.append_nil _).symm⟩
  | tell position =>
      rw [Course.step]
      split
      · exact ⟨[], (List.append_nil _).symm⟩
      · exact ⟨_, rfl⟩
  | unlisten id =>
      rw [Course.step]
      split <;> exact ⟨[], (List.append_nil _).symm⟩
  | turn | abandon | announce | listen => exact ⟨[], (List.append_nil _).symm⟩

theorem heard_append_of_left {log : List (Deed Handler)} (gone : left log = true)
    (more : List (Deed Handler)) : heard (log ++ more) = heard log := by
  induction log with
  | nil => cases gone
  | cons deed rest ih =>
      rw [List.cons_append, heard, heard]
      cases leaves : deed.isLeave with
      | true => rfl
      | false =>
          have later : left rest = true := by simpa [left, leaves] using gone
          simp only [ih later]

theorem closers_of_not_left {log : List (Deed Handler)} (stays : left log = false) :
    closers log = [] := by
  rw [closers, List.filterMap_eq_nil_iff]
  intro deed among
  have spared := List.any_eq_false.mp stays deed among
  cases deed with
  | closes => exact absurd rfl spared
  | _ => rfl

/-- Once the inbox has left, nothing that is told reaches it. -/
theorem heard_run_of_left (events : List (Event Handler Other)) {course : Course Handler Other}
    (gone : left course.log = true) : heard (course.run events).log = heard course.log := by
  induction events generalizing course with
  | nil => rfl
  | cons event rest ih =>
      obtain ⟨more, grown⟩ := course.log_step event
      have still : left (course.step event).log = true := by
        rw [grown, left, List.any_append]
        exact Bool.or_eq_true_iff.mpr (.inl gone)
      have same : heard (course.run (event :: rest)).log = _ := ih still
      rw [same, grown, heard_append_of_left gone]

/-- Whoever waits for the worker's end is told of it when the worker comes to rest. -/
theorem Custody.told (custody : Custody own course) {number : Nat} {last : Course Handler Other}
    (waits : course.inbox.mailbox.joiner = some (.caller number)) (rests : Rests last)
    (closed : last.inbox.mailbox.closed = course.inbox.mailbox.closed)
    (joiner : last.inbox.mailbox.joiner = course.inbox.mailbox.joiner) :
    Effect.results (last.turn (.turn number)).2 = [(.caller number, .done)] := by
  have gone : left course.log = true := by
    cases hasLeft : left course.log with
    | true => rfl
    | false =>
        have none := custody.alone (custody.joinable.mpr (closers_of_not_left hasLeft))
        rw [none] at waits
        cases waits
  have ended : last.inbox.mailbox.worker = .ended := by
    rw [rests.worker, closed, (custody.parted gone).closed]
    rfl
  have stopped : last.inbox.mailbox.isOver = true := by
    rw [Mailbox.isOver, ended]
    rfl
  rw [turn, await, stopped, joiner, waits, Bool.true_and, if_pos (beq_self_eq_true _)]
  rfl

/-- The inbox is closed and disposed of at any time, while packages come in and the worker goes on.
What the source told before the first of these calls is worked on once and in order, and nothing
else is. The worker needs nobody else for that. The first close returns when all of it is done with,
unless it is given up. These calls take the one subscription of the inbox from the source, and leave
all others where they are. -/
theorem run_parts {settings : InboxSettings} (valid : settings.check = .ok ())
    (room : Memory.hasRoom settings.packagesPerPass Package.slotSize = true) {source : Source Other}
    (foreign : Foreign source) (events : List (Event Handler Other)) :
    ∃ inbox : Inbox Handler Other, create settings source = .ok (.ok inbox) ∧
      let after := (opened inbox).run events
      worked after.log ++ (after.pass.packages ++ after.inbox.mailbox.queue) = heard after.log ∧
      (∀ packages, heard (after.step (.call (.fire packages))).log =
        if left after.log then heard after.log else heard after.log ++ packages) ∧
      (∀ package, (after.step (.announce package)).underway =
        after.underway ++ if left after.log then [] else [package]) ∧
      (∀ position package, after.underway[position]? = some package →
        heard (after.step (.tell position)).log =
          if left after.log then heard after.log else heard after.log ++ [package]) ∧
      (left after.log = true → ∀ more, heard (after.run more).log = heard after.log ∧
        worked (after.run more).log <+: heard after.log) ∧
      (∃ turns, let last := after.run (List.replicate turns .work)
        Settled settings.batched last ∧ heard last.log = heard after.log ∧
          ∀ number, after.inbox.mailbox.joiner = some (.caller number) →
            Effect.results (last.turn (.turn number)).2 = [(.caller number, .done)]) ∧
      (∀ event number, (.caller number, .done) ∈ Effect.results (after.turn event).2 →
        (closers (after.step event).log).head? = some number →
        Settled settings.batched (after.step event)) ∧
      (closers after.log = [] →
        if after.inbox.mailbox.isOver then
          Effect.results (after.turn (.call .close)).2 = [(.caller after.calls, .done)]
        else
          Effect.results (after.turn (.call .close)).2 = [] ∧
            (after.step (.call .close)).inbox.mailbox.joiner = some (.caller after.calls)) ∧
      (∀ event number, after.inbox.mailbox.joiner = some (.caller number) →
        (after.step event).inbox.mailbox.joiner = some (.caller number) ∨
          event = .abandon number ∨
          (.caller number, .done) ∈ Effect.results (after.turn event).2) ∧
      (after.inbox.source.listeners.entries.filter fun entry => entry.2.isInbox) =
        (if left after.log then [] else [(source.listeners.nextId, .inbox)]) ∧
      ∀ call, call = .close ∨ call = .dispose →
        (after.step (.call call)).inbox.source =
          { after.inbox.source with
            listeners := { after.inbox.source.listeners with
              entries := after.inbox.source.listeners.entries.filter
                fun entry => !entry.2.isInbox } } := by
  obtain ⟨inbox, created, exact, custody⟩ := @opened_exact Handler _ _ valid room _ foreign
  refine ⟨inbox, created, ?_⟩
  intro after
  have kept : Custody source.listeners.nextId after := custody.run events
  have accurate : Exact settings.batched after := exact.run events
  refine ⟨kept.conserved, ?_, ?_, ?_, ?_, ?_, ?_, kept.close_first, ?_, kept.entries, ?_⟩
  · exact fun packages => (log_tells after.log packages).2.2.2
  · intro package
    have ears : ears after.inbox.source = if left after.log then 0 else 1 := by
      cases hasLeft : left after.log with
      | true => exact (kept.parted hasLeft).gone
      | false => exact (kept.attached hasLeft).once
    rw [Course.step, ears]
    cases left after.log <;> rfl
  · intro position package found
    rw [Course.step, found]
    exact (log_tells after.log [package]).2.2.2
  · intro gone more
    have same := heard_run_of_left more gone
    refine ⟨same, ?_⟩
    rw [← same, ← (kept.run more).conserved]
    exact List.prefix_append _ _
  · obtain ⟨turns, rests, told, closed, joiner⟩ := kept.exists_rest
    have later := kept.run (List.replicate turns .work)
    have faithful := (accurate.run (List.replicate turns .work)).faithful later
    exact ⟨turns, later.settled faithful rests.pass rests.queue, told,
      fun number waits => kept.told waits rests closed joiner⟩
  · intro event number returns first
    have later := kept.step event
    exact later.settled_of_ended ((accurate.step event).faithful later)
      (kept.over_of_return returns first)
  · exact fun event number waits => kept.waits_on waits event
  · exact fun call leaves => kept.source_of_leave leaves

/-- Two packages come in, and the inbox is disposed of before the worker is done with the first one.
A package that was on its way and one that is fired later are lost on it. Whoever closes it then is
told when the first two were delivered. -/
theorem run_parts_disposed :
    let settings : InboxSettings := { packagesPerPass := 1 }
    let source : Source Unit := { listeners := { nextId := 1, entries := [(0, .other ())] } }
    let holds (data : Bytes) : Package := { remote := .loopback 1000, data }
    let events : List (Event Unit Unit) :=
      [.call (.subscribe ()), .call (.fire [holds [1], holds [2]]), .work, .announce (holds [3]),
        .call .dispose, .tell 0, .call (.fire [holds [4]]), .call .close]
    ∃ inbox : Inbox Unit Unit, create settings source = .ok (.ok inbox) ∧
      let after := (opened inbox).run events
      after.inbox.source.listeners.entries = [(0, .other ())] ∧
        ∃ turns, let last := after.run (List.replicate turns .work)
          worked last.log = [holds [1], holds [2]] ∧
            delivered last.log = [holds [1], holds [2]] ∧
            Effect.results (last.turn (.turn 4)).2 = [(.caller 4, .done)] := by
  intro settings source holds events
  have valid : settings.check = .ok () := rfl
  have room : Memory.hasRoom settings.packagesPerPass Package.slotSize = true := rfl
  have foreign : Foreign source := by
    constructor <;> simp [source, Listener.isInbox]
  obtain ⟨inbox, created, _, _, _, _, _, rests, _⟩ := run_parts valid room foreign events
  have reached : let after := (opened inbox).run events
      after.inbox.source.listeners.entries = [(0, .other ())] ∧
        after.inbox.mailbox.joiner = some (.caller 4) ∧
        heard after.log = [holds [1], holds [2]] := by
    cases created
    decide
  obtain ⟨others, waits, heardOf⟩ := reached
  obtain ⟨turns, settled, same, told⟩ := rests
  refine ⟨inbox, created, others, turns, ?_, ?_, told 4 waits⟩
  · rw [settled.worked, same, heardOf]
  · rw [settled.delivered, same, heardOf]
    rfl

/-- Memory has no room for a pass. The first close returns, although a package was heard of that
nobody ever worked on. -/
theorem roomless_close_loses :
    let package : Package := { remote := .loopback 1000, data := [97] }
    let events : List (Event Unit Unit) := [.call (.fire [package]), .call .close, .work]
    ∃ inbox : Inbox Unit Unit,
      create { packagesPerPass := 18446744073709551615 } {} = .ok (.ok inbox) ∧
      let after := (opened inbox).run events
      heard after.log = [package] ∧ closers after.log = [1] ∧
        Effect.results (after.turn (.turn 1)).2 = [(.caller 1, .done)] ∧
        ∀ turns, worked ((after.step (.turn 1)).run (List.replicate turns .work)).log = [] := by
  intro package events
  obtain ⟨inbox, created⟩ : ∃ inbox : Inbox Unit Unit,
    create { packagesPerPass := 18446744073709551615 } {} = .ok (.ok inbox) := ⟨_, rfl⟩
  refine ⟨inbox, created, ?_⟩
  cases created
  refine ⟨by decide, by decide, rfl, fun turns => ?_⟩
  rw [run_of_broken rfl rfl]
  rfl

end Course

end Inbox

end ReliableTransport
