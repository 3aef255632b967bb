import ReliableTransport.Proofs.Outbox.Closing
/-!
This module follows an outbox that is closed once, by a caller that waits. The close can always
return, and when it does, every message that was accepted went with one send or was refused, every
failed send was told once, and the counts are those of the sends that succeeded.
-/

namespace ReliableTransport

namespace Outbox

open Mailbox (Role)

variable {Handler : Type} {settings : OutboxSettings} {maxFrame : Nat} {outbox : Outbox Handler}

/-- A worker without anything to do is over after its next turn if the outbox is closed. -/
theorem Steady.work_over (steady : outbox.Steady) (landed : outbox.flight = none)
    (empty : outbox.mailbox.queue = []) (closed : outbox.mailbox.closed = true) :
    (outbox.work : Turn (Outbox Handler) Role (Order Handler) Reply).1.mailbox.isOver = true := by
  rw [work, empty, List.length_nil, beginPasses]
  obtain ⟨_, waits | ⟨ended, _, _⟩⟩ := steady.rests landed
  · rw [Mailbox.takePass_of_empty waits steady.room empty, closed]
    rfl
  · rw [Mailbox.takePass_of_not_waiting (by rw [ended]; decide)]
    simp only [Mailbox.isOver, ended]
    rfl

namespace Journal

open Dispatch (Event)

variable {journal : Journal Handler} {event : Event Handler}

/-- Nothing but a close, a return and a caller that gives up changes who waits for the worker. -/
theorem step_door {turn : Turn (Outbox Handler) Role (Order Handler) Reply}
    (turned : journal.dispatch.turn event = turn) (goes : journal.dispatch.Goes event turn)
    (opens : event.closes = false) :
    let mailbox := (journal.step event).dispatch.outbox.mailbox
    mailbox.joinable = journal.dispatch.outbox.mailbox.joinable ∧
      mailbox.closed = journal.dispatch.outbox.mailbox.closed ∧
      (mailbox.joiner = journal.dispatch.outbox.mailbox.joiner ∨
        (∃ task, event = .abandon task ∧
          journal.dispatch.outbox.mailbox.joiner = some task) ∨
        ∃ caller, journal.dispatch.Returns caller event) := by
  intro mailbox
  have reached : mailbox = turn.1.mailbox := by
    simp only [mailbox, Journal.step, Dispatch.step, turned]
  rw [reached]
  cases goes with
  | works landed advances | lands aloft latest advances =>
      rw [advances.mailbox]
      exact ⟨rfl, rfl, Or.inl rfl⟩
  | takes | restarts | stays => exact ⟨rfl, rfl, Or.inl rfl⟩
  | joins | leaves => cases opens
  | @returns caller ending finished joined =>
      exact ⟨rfl, rfl, Or.inr (Or.inr
        ⟨caller, (journal.dispatch.returns_resume_iff caller ending).mpr ⟨finished, joined⟩⟩)⟩
  | @forgets task joined => exact ⟨rfl, rfl, Or.inr (Or.inl ⟨task, rfl, joined⟩)⟩

/-- An outbox that was not closed. -/
structure Opening (origin journal : Journal Handler) : Prop where
  serving : journal.Serving
  alike : journal.dispatch.outbox.Alike origin.dispatch.outbox
  first : journal.dispatch.outbox.mailbox.joinable = true

/-- An outbox with a caller that waits for its worker. -/
structure Waiting (origin journal : Journal Handler) (caller : Nat) : Prop where
  serving : journal.Serving
  alike : journal.dispatch.outbox.Alike origin.dispatch.outbox
  closed : journal.dispatch.outbox.mailbox.closed = true
  joined : journal.dispatch.outbox.mailbox.joiner = some (.caller caller)

variable {origin : Journal Handler}

theorem Opening.step (opening : origin.Opening journal) (plain : origin.Plain event)
    (opens : event.closes = false) :
    origin.Opening (journal.step event) ∧
      (journal.step event).accepted = journal.accepted ++ event.messages := by
  obtain ⟨serving, alike, first⟩ := opening
  have goes := serving.goes plain.undisposed
  obtain ⟨isOpen, nobody⟩ := serving.unclosed first
  have accepts : journal.dispatch.accepts event = event.messages := by
    simp [Dispatch.accepts, isOpen, serving.alive first]
  rcases serving.step plain.undisposed (plain.accepts alike) with
    ⟨after, _⟩ | ⟨_, caller, _, ⟨closes, _⟩ | ⟨_, joined, _⟩⟩
  · refine ⟨⟨after, (step_alike rfl goes).trans alike, ?_⟩, ?_⟩
    · exact (step_door rfl goes opens).1.trans first
    · rw [Journal.step, accepts]
  · rw [closes] at opens
    cases opens
  · rw [nobody] at joined
    cases joined

theorem Opening.run (opening : origin.Opening journal) {events : List (Event Handler)}
    (plain : ∀ event ∈ events, origin.Plain event)
    (opens : ∀ event ∈ events, event.closes = false) :
    origin.Opening (journal.run events) ∧
      (journal.run events).accepted = journal.accepted ++ events.flatMap Event.messages := by
  induction events generalizing journal with
  | nil => exact ⟨opening, (List.append_nil _).symm⟩
  | cons event rest ih =>
      obtain ⟨after, accepted⟩ :=
        opening.step (plain event List.mem_cons_self) (opens event List.mem_cons_self)
      obtain ⟨reached, further⟩ := ih after
        (fun other member => plain other (List.mem_cons_of_mem event member))
        (fun other member => opens other (List.mem_cons_of_mem event member))
      refine ⟨reached, ?_⟩
      rw [accepted, List.append_assoc] at further
      exact further

/-- The first close waits. -/
theorem Opening.close (opening : origin.Opening journal) (caller : Nat) :
    origin.Waiting (journal.step (.call caller .close)) caller ∧
      (journal.step (.call caller .close)).accepted = journal.accepted := by
  obtain ⟨serving, alike, first⟩ := opening
  have silent : journal.dispatch.accepts (.call caller .close) = [] := ite_self _
  have goes := serving.close_goes caller
  refine ⟨?_, by rw [Journal.step, silent, List.append_nil]⟩
  rcases serving.step rfl (silent ▸ spacious_nil _) with
    ⟨after, _⟩ | ⟨_, other, _, ⟨_, late⟩ | ⟨finished, _, _⟩⟩
  · have same := (step_alike rfl goes).trans alike
    have waits : (journal.step (.call caller .close)).dispatch.outbox.mailbox.closed = true ∧
        (journal.step (.call caller .close)).dispatch.outbox.mailbox.joiner =
          some (.caller caller) := by
      rw [Journal.step, Dispatch.step]
      generalize journal.dispatch.turn (.call caller .close) = turn at goes ⊢
      cases goes with
      | joins => exact ⟨rfl, rfl⟩
      | leaves late =>
          rw [first] at late
          cases late
      | takes runs => cases runs
      | stays _ _ _ opens => cases opens
    exact ⟨after, same, waits.1, waits.2⟩
  · rw [first] at late
    cases late
  · rw [serving.alive first] at finished
    cases finished

/-- While a caller waits, the outbox goes on serving until the close returns. -/
theorem Waiting.step {caller : Nat} (waiting : origin.Waiting journal caller)
    (undisposed : event.disposes = false) (opens : event.closes = false)
    (stays : event ≠ .abandon (.caller caller)) :
    origin.Waiting (journal.step event) caller ∨
      (journal.step event).dispatch.outbox.Parted ∧
        (journal.step event).dispatch.outbox.mailbox.joiner = none ∧
        ∃ other, journal.dispatch.Returns other event := by
  obtain ⟨serving, alike, closed, joined⟩ := waiting
  have goes := serving.goes undisposed
  have silent : journal.dispatch.accepts event = [] := by simp [Dispatch.accepts, closed]
  rcases serving.step undisposed (silent ▸ spacious_nil _) with
    ⟨after, remains⟩ | ⟨departs, other, returns, ⟨closes, _⟩ | ⟨_, _, nobody⟩⟩
  · obtain ⟨_, shut, same | ⟨task, rfl, left⟩ | ⟨other, returns⟩⟩ := step_door rfl goes opens
    · exact Or.inl
        ⟨after, (step_alike rfl goes).trans alike, shut.trans closed, same.trans joined⟩
    · rw [joined, Option.some_inj] at left
      exact absurd (left ▸ rfl) stays
    · exact absurd returns (remains other)
  · rw [closes] at opens
    cases opens
  · exact Or.inr ⟨departs.parted, nobody, other, returns⟩

/-- A closed outbox accepts nothing. -/
theorem accepted_of_closed (closed : journal.dispatch.outbox.mailbox.closed = true) :
    (journal.step event).accepted = journal.accepted := by
  simp [Journal.step, Dispatch.accepts, closed]

/-- The events after a close that waits. -/
structure Follows (caller : Nat) (event : Event Handler) : Prop where
  undisposed : event.disposes = false
  opens : event.closes = false
  stays : event ≠ .abandon (.caller caller)

theorem Waiting.run {caller : Nat} (waiting : origin.Waiting journal caller)
    {events : List (Event Handler)} (follows : ∀ event ∈ events, Follows caller event) :
    (journal.run events).accepted = journal.accepted ∧
      (origin.Waiting (journal.run events) caller ∨
        (journal.run events).dispatch.outbox.Parted ∧
          (journal.run events).dispatch.outbox.mailbox.joiner = none) := by
  induction events using List.reverseRecOn with
  | nil => exact ⟨rfl, Or.inl waiting⟩
  | append_singleton events event ih =>
      obtain ⟨accepted, waits | ⟨parted, nobody⟩⟩ :=
        ih fun other member => follows other (List.mem_append_left _ member)
      · have last := follows event List.mem_concat_self
        rw [run_concat]
        refine ⟨(accepted_of_closed waits.closed).trans accepted, ?_⟩
        rcases waits.step last.undisposed last.opens last.stays with after | ⟨parted, nobody, _⟩
        · exact Or.inl after
        · exact Or.inr ⟨parted, nobody⟩
      · have retires := (parted.turn event).1
        rw [run_concat]
        exact ⟨(accepted_of_closed parted.closed).trans accepted,
          Or.inr ⟨retires.parted, retires.joiner nobody⟩⟩

/-- A turn of the worker whose sends succeed. -/
def next (journal : Journal Handler) : Event Handler :=
  if journal.dispatch.outbox.flight.isSome then .land (.ok 0) else .resume .worker (.ok 0)

theorem next_cases (journal : Journal Handler) :
    journal.next = .land (.ok 0) ∨ journal.next = .resume .worker (.ok 0) := by
  unfold next
  split
  · exact Or.inl rfl
  · exact Or.inr rfl

theorem next_silent (journal : Journal Handler) : journal.next.Silent := by
  rcases journal.next_cases with turns | turns
  · rw [turns]
    exact ⟨rfl, rfl⟩
  · rw [turns]
    exact ⟨rfl, rfl⟩

/-- No close returns with a turn of the worker. -/
theorem Waiting.next {caller : Nat} (waiting : origin.Waiting journal caller) :
    origin.Waiting (journal.step journal.next) caller := by
  have turn : journal.next.disposes = false ∧ journal.next.closes = false ∧
      journal.next ≠ .abandon (.caller caller) ∧
      ∀ other, ¬journal.dispatch.Returns other journal.next := by
    rcases journal.next_cases with turns | turns
    · rw [turns]
      refine ⟨rfl, rfl, by simp, ?_⟩
      rintro other ⟨made | ⟨_, made⟩, _⟩ <;> cases made
    · rw [turns]
      refine ⟨rfl, rfl, by simp, ?_⟩
      rintro other ⟨made | ⟨_, made⟩, _⟩ <;> cases made
  obtain ⟨undisposed, opens, stays, remains⟩ := turn
  rcases waiting.step undisposed opens stays with after | ⟨_, _, other, returns⟩
  · exact after
  · exact absurd returns (remains other)

/-- A turn of the worker leaves nothing to do, or fewer messages to come. -/
theorem Serving.next_shortens (serving : journal.Serving) :
    let after := (journal.step journal.next).dispatch.outbox
    after.flight = none ∧ after.mailbox.queue = [] ∨
      after.unsent.length < journal.dispatch.outbox.unsent.length := by
  intro after
  cases aloft : journal.dispatch.outbox.flight with
  | none =>
      have turns : journal.next = .resume .worker (.ok 0) := by simp [Journal.next, aloft]
      obtain ⟨gone, last, advances⟩ := serving.works aloft (.ok 0)
      have shortens := advances.shortens
      rw [← turns, List.nil_append, ← unsent_of_landed aloft] at shortens
      exact shortens.imp_right And.right
  | some flight =>
      have turns : journal.next = .land (.ok 0) := by simp [Journal.next, aloft]
      obtain ⟨send, gone, last, turn, _, turned, advances⟩ := serving.lands aloft (.ok 0)
      have reached : after = turn.1 := by
        simp only [after, turns, Journal.step, Dispatch.step, turned]
      have same : (journal.dispatch.outbox.settled send.ending).mailbox =
          journal.dispatch.outbox.mailbox := rfl
      have shortens := advances.shortens
      rw [same, ← unsent_of_aloft aloft, ← reached] at shortens
      exact shortens.imp_right And.right

/-- A close that waits can return: the messages that are still to come bound the turns until the
worker is over. -/
theorem Waiting.exists_return (bound : Nat) {caller : Nat}
    (waiting : origin.Waiting journal caller)
    (short : journal.dispatch.outbox.unsent.length < bound) :
    ∃ more : List (Event Handler), (∀ event ∈ more, event.Silent) ∧
      (journal.run more).dispatch.Returns caller (.resume (.caller caller) (.ok 0)) := by
  induction bound generalizing journal with
  | zero => omega
  | succ bound ih =>
      have after := waiting.next
      have silent := journal.next_silent
      rcases waiting.serving.next_shortens with ⟨landed, empty⟩ | shorter
      -- The queue is empty, so the next turn finds the outbox closed and is the last one.
      · have turns : (journal.step journal.next).next = .resume .worker (.ok 0) := by
          rw [Journal.next, landed]
          rfl
        have last := after.next
        rw [turns] at last
        have worked : (journal.step journal.next).dispatch.turn (.resume .worker (.ok 0)) =
            (journal.step journal.next).dispatch.outbox.work := by
          simp [Dispatch.turn, component, landed]
        have finished := after.serving.steady.work_over landed empty after.closed
        refine ⟨[journal.next, .resume .worker (.ok 0)], ?_, ?_⟩
        · simpa using ⟨silent, turns ▸ next_silent _⟩
        · refine (Dispatch.returns_resume_iff _ caller (.ok 0)).mpr ⟨?_, last.joined⟩
          rw [← worked] at finished
          exact finished
      · obtain ⟨more, silents, returns⟩ := ih after (by omega)
        exact ⟨journal.next :: more, List.forall_mem_cons.mpr ⟨silent, silents⟩, returns⟩

/-- When the close returns, the worker has nothing left, and all its sends have ended. -/
theorem Waiting.completes {caller : Nat} {ending : Except Failure Nat}
    (waiting : origin.Waiting journal caller)
    (returns : journal.dispatch.Returns caller (.resume (.caller caller) ending)) :
    let closed := journal.step (.resume (.caller caller) ending)
    closed.Entered [] ∧ closed.Handed ∧ closed.dispatch.outbox.flight = none ∧
      closed.dispatch.outbox.Alike origin.dispatch.outbox := by
  intro closed
  obtain ⟨serving, alike, shut, _⟩ := waiting
  have silent : journal.dispatch.accepts (.resume (.caller caller) ending) = [] := ite_self _
  have finished := ((journal.dispatch.returns_resume_iff caller ending).mp returns).1
  obtain ⟨landed, _, drained⟩ := serving.steady.over finished
  rcases serving.step rfl (silent ▸ spacious_nil _) with ⟨_, remains⟩ | ⟨departs, _⟩
  · exact absurd returns (remains caller)
  · exact ⟨departs.entered, departs.entered.handed (departs.unsent.trans drained),
      departs.flight.trans landed, (step_alike rfl (serving.goes rfl)).trans alike⟩

/-- Without a reset, the counts are those of all sends that ended. -/
theorem counted_step (restarts : event.restarts = false)
    (all : journal.counted = journal.ended) :
    (journal.step event).counted = (journal.step event).ended := by
  rw [counted] at all
  rw [counted, Journal.ended, Journal.step, List.foldl_append, all, List.filterMap_append,
    Dispatch.deeds, restarts]
  cases journal.dispatch.lands event <;>
    simp [Deed.count, Deed.ended?, Journal.ended, List.foldl_map, List.foldl_fixed,
      Function.comp_def]

theorem counted_run (all : journal.counted = journal.ended) {events : List (Event Handler)}
    (restarts : ∀ event ∈ events, event.restarts = false) :
    (journal.run events).counted = (journal.run events).ended := by
  induction events generalizing journal with
  | nil => exact all
  | cons event rest ih =>
      exact ih (counted_step (restarts event List.mem_cons_self) all)
        (fun other member => restarts other (List.mem_cons_of_mem event member))

/-- An outbox is closed once, by a caller that goes on waiting. Everything that was submitted before
is accepted, and nothing after. The close can always return. When it does, the accepted messages that
the outbox admits went with the sends and all others were refused, each once and in the order in
which they were submitted. Every send carried its messages and has ended. The outside was asked for
what the journal says and for nothing else: a failed send and a refused message were told once to
each handler that was registered then. The counts are those of the sends that succeeded since they
started. -/
theorem close_completes (created : create settings maxFrame = .ok (.ok outbox))
    (room : Memory.hasRoom settings.messagesPerPass Bytes.slotSize = true)
    {before after : List (Event Handler)} {caller : Nat}
    (opens : ∀ event ∈ before, event.closes = false ∧ event.disposes = false)
    (spacious : ∀ event ∈ before, outbox.Spacious event.messages)
    (waits : ∀ event ∈ after, event.closes = false ∧ event.disposes = false ∧
      event ≠ .abandon (.caller caller)) :
    let journal := (opened outbox).run (before ++ .call caller .close :: after)
    journal.accepted = before.flatMap Event.messages ∧
      (journal.dispatch.outbox.attached = true → ∃ more, (∀ event ∈ more, event.Silent) ∧
        (journal.run more).dispatch.Returns caller (.resume (.caller caller) (.ok 0))) ∧
      ∀ ending, journal.dispatch.Returns caller (.resume (.caller caller) ending) →
        let closed := journal.step (.resume (.caller caller) ending)
        closed.accepted = journal.accepted ∧
          closed.dispatch.sends.flatMap Send.messages = closed.accepted.filter outbox.admits ∧
          closed.refused = (closed.accepted.filter fun message => !outbox.admits message) ∧
          (∀ send ∈ closed.dispatch.sends,
            Carries outbox.batch.isSome send.delivery send.messages) ∧
          closed.ended = closed.dispatch.sends ∧
          Effect.orders closed.dispatch.effects = closed.deeds.flatMap Deed.orders ∧
          closed.dispatch.outbox.messageCount =
            UInt64.ofNat (Send.loads closed.counted).flatten.length ∧
          closed.dispatch.outbox.packageCount =
            UInt64.ofNat (Send.loads closed.counted).length ∧
          ((∀ event ∈ before ++ after, event.restarts = false) →
            closed.counted = closed.dispatch.sends) := by
  intro journal
  have serving := opened_serving created room
  have opening : (opened outbox).Opening (opened outbox) :=
    ⟨serving, ⟨rfl, rfl⟩, (create_joinable created).1⟩
  obtain ⟨reached, taken⟩ := opening.run
    (fun event member => ⟨(opens event member).2, spacious event member⟩)
    (fun event member => (opens event member).1)
  obtain ⟨waiting, same⟩ := reached.close caller
  obtain ⟨accepted, phase⟩ := waiting.run
    (fun event member =>
      ⟨(waits event member).2.1, (waits event member).1, (waits event member).2.2⟩)
  have whole : journal =
      (((opened outbox).run before).step (.call caller .close)).run after := by
    rw [run, run, ← List.foldl_cons, ← List.foldl_append]
    rfl
  rw [← whole] at accepted phase
  refine ⟨accepted.trans (same.trans taken), fun attached => ?_, fun ending returns => ?_⟩
  · rcases phase with waiting | ⟨parted, _⟩
    · exact waiting.exists_return _ (Nat.lt_succ_self _)
    · rw [parted.detached] at attached
      cases attached
  · intro closed
    have joined := ((journal.dispatch.returns_resume_iff caller ending).mp returns).2
    rcases phase with waiting | ⟨_, nobody⟩
    · obtain ⟨entered, handed, landed, alike⟩ := waiting.completes returns
      have admits : closed.dispatch.outbox.admits = outbox.admits := admits_of_bounds alike.bounds
      have ended := entered.ended.all landed
      refine ⟨accepted_of_closed waiting.closed, admits ▸ handed.sent, admits ▸ handed.refused,
        fun send member => alike.batched ▸ entered.carries send member, ended, entered.told,
        entered.messageCount, entered.packageCount, fun restarts => ?_⟩
      refine Eq.trans ?_ ended
      have plain : ∀ event ∈ before ++ .call caller .close :: after,
          event.restarts = false := by
        intro event member
        rcases List.mem_append.mp member with earlier | later
        · exact restarts event (List.mem_append_left _ earlier)
        · rcases List.mem_cons.mp later with rfl | later
          · rfl
          · exact restarts event (List.mem_append_right _ later)
      exact counted_step rfl (counted_run rfl plain)
    · rw [nobody] at joined
      cases joined

/-- A message that is too long, and a first send that fails. -/
theorem close_completes_mixed :
    let settings : OutboxSettings := { batched := true, packageSize := 64, messagesPerPass := 2 }
    let long : Bytes := [1, 2, 3, 4, 5, 6, 7, 8, 9]
    let before : List (Event Unit) :=
      [.call 0 (.subscribe ()), .call 0 (.send [[1], long, [2]])]
    let after : List (Event Unit) :=
      [.resume .worker (.error (.io .brokenPipe)), .land (.ok 0), .land (.ok 0)]
    ∃ outbox : Outbox Unit, create settings 20 = .ok (.ok outbox) ∧
      let journal := (opened outbox).run (before ++ .call 1 .close :: after)
      journal.dispatch.Returns 1 (.resume (.caller 1) (.ok 0)) ∧
        let closed := journal.step (.resume (.caller 1) (.ok 0))
        closed.dispatch.sends.flatMap Send.messages = [[1], [2]] ∧ closed.refused = [long] ∧
          closed.ended = closed.dispatch.sends ∧ closed.counted = closed.dispatch.sends ∧
          closed.dispatch.outbox.messageCount = 1 ∧ closed.dispatch.outbox.packageCount = 1 := by
  intro settings long before after
  obtain ⟨outbox, created⟩ : ∃ outbox : Outbox Unit, create settings 20 = .ok (.ok outbox) :=
    ⟨_, rfl⟩
  have opens : ∀ event ∈ before, event.closes = false ∧ event.disposes = false := by decide
  have spacious : ∀ event ∈ before, outbox.Spacious event.messages := by
    cases created
    simp [before, long, Spacious, Dispatch.Event.messages, Call.messages]
  have waits : ∀ event ∈ after, event.closes = false ∧ event.disposes = false ∧
      event ≠ .abandon (.caller 1) := by
    simp [after, Dispatch.Event.closes, Dispatch.Event.disposes]
  have finished : ((opened outbox).run (before ++ .call 1 .close :: after)).dispatch.Returns 1
      (.resume (.caller 1) (.ok 0)) := by
    refine (Dispatch.returns_resume_iff _ 1 (.ok 0)).mpr ?_
    cases created
    decide
  obtain ⟨accepted, _, completes⟩ := close_completes created rfl opens spacious waits
  obtain ⟨same, sent, refused, _, ended, _, messages, packages, all⟩ := completes (.ok 0) finished
  rw [same, accepted] at sent refused
  refine ⟨outbox, created, finished, sent.trans ?_, refused.trans ?_, ended, all (by decide),
    messages.trans ?_, packages.trans ?_⟩
  all_goals
    cases created
    decide

/-- Without room for a pass, the close returns and the message is lost. -/
theorem close_loses_without_room :
    ∃ outbox : Outbox Unit,
      create { messagesPerPass := 18446744073709551615 } 0 = .ok (.ok outbox) ∧
        let journal := (opened outbox).run
          [.call 0 (.send [[97]]), .call 1 .close, .resume .worker (.ok 0)]
        journal.dispatch.Returns 1 (.resume (.caller 1) (.ok 0)) ∧
          let closed := journal.step (.resume (.caller 1) (.ok 0))
          closed.accepted = [[97]] ∧ closed.dispatch.sends.length = 0 ∧ closed.refused = [] ∧
            closed.dispatch.outbox.messageCount = 0 := by
  obtain ⟨outbox, created⟩ : ∃ outbox : Outbox Unit,
      create { messagesPerPass := 18446744073709551615 } 0 = .ok (.ok outbox) := ⟨_, rfl⟩
  refine ⟨outbox, created, (Dispatch.returns_resume_iff _ 1 (.ok 0)).mpr ?_, ?_⟩
  · cases created
    decide
  · cases created
    decide

end Journal

end Outbox

end ReliableTransport
