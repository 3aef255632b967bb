import Mathlib.Data.List.Infix
import ReliableTransport.Proofs.Outbox.Parting
/-!
This module says what an event does to an outbox that may be closed. A close that waits for the
worker returns when the worker has sent or refused everything that was accepted. A close that cannot
wait takes the transport away at once.
-/

namespace ReliableTransport

namespace Outbox

open Mailbox (Role)

variable {Handler : Type} {settings : OutboxSettings} {maxFrame : Nat} {outbox : Outbox Handler}

/-- A new outbox gives out the right to wait for its worker. -/
theorem create_joinable (created : create settings maxFrame = .ok (.ok outbox)) :
    outbox.mailbox.joinable = true ∧ outbox.mailbox.joiner = none := by
  cases valid : settings.check with
  | error fault => simp [create, valid, bind, Except.bind] at created
  | ok _ =>
      by_cases positive : 0 < settings.messagesPerPass
      · simp only [create, valid, Mailbox.create, dif_pos positive, bind, Except.bind, pure,
          Except.pure, Except.ok.injEq] at created
        rw [← created]
        exact ⟨rfl, rfl⟩
      · simp [create, valid, Mailbox.create, positive, bind, Except.bind, pure, Except.pure]
          at created

theorem create_valid (created : create settings maxFrame = .ok (.ok outbox)) :
    settings.check = .ok () := by
  cases valid : settings.check with
  | error fault => simp [create, valid, bind, Except.bind] at created
  | ok _ => rfl

/-- An outbox keeps steady while calls come and go. -/
theorem Steady.shift (steady : outbox.Steady) (mailbox : Mailbox Bytes)
    (room : mailbox.hasRoom = outbox.mailbox.hasRoom)
    (worker : mailbox.worker = outbox.mailbox.worker)
    (closed : outbox.mailbox.closed = true →
      mailbox.closed = true ∧ mailbox.queue = outbox.mailbox.queue)
    (handlers : Registry Handler) (messageCount packageCount : UInt64) :
    Steady { outbox with mailbox, handlers, messageCount, packageCount } := by
  refine ⟨steady.attached, room.trans steady.room, steady.sized, ?_, ?_⟩
  · exact fun aloft => worker.trans (steady.flies aloft)
  · intro landed
    obtain ⟨emptied, waits | ⟨ended, shut, empty⟩⟩ := steady.rests landed
    · exact ⟨emptied, Or.inl (worker.trans waits)⟩
    · exact ⟨emptied, Or.inr
        ⟨worker.trans ended, (closed shut).1, (closed shut).2.trans empty⟩⟩

/-- A worker that is over has nothing left to do. -/
theorem Steady.over (steady : outbox.Steady)
    (finished : outbox.mailbox.isOver = true) :
    outbox.flight = none ∧ outbox.mailbox.closed = true ∧ outbox.unsent = [] := by
  rw [Mailbox.isOver] at finished
  cases flight : outbox.flight with
  | some _ =>
      rw [steady.flies (by rw [flight]; rfl)] at finished
      cases finished
  | none =>
      obtain ⟨_, waits | ⟨_, closed, empty⟩⟩ := steady.rests flight
      · rw [waits] at finished
        cases finished
      · exact ⟨rfl, closed, (unsent_of_landed flight).trans empty⟩

namespace Dispatch

/-- The event disposes the outbox. -/
def Event.disposes : Event Handler → Bool
  | .call _ .dispose => true
  | _ => false

/-- The event closes the outbox. -/
def Event.closes : Event Handler → Bool
  | .call _ .close => true
  | _ => false

/-- The close of a caller returns with an event. -/
def Returns (dispatch : Dispatch Handler) (caller : Nat) (event : Event Handler) : Prop :=
  (event = .call caller .close ∨ ∃ ending, event = .resume (.caller caller) ending) ∧
    (.caller caller, .done) ∈ Effect.results (dispatch.turn event).2

/-- A close that waits returns once the worker is over. -/
theorem returns_resume_iff (dispatch : Dispatch Handler) (caller : Nat)
    (ending : Except Failure Nat) :
    dispatch.Returns caller (.resume (.caller caller) ending) ↔
      dispatch.outbox.mailbox.isOver = true ∧
        dispatch.outbox.mailbox.joiner = some (.caller caller) := by
  cases waits : dispatch.outbox.mailbox.isOver &&
      dispatch.outbox.mailbox.joiner == some (.caller caller) with
  | true =>
      have both : dispatch.outbox.mailbox.isOver = true ∧
          dispatch.outbox.mailbox.joiner = some (.caller caller) := by simpa using waits
      refine iff_of_true ⟨Or.inr ⟨ending, rfl⟩, ?_⟩ both
      simp [turn, component, both, Effect.results]
  | false =>
      have either : ¬(dispatch.outbox.mailbox.isOver = true ∧
          dispatch.outbox.mailbox.joiner = some (.caller caller)) := by simpa using waits
      refine iff_of_false (fun returns => ?_) either
      simpa [turn, component, either, Effect.results] using returns.2

/-- What an event leads to at an outbox that has its transport. -/
inductive Goes (dispatch : Dispatch Handler) :
    Event Handler → Turn (Outbox Handler) Role (Order Handler) Reply → Prop where
  | works {ending : Except Failure Nat} {gone : List Bytes}
      {last : List (Effect Role (Order Handler) Reply)}
      {turn : Turn (Outbox Handler) Role (Order Handler) Reply}
      (landed : dispatch.outbox.flight = none)
      (advances : Advances dispatch.outbox [] gone last turn) :
      Goes dispatch (.resume .worker ending) turn
  | lands {ending : Except Failure Nat} {flight : Flight} {send : Send} {gone : List Bytes}
      {last : List (Effect Role (Order Handler) Reply)}
      {turn : Turn (Outbox Handler) Role (Order Handler) Reply}
      (aloft : dispatch.outbox.flight = some flight)
      (latest : dispatch.sends.getLast? = some send)
      (advances : Advances (dispatch.outbox.settled send.ending) flight.rest gone last turn) :
      Goes dispatch (.land ending) (turn.1, dispatch.outbox.told send.ending ++ turn.2)
  | takes {caller : Nat} {made : Call Handler} {handlers : Registry Handler}
      {effects : List (Effect Role (Order Handler) Reply)} (runs : made.runs = true)
      (quiet : Effect.orders effects = []) :
      Goes dispatch (.call caller made)
        ({ dispatch.outbox with
          mailbox :=
            { dispatch.outbox.mailbox with
              queue := dispatch.outbox.mailbox.queue ++ dispatch.accepts (.call caller made) }
          handlers }, effects)
  | restarts {caller : Nat} :
      Goes dispatch (.call caller .reset)
        ({ dispatch.outbox with messageCount := 0, packageCount := 0 },
          [.done (.caller caller) .done])
  /-- The first close waits for the worker. -/
  | joins {caller : Nat} {effects : List (Effect Role (Order Handler) Reply)}
      (first : dispatch.outbox.mailbox.joinable = true) (quiet : Effect.orders effects = [])
      (waits : Effect.results effects = []) :
      Goes dispatch (.call caller .close)
        ({ dispatch.outbox with
          mailbox :=
            { dispatch.outbox.mailbox with
              closed := true, joinable := false, joiner := some (.caller caller) } }, effects)
  /-- Another close returns at once. -/
  | leaves {caller : Nat} {effects : List (Effect Role (Order Handler) Reply)}
      (late : dispatch.outbox.mailbox.joinable = false) (quiet : Effect.orders effects = [])
      (finished : (.caller caller, .done) ∈ Effect.results effects) :
      Goes dispatch (.call caller .close)
        ({ dispatch.outbox with
          mailbox := { dispatch.outbox.mailbox with closed := true }
          attached := false }, effects)
  | returns {caller : Nat} {ending : Except Failure Nat}
      (finished : dispatch.outbox.mailbox.isOver = true)
      (joined : dispatch.outbox.mailbox.joiner = some (.caller caller)) :
      Goes dispatch (.resume (.caller caller) ending)
        ({ dispatch.outbox with
          mailbox := { dispatch.outbox.mailbox with joiner := none }
          attached := false }, [.done (.caller caller) .done])
  /-- The caller that waits gives up. -/
  | forgets {task : Role} (joined : dispatch.outbox.mailbox.joiner = some task) :
      Goes dispatch (.abandon task)
        ({ dispatch.outbox with
          mailbox := { dispatch.outbox.mailbox with joiner := none } }, [])
  | stays {event : Event Handler} (silent : event.messages = [])
      (lands : dispatch.lands event = none) (restarts : event.restarts = false)
      (closes : event.closes = false) : Goes dispatch event (dispatch.outbox, [])

end Dispatch

namespace Journal

open Dispatch (Event)

variable {journal : Journal Handler} {event : Event Handler}

/-- An outbox that has its transport, with its journal. As long as the right to wait for its worker is
to be had, it was not closed. -/
structure Serving (journal : Journal Handler) : Prop where
  steady : journal.dispatch.outbox.Steady
  entered : journal.Entered []
  spacious : journal.dispatch.outbox.Spacious journal.accepted
  unclosed : journal.dispatch.outbox.mailbox.joinable = true →
    journal.dispatch.outbox.mailbox.closed = false ∧ journal.dispatch.outbox.mailbox.joiner = none

theorem Serving.room (serving : journal.Serving) :
    journal.dispatch.outbox.Spacious journal.dispatch.outbox.unsent := by
  obtain ⟨gone, accepted, _⟩ := serving.entered.split
  apply serving.spacious.mono
  rw [accepted]
  exact List.subset_append_right _ _

/-- The worker of an outbox that was not closed goes on. -/
theorem Serving.alive (serving : journal.Serving)
    (first : journal.dispatch.outbox.mailbox.joinable = true) :
    journal.dispatch.outbox.mailbox.isOver = false := by
  cases finished : journal.dispatch.outbox.mailbox.isOver with
  | false => rfl
  | true =>
      have closed := (serving.steady.over finished).2.1
      rw [(serving.unclosed first).1] at closed
      cases closed

/-- A worker that does not wait for a send takes queued messages. -/
theorem Serving.works (serving : journal.Serving)
    (landed : journal.dispatch.outbox.flight = none) (ending : Except Failure Nat) :
    ∃ gone last, Advances journal.dispatch.outbox [] gone last
      (journal.dispatch.turn (.resume .worker ending)) := by
  have turned : journal.dispatch.turn (.resume .worker ending) =
      journal.dispatch.outbox.work := by
    simp [Dispatch.turn, component, landed]
  rw [turned]
  exact work_advances serving.steady landed (unsent_of_landed landed ▸ serving.room)

/-- A worker whose send has ended settles it and goes on with the rest of the pass. -/
theorem Serving.lands (serving : journal.Serving) {flight : Flight}
    (aloft : journal.dispatch.outbox.flight = some flight) (ending : Except Failure Nat) :
    ∃ (send : Send) (gone : List Bytes) (last : List (Effect Role (Order Handler) Reply))
        (turn : Turn (Outbox Handler) Role (Order Handler) Reply),
      journal.dispatch.sends.getLast? = some send ∧
        journal.dispatch.turn (.land ending) =
          (turn.1, journal.dispatch.outbox.told send.ending ++ turn.2) ∧
        Advances (journal.dispatch.outbox.settled send.ending) flight.rest gone last turn := by
  obtain ⟨send, latest, _⟩ := serving.entered.settle aloft
  obtain ⟨gone, last, turn, turned, advances⟩ :=
    landed_advances serving.steady aloft serving.room send.ending
  refine ⟨send, gone, last, turn, latest, ?_, advances⟩
  rw [Dispatch.turn, latest]
  exact turned

theorem Serving.close_goes (serving : journal.Serving) (caller : Nat) :
    journal.dispatch.Goes (.call caller .close)
      (journal.dispatch.turn (.call caller .close)) := by
  rw [Dispatch.turn, component]
  cases first : journal.dispatch.outbox.mailbox.joinable with
  | true =>
      have alive := serving.alive first
      have stillAlive : journal.dispatch.outbox.mailbox.close.isOver = false := alive
      simp only [start, Mailbox.join, first, stillAlive, if_true, Bool.false_eq_true, if_false]
      exact .joins first (Mailbox.orders_wakeWorker _) (Mailbox.results_wakeWorker _)
  | false =>
      simp only [start, Mailbox.join, first, Bool.false_eq_true, if_false]
      refine .leaves first ?_ ?_
      · rw [Effect.orders_append, Mailbox.orders_wakeWorker]
        rfl
      · rw [Effect.results_append, Mailbox.results_wakeWorker]
        exact .head _

theorem Serving.goes (serving : journal.Serving) (undisposed : event.disposes = false) :
    journal.dispatch.Goes event (journal.dispatch.turn event) := by
  cases event with
  | call caller made =>
      cases runs : made.runs with
      | true =>
          obtain ⟨handlers, effects, started, quiet⟩ :=
            journal.dispatch.outbox.start_of_runs (.caller caller) runs
          rw [Dispatch.turn, component]
          simp only [started]
          exact .takes runs quiet
      | false =>
          cases made with
          | reset => exact .restarts
          | close => exact serving.close_goes caller
          | dispose => cases undisposed
          | send | sendRange | deliver | subscribe | unsubscribe => cases runs
  | resume task ending =>
      cases task with
      | worker =>
          cases aloft : journal.dispatch.outbox.flight with
          | some flight =>
              have turned : journal.dispatch.turn (.resume .worker ending) =
                  (journal.dispatch.outbox, []) := by
                simp [Dispatch.turn, component, aloft]
              rw [turned]
              exact .stays rfl rfl rfl rfl
          | none =>
              obtain ⟨gone, last, advances⟩ := serving.works aloft ending
              exact .works aloft advances
      | caller number =>
          cases waits : journal.dispatch.outbox.mailbox.isOver &&
              journal.dispatch.outbox.mailbox.joiner == some (.caller number) with
          | true =>
              obtain ⟨finished, joined⟩ : _ ∧ _ := by simpa using waits
              have turned : journal.dispatch.turn (.resume (.caller number) ending) =
                  ({ journal.dispatch.outbox with
                    mailbox := { journal.dispatch.outbox.mailbox with joiner := none }
                    attached := false }, [.done (.caller number) .done]) := by
                simp [Dispatch.turn, component, finished, joined, Mailbox.unjoin, detach]
              rw [turned]
              exact .returns finished joined
          | false =>
              have turned : journal.dispatch.turn (.resume (.caller number) ending) =
                  (journal.dispatch.outbox, []) := by
                simp only [Dispatch.turn, component, waits, Bool.false_eq_true, if_false]
              rw [turned]
              exact .stays rfl rfl rfl rfl
  | land ending =>
      cases aloft : journal.dispatch.outbox.flight with
      | none =>
          have turned : journal.dispatch.turn (.land ending) =
              (journal.dispatch.outbox, []) := by
            rw [Dispatch.turn]
            split
            · simp [component, landed, aloft]
            · rfl
          rw [turned]
          exact .stays rfl (by simp [Dispatch.lands, aloft]) rfl rfl
      | some flight =>
          obtain ⟨send, gone, last, turn, latest, turned, advances⟩ := serving.lands aloft ending
          rw [turned]
          exact .lands aloft latest advances
  | abandon task =>
      rw [Dispatch.turn, component]
      simp only [Mailbox.unjoin]
      split
      next joined => exact .forgets joined
      next other => exact .stays rfl rfl rfl rfl

/-- Every event is entered. -/
theorem Entered.step {turn : Turn (Outbox Handler) Role (Order Handler) Reply}
    (entered : journal.Entered []) (turned : journal.dispatch.turn event = turn)
    (goes : journal.dispatch.Goes event turn) : (journal.step event).Entered [] := by
  have keep {event : Event Handler} {mailbox : Mailbox Bytes} {attached : Bool}
      {effects : List (Effect Role (Order Handler) Reply)} (silent : event.messages = [])
      (turned : journal.dispatch.turn event =
        ({ journal.dispatch.outbox with mailbox, attached }, effects))
      (quiet : Effect.orders effects = [])
      (queue : mailbox.queue = journal.dispatch.outbox.mailbox.queue)
      (lands : journal.dispatch.lands event = none) (restarts : event.restarts = false) :
      (journal.step event).Entered [] := by
    have accepts : journal.dispatch.accepts event = [] := by
      rw [Dispatch.accepts, silent, ite_self]
    exact entered.keep turned quiet (by rw [accepts, queue, List.append_nil]) lands restarts
  cases goes with
  | @works ending gone last turn landed advances =>
      have split : journal.dispatch.outbox.unsent =
          gone ++ (journal.dispatch.turn (.resume .worker ending)).1.unsent := by
        rw [turned, unsent_of_landed landed]
        exact advances.split
      rw [step_advanced rfl rfl rfl split, Dispatch.begun, turned]
      exact entered.advance landed advances ending
  | @lands ending flight send gone last turn aloft latest advances =>
      obtain ⟨other, same, settled⟩ := entered.settle aloft
      obtain rfl : send = other := Option.some.inj (latest.symm.trans same)
      have split : journal.dispatch.outbox.unsent = gone ++ turn.1.unsent := by
        rw [unsent_of_aloft aloft]
        exact advances.split
      rw [step_settled (by rw [aloft]; rfl) latest turned split]
      exact settled.advance rfl advances ending
  | @takes caller made handlers effects runs quiet =>
      have plain : (Event.call caller made).restarts = false := by
        cases made with
        | reset => cases runs
        | _ => rfl
      exact entered.keep turned quiet rfl rfl plain
  | restarts => exact entered.restart
  | joins first quiet waits => exact keep rfl turned quiet rfl rfl rfl
  | leaves late quiet finished => exact keep rfl turned quiet rfl rfl rfl
  | returns finished joined => exact keep rfl turned rfl rfl rfl rfl
  | forgets joined => exact keep rfl turned rfl rfl rfl rfl
  | stays silent lands restarts closes => exact keep silent turned rfl rfl lands restarts

/-- Everything that was accepted was handed to the transport or refused, each message once and in
order. -/
structure Handed (journal : Journal Handler) : Prop where
  drained : journal.dispatch.outbox.unsent = []
  sent : journal.dispatch.sends.flatMap Send.messages =
    journal.accepted.filter journal.dispatch.outbox.admits
  refused : journal.refused =
    journal.accepted.filter fun message => !journal.dispatch.outbox.admits message

theorem Entered.handed (entered : journal.Entered [])
    (drained : journal.dispatch.outbox.unsent = []) : journal.Handed := by
  obtain ⟨gone, accepted, sent, refused⟩ := entered.split
  rw [drained, List.append_nil, List.append_nil] at accepted
  rw [← accepted] at sent refused
  exact ⟨drained, sent, refused⟩

/-- A close returns with an event and takes the transport away. -/
structure Departs (journal : Journal Handler) (event : Event Handler) : Prop where
  entered : (journal.step event).Entered []
  parted : (journal.step event).dispatch.outbox.Parted
  unsent : (journal.step event).dispatch.outbox.unsent = journal.dispatch.outbox.unsent
  flight : (journal.step event).dispatch.outbox.flight = journal.dispatch.outbox.flight

theorem step_alike {turn : Turn (Outbox Handler) Role (Order Handler) Reply}
    (turned : journal.dispatch.turn event = turn) (goes : journal.dispatch.Goes event turn) :
    (journal.step event).dispatch.outbox.Alike journal.dispatch.outbox := by
  rw [step, Dispatch.step, turned]
  cases goes with
  | works landed advances => exact advances.alike
  | lands aloft latest advances =>
      exact advances.alike.trans (journal.dispatch.outbox.settled_alike _)
  | takes | restarts | joins | leaves | returns | forgets | stays => exact ⟨rfl, rfl⟩

/-- An outbox goes on serving after an event, or a close returns: one that came too late to wait, or
one that waited until the worker was over. -/
theorem Serving.step (serving : journal.Serving) (undisposed : event.disposes = false)
    (spacious : journal.dispatch.outbox.Spacious (journal.dispatch.accepts event)) :
    ((journal.step event).Serving ∧ ∀ caller, ¬journal.dispatch.Returns caller event) ∨
      journal.Departs event ∧ ∃ caller, journal.dispatch.Returns caller event ∧
        (event = .call caller .close ∧ journal.dispatch.outbox.mailbox.joinable = false ∨
          journal.dispatch.outbox.mailbox.isOver = true ∧
            journal.dispatch.outbox.mailbox.joiner = some (.caller caller) ∧
            (journal.step event).dispatch.outbox.mailbox.joiner = none) := by
  have goes := serving.goes undisposed
  generalize turned : journal.dispatch.turn event = turn at goes
  have entered := serving.entered.step turned goes
  have alike := step_alike turned goes
  have reached : (journal.step event).dispatch.outbox = turn.1 := by
    rw [Journal.step, Dispatch.step, turned]
  have roomy : (journal.step event).dispatch.outbox.Spacious (journal.step event).accepted := by
    refine alike.spacious fun batched member => ?_
    rcases List.mem_append.mp member with earlier | latest
    · exact serving.spacious batched earlier
    · exact spacious batched latest
  have serves (steady : turn.1.Steady)
      (unclosed : turn.1.mailbox.joinable = true →
        turn.1.mailbox.closed = false ∧ turn.1.mailbox.joiner = none) :
      (journal.step event).Serving :=
    ⟨reached ▸ steady, entered, roomy, reached ▸ unclosed⟩
  have steady := serving.steady
  have unclosed := serving.unclosed
  cases goes with
  | works landed advances =>
      refine Or.inl ⟨serves advances.steady ?_, ?_⟩
      · rw [advances.mailbox]
        exact unclosed
      · rintro caller ⟨made | ⟨_, made⟩, _⟩ <;> cases made
  | lands aloft latest advances =>
      refine Or.inl ⟨serves advances.steady ?_, ?_⟩
      · rw [advances.mailbox]
        exact unclosed
      · rintro caller ⟨made | ⟨_, made⟩, _⟩ <;> cases made
  | takes runs quiet =>
      refine Or.inl ⟨serves (steady.shift _ ?_ ?_ ?_ _ _ _) unclosed, ?_⟩
      · rfl
      · rfl
      · exact fun closed => ⟨closed, by simp [Dispatch.accepts, closed]⟩
      · rintro caller ⟨made | ⟨_, made⟩, _⟩
        · cases made
          cases runs
        · cases made
  | restarts =>
      refine Or.inl ⟨serves (steady.shift journal.dispatch.outbox.mailbox rfl rfl
        (fun closed => ⟨closed, rfl⟩) _ _ _) unclosed, ?_⟩
      rintro caller ⟨made | ⟨_, made⟩, _⟩ <;> cases made
  | joins first quiet waits =>
      refine Or.inl ⟨serves (steady.shift _ ?_ ?_ ?_ _ _ _) ?_, ?_⟩
      · rfl
      · rfl
      · exact fun _ => ⟨rfl, rfl⟩
      · intro still
        cases still
      · rintro caller ⟨_, finished⟩
        rw [turned, waits] at finished
        cases finished
  -- These two take the transport away.
  | @leaves caller effects late quiet finished =>
      have returns : journal.dispatch.Returns caller (.call caller .close) :=
        ⟨Or.inl rfl, turned ▸ finished⟩
      refine Or.inr ⟨⟨entered, ?_, ?_, ?_⟩, caller, returns, Or.inl ⟨rfl, late⟩⟩
      · rw [reached]
        exact ⟨rfl, rfl, late⟩
      · rw [reached]
        rfl
      · rw [reached]
  | @returns caller ending finished joined =>
      have returns := (journal.dispatch.returns_resume_iff caller ending).mpr ⟨finished, joined⟩
      refine Or.inr ⟨⟨entered, ?_, ?_, ?_⟩, caller, returns, Or.inr ⟨finished, joined, ?_⟩⟩
      · rw [reached]
        refine ⟨rfl, (steady.over finished).2.1, ?_⟩
        cases taken : journal.dispatch.outbox.mailbox.joinable with
        | false => rfl
        | true =>
            rw [(unclosed taken).2] at joined
            cases joined
      · rw [reached]
        rfl
      · rw [reached]
      · rw [reached]
  | forgets joined =>
      refine Or.inl ⟨serves (steady.shift _ ?_ ?_ ?_ _ _ _) ?_, ?_⟩
      · rfl
      · rfl
      · exact fun closed => ⟨closed, rfl⟩
      · exact fun first => ⟨(unclosed first).1, rfl⟩
      · rintro caller ⟨made | ⟨_, made⟩, _⟩ <;> cases made
  | stays silent lands restarts closes =>
      refine Or.inl ⟨serves steady unclosed, ?_⟩
      rintro caller ⟨_, finished⟩
      rw [turned] at finished
      cases finished

/-- The journal of an outbox at which nothing happened yet. -/
def opened (outbox : Outbox Handler) : Journal Handler where
  dispatch := { outbox }

theorem opened_serving (created : create settings maxFrame = .ok (.ok outbox))
    (room : Memory.hasRoom settings.messagesPerPass Bytes.slotSize = true) :
    (opened outbox).Serving := by
  obtain ⟨other, made, running, _⟩ := create_running (create_valid created) room
  obtain rfl : other = outbox := Except.ok.inj (Except.ok.inj (made.symm.trans created))
  obtain ⟨joinable, joiner⟩ := create_joinable created
  obtain ⟨gone, submitted, sent⟩ := running.accounts.split
  obtain ⟨ended, isEnded, messageCount, packageCount⟩ := running.accounts.counted
  obtain ⟨landed, rfl⟩ | ⟨_, send, split, _⟩ := isEnded
  · refine ⟨running.steady, ⟨?_, ?_, Or.inl ⟨landed, rfl⟩, rfl, messageCount, packageCount⟩, ?_,
      fun _ => ⟨running.isOpen, joiner⟩⟩
    · obtain ⟨rfl, nothing⟩ := List.append_eq_nil_iff.mp submitted.symm
      exact ⟨[], submitted, rfl, rfl⟩
    · intro send member
      cases member
    · exact spacious_nil other
  · simp at split

theorem run_concat (journal : Journal Handler) (events : List (Event Handler))
    (event : Event Handler) :
    journal.run (events ++ [event]) = (journal.run events).step event :=
  List.foldl_concat step journal event events

/-- What every event of a run has to be for it to end no outbox by force. -/
structure Plain (origin : Journal Handler) (event : Event Handler) : Prop where
  undisposed : event.disposes = false
  spacious : origin.dispatch.outbox.Spacious event.messages

theorem Plain.accepts {origin : Journal Handler} (plain : origin.Plain event)
    (alike : journal.dispatch.outbox.Alike origin.dispatch.outbox) :
    journal.dispatch.outbox.Spacious (journal.dispatch.accepts event) := by
  refine (alike.spacious plain.spacious).mono ?_
  unfold Dispatch.accepts
  split
  · exact List.nil_subset _
  · exact List.Subset.refl _

end Journal

end Outbox

end ReliableTransport
