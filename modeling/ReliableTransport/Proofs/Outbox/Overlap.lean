import Mathlib.Tactic.IntervalCases
import ReliableTransport.Proofs.Outbox.Closing
/-!
This module says what any number of closes do to an outbox, however they overlap, are repeated or
are given up. Every close returns with everything handed over exactly if each one that comes too late
to wait for the worker finds nothing still to come.
-/

namespace ReliableTransport

namespace Outbox

open Mailbox (Role)

variable {Handler : Type} {settings : OutboxSettings} {maxFrame : Nat} {outbox : Outbox Handler}

namespace Journal

open Dispatch (Event)

variable {journal : Journal Handler} {event : Event Handler}

/-- Once everything was handed over, an outbox without its transport leaves it at that. -/
theorem Handed.step (handed : journal.Handed) (parted : journal.dispatch.outbox.Parted)
    (event : Event Handler) : (journal.step event).Handed := by
  obtain ⟨retires, mute⟩ := parted.turn event
  have begun : journal.dispatch.begun event = [] := mute _ _
  have accepts : journal.dispatch.accepts event = [] := by
    simp [Dispatch.accepts, parted.closed]
  have reaches : journal.dispatch.reaches event = [] := by
    rw [Dispatch.reaches, handed.drained, List.take_nil]
  have admits : (journal.step event).dispatch.outbox.admits = journal.dispatch.outbox.admits :=
    admits_of_bounds retires.bounds
  have refused : (journal.step event).refused = journal.refused := by
    rw [Journal.refused, Journal.step, List.filterMap_append, Dispatch.deeds, reaches, begun]
    cases journal.dispatch.lands event <;> cases event.restarts <;>
      simp [Deed.refused?, Journal.refused]
  refine ⟨retires.unsent handed.drained, ?_, ?_⟩
  · rw [admits, Journal.step, Dispatch.step, begun, accepts, List.append_nil, List.append_nil]
    exact handed.sent
  · rw [refused, admits, Journal.step, accepts, List.append_nil]
    exact handed.refused

/-- No close takes the transport away while messages are still to come. -/
def SafelyClosed (origin : Journal Handler) (events : List (Event Handler)) : Prop :=
  ∀ before caller, before ++ [.call caller .close] <+: events →
    (origin.run before).dispatch.outbox.mailbox.joinable = false →
      (origin.run before).dispatch.outbox.unsent = []

/-- Whenever a close returns, everything that was accepted before was handed over. -/
def ClosesDeliver (origin : Journal Handler) (events : List (Event Handler)) : Prop :=
  ∀ before event caller, before ++ [event] <+: events →
    (origin.run before).dispatch.Returns caller event →
      (origin.run (before ++ [event])).Handed

theorem SafelyClosed.mono {origin : Journal Handler} {first events : List (Event Handler)}
    (safely : origin.SafelyClosed events) (early : first <+: events) :
    origin.SafelyClosed first :=
  fun before caller among => safely before caller (among.trans early)

/-- An outbox goes on serving after an event, or a close returns. It leaves everything handed over
unless it came too late to wait and there was still something to come. -/
theorem Serving.returns (serving : journal.Serving) (undisposed : event.disposes = false)
    (spacious : journal.dispatch.outbox.Spacious (journal.dispatch.accepts event)) :
    (journal.step event).Serving ∧ (∀ caller, ¬journal.dispatch.Returns caller event) ∨
      (journal.step event).dispatch.outbox.Parted ∧
        (∃ caller, journal.dispatch.Returns caller event) ∧
        ((∀ caller, event = .call caller .close →
            journal.dispatch.outbox.mailbox.joinable = false →
              journal.dispatch.outbox.unsent = []) →
          (journal.step event).Handed) := by
  rcases serving.step undisposed spacious with serves | ⟨departs, caller, returns, late | waited⟩
  · exact Or.inl serves
  · refine Or.inr ⟨departs.parted, ⟨caller, returns⟩, fun safe => ?_⟩
    have drained := safe caller late.1 late.2
    exact departs.entered.handed (departs.unsent.trans drained)
  · refine Or.inr ⟨departs.parted, ⟨caller, returns⟩, fun _ => ?_⟩
    have drained := (serving.steady.over waited.1).2.2
    exact departs.entered.handed (departs.unsent.trans drained)

/-- An outbox goes on serving, or its transport was taken away. If no close did so while messages
were still to come, everything was handed over. -/
theorem Serving.run {origin : Journal Handler} (serving : origin.Serving)
    {events : List (Event Handler)} (plain : ∀ event ∈ events, origin.Plain event) :
    (origin.run events).Serving ∧
        (origin.run events).dispatch.outbox.Alike origin.dispatch.outbox ∨
      (origin.run events).dispatch.outbox.Parted ∧
        (origin.SafelyClosed events → (origin.run events).Handed) := by
  -- Whether a close came too late depends on what was there before it, hence the last event first.
  induction events using List.reverseRecOn with
  | nil => exact Or.inl ⟨serving, rfl, rfl⟩
  | append_singleton events event ih =>
      rw [run_concat]
      rcases ih fun other member => plain other (List.mem_append_left _ member) with
        ⟨serving, alike⟩ | ⟨parted, hands⟩
      · have last := plain event List.mem_concat_self
        rcases serving.returns last.undisposed (last.accepts alike) with
          ⟨after, _⟩ | ⟨parted, _, hands⟩
        · exact Or.inl ⟨after, (step_alike rfl (serving.goes last.undisposed)).trans alike⟩
        · refine Or.inr ⟨parted, fun safely => hands fun caller closes => ?_⟩
          exact safely events caller (closes ▸ List.prefix_refl _)
      · refine Or.inr ⟨(parted.turn event).1.parted, fun safely => ?_⟩
        exact (hands (safely.mono (List.prefix_append events [event]))).step parted event

/-- A close that comes too late to wait returns at once, and nothing moves in the meantime. -/
theorem close_late {caller : Nat} (late : journal.dispatch.outbox.mailbox.joinable = false) :
    journal.dispatch.Returns caller (.call caller .close) ∧
      (journal.step (.call caller .close)).dispatch.outbox.unsent =
        journal.dispatch.outbox.unsent := by
  have turned : journal.dispatch.turn (.call caller .close) =
      ({ journal.dispatch.outbox with
        mailbox := journal.dispatch.outbox.mailbox.close, attached := false },
        journal.dispatch.outbox.mailbox.close.wakeWorker ++ [.done (.caller caller) .done]) := by
    simp [Dispatch.turn, component, start, Mailbox.join, late, detach]
  refine ⟨⟨Or.inl rfl, ?_⟩, ?_⟩
  · rw [turned, Effect.results_append, Mailbox.results_wakeWorker]
    exact .head _
  · rw [Journal.step, Dispatch.step, turned]
    rfl

theorem Serving.closesDeliver_iff {origin : Journal Handler} (serving : origin.Serving)
    {events : List (Event Handler)} (plain : ∀ event ∈ events, origin.Plain event) :
    origin.ClosesDeliver events ↔ origin.SafelyClosed events := by
  constructor
  · intro delivers before caller among late
    obtain ⟨returns, unsent⟩ := close_late late
    have handed := delivers before _ caller among returns
    rw [run_concat] at handed
    exact unsent.symm.trans handed.drained
  · intro safely before event caller among returns
    have early := (List.prefix_append before [event]).trans among
    have subset (other : Event Handler) (member : other ∈ before) :=
      plain other (early.subset member)
    rw [run_concat]
    rcases serving.run subset with ⟨serves, alike⟩ | ⟨parted, hands⟩
    · have last := plain event (among.subset List.mem_concat_self)
      rcases serves.returns last.undisposed (last.accepts alike) with
        ⟨_, goes⟩ | ⟨_, _, hands⟩
      · exact absurd returns (goes caller)
      · exact hands fun caller closes => safely before caller (closes ▸ among)
    · exact (hands (safely.mono early)).step parted event

/-- Without its transport, an outbox begins no send, whatever happens. -/
theorem sends_of_parted (parted : journal.dispatch.outbox.Parted) (events : List (Event Handler)) :
    (journal.run events).dispatch.sends = journal.dispatch.sends := by
  induction events generalizing journal with
  | nil => rfl
  | cons event rest ih =>
      obtain ⟨retires, mute⟩ := parted.turn event
      have begun : (journal.step event).dispatch.sends = journal.dispatch.sends := by
        rw [Journal.step, Dispatch.step, Dispatch.begun, mute, List.append_nil]
      exact (ih retires.parted).trans begun

/-- Any number of closes meet at an outbox. They wait, are given up, overlap and come again, in any
order with what else happens. Every one of them that returns leaves everything that was accepted
before handed over exactly if each close that cannot wait for the worker, because the right to do so
was given out before, finds nothing still to come. The transport is taken away just when a close
returns, and no send begins after that. -/
theorem closes_deliver_iff (created : create settings maxFrame = .ok (.ok outbox))
    (room : Memory.hasRoom settings.messagesPerPass Bytes.slotSize = true)
    {events : List (Event Handler)} (undisposed : ∀ event ∈ events, event.disposes = false)
    (spacious : ∀ event ∈ events, outbox.Spacious event.messages) :
    let origin := opened outbox
    (origin.ClosesDeliver events ↔ origin.SafelyClosed events) ∧
      ∀ before event, before ++ [event] <+: events →
        ((origin.run (before ++ [event])).dispatch.outbox.attached = false ↔
          (origin.run before).dispatch.outbox.attached = false ∨
            ∃ caller, (origin.run before).dispatch.Returns caller event) ∧
        ((origin.run (before ++ [event])).dispatch.outbox.attached = false →
          (origin.run events).dispatch.sends =
            (origin.run (before ++ [event])).dispatch.sends) := by
  intro origin
  have serving : origin.Serving := opened_serving created room
  have plain (event : Event Handler) (member : event ∈ events) : origin.Plain event :=
    ⟨undisposed event member, spacious event member⟩
  refine ⟨serving.closesDeliver_iff plain, fun before event among => ⟨?_, fun taken => ?_⟩⟩
  · have early := (List.prefix_append before [event]).trans among
    have last := plain event (among.subset List.mem_concat_self)
    rw [run_concat]
    rcases serving.run fun other member => plain other (early.subset member) with
      ⟨serves, alike⟩ | ⟨parted, _⟩
    · have attached := serves.steady.attached
      rcases serves.returns last.undisposed (last.accepts alike) with
        ⟨after, goes⟩ | ⟨parted, returns, _⟩
      · simp [after.steady.attached, attached, goes]
      · exact iff_of_true parted.detached (Or.inr returns)
    · exact iff_of_true (parted.turn event).1.parted.detached (Or.inl parted.detached)
  · obtain ⟨rest, rfl⟩ := among
    rcases serving.run fun other member => plain other (List.mem_append_left _ member) with
      ⟨serves, _⟩ | ⟨parted, _⟩
    · rw [serves.steady.attached] at taken
      cases taken
    · rw [run, List.foldl_append]
      exact sends_of_parted parted rest

/-- A message is sent before the first close returns, and a second close comes after it. -/
def repeated : List (Event Unit) :=
  [.call 0 (.send [[97]]), .call 1 .close, .resume .worker (.error (.io .brokenPipe)),
    .land (.ok 0), .resume (.caller 1) (.ok 0), .call 2 .close]

theorem closes_deliver_repeated :
    ∃ outbox : Outbox Unit, create {} 0 = .ok (.ok outbox) ∧
      (∀ event ∈ repeated, event.disposes = false ∧ outbox.Spacious event.messages) ∧
      (opened outbox).ClosesDeliver repeated ∧
      ((opened outbox).run repeated).dispatch.sends.length = 1 := by
  obtain ⟨outbox, created⟩ : ∃ outbox : Outbox Unit, create {} 0 = .ok (.ok outbox) := ⟨_, rfl⟩
  have undisposed : ∀ event ∈ repeated, event.disposes = false := by decide
  have alone : outbox.batch = none := by cases created; rfl
  have spacious : ∀ event ∈ repeated, outbox.Spacious event.messages := by
    intro event _ batched
    rw [alone] at batched
    cases batched
  have safely : (opened outbox).SafelyClosed repeated := by
    intro before caller among late
    obtain ⟨rest, whole⟩ := among
    have short : before.length < 6 := by
      have length := congrArg List.length whole
      simp only [List.length_append, repeated, List.length_cons, List.length_nil] at length
      omega
    have place : repeated[before.length]? = some (.call caller .close) := by
      rw [← whole, List.append_assoc, List.getElem?_append_right (Nat.le_refl _), Nat.sub_self]
      rfl
    have same : before = repeated.take before.length := by
      rw [← whole, List.append_assoc, List.take_left]
    rw [same] at late ⊢
    generalize before.length = index at short place late
    cases created
    interval_cases index
    · cases place
    · exact absurd late (by decide)
    · cases place
    · cases place
    · cases place
    · decide
  have delivers := (closes_deliver_iff created rfl undisposed spacious).1.mpr safely
  have sent : ((opened outbox).run repeated).dispatch.sends.length = 1 := by
    cases created
    decide
  exact ⟨outbox, created, fun event member => ⟨undisposed event member, spacious event member⟩,
    delivers, sent⟩

/-- A close that returns before every accepted message was handed over. -/
theorem not_closesDeliver {origin : Journal Handler} {events : List (Event Handler)} {caller : Nat}
    (returns : (origin.run events).dispatch.Returns caller event)
    (lost : (origin.run (events ++ [event])).dispatch.sends.flatMap Send.messages ≠
      (origin.run (events ++ [event])).accepted.filter
        (origin.run (events ++ [event])).dispatch.outbox.admits) :
    ¬origin.ClosesDeliver (events ++ [event]) :=
  fun delivers => lost (delivers events event caller (List.prefix_refl _) returns).sent

/-- A close beside another one that waits, or after one that was given up, returns while an accepted
message is still to come, and the message is lost. It is lost too if memory has no room for a pass,
however the outbox is closed. -/
theorem late_closes_lose :
    (∃ outbox : Outbox Unit, create {} 0 = .ok (.ok outbox) ∧
      ∀ waiting ∈ [[.call 0 (.send [[97]]), .call 1 .close],
          [.call 0 (.send [[97]]), .call 1 .close, .abandon (.caller 1)]],
        ((opened outbox).run waiting).dispatch.Returns 2 (.call 2 .close) ∧
          ¬(opened outbox).ClosesDeliver (waiting ++ [.call 2 .close]) ∧
          let after := (opened outbox).run
            (waiting ++ [.call 2 .close, .resume .worker (.ok 0)])
          after.accepted = [[97]] ∧ after.dispatch.sends.length = 0 ∧ after.refused = [] ∧
            after.dispatch.outbox.mailbox.isOver = true) ∧
    ∃ outbox : Outbox Unit,
      create { messagesPerPass := 18446744073709551615 } 0 = .ok (.ok outbox) ∧
        let events := [.call 0 (.send [[97]]), .call 1 .close, .resume .worker (.ok 0)]
        ((opened outbox).run events).dispatch.Returns 1 (.resume (.caller 1) (.ok 0)) ∧
          ¬(opened outbox).ClosesDeliver (events ++ [.resume (.caller 1) (.ok 0)]) := by
  constructor
  · obtain ⟨outbox, created⟩ : ∃ outbox : Outbox Unit, create {} 0 = .ok (.ok outbox) := ⟨_, rfl⟩
    refine ⟨outbox, created, fun waiting member => ?_⟩
    have late : ((opened outbox).run waiting).dispatch.outbox.mailbox.joinable = false := by
      cases created
      rcases List.mem_pair.mp member with rfl | rfl <;> rfl
    have returns := (@close_late Unit _ 2 late).1
    refine ⟨returns, not_closesDeliver returns ?_, ?_⟩
    · cases created
      rcases List.mem_pair.mp member with rfl | rfl <;> decide
    · cases created
      rcases List.mem_pair.mp member with rfl | rfl <;> decide
  · obtain ⟨outbox, created⟩ : ∃ outbox : Outbox Unit,
        create { messagesPerPass := 18446744073709551615 } 0 = .ok (.ok outbox) := ⟨_, rfl⟩
    refine ⟨outbox, created, ?_⟩
    intro events
    have finished : ((opened outbox).run events).dispatch.outbox.mailbox.isOver = true ∧
        ((opened outbox).run events).dispatch.outbox.mailbox.joiner = some (.caller 1) := by
      cases created
      decide
    have returns := (Dispatch.returns_resume_iff _ 1 (.ok 0)).mpr finished
    refine ⟨returns, not_closesDeliver returns ?_⟩
    cases created
    decide

end Journal

end Outbox

end ReliableTransport
