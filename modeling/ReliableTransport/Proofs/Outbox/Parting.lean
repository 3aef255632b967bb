import ReliableTransport.Proofs.Outbox.Journal
/-!
This module says what is left of an outbox without its transport. Its worker goes on taking messages
and drops them: no send begins any more.
-/

namespace ReliableTransport

namespace Outbox

open Mailbox (Role)

variable {Handler Result : Type} {outbox : Outbox Handler}

theorem sendEach_of_detached (detached : outbox.attached = false) (messages : List Bytes) :
    (outbox.sendEach messages : Progress Handler Result) =
      { outbox, effects := [], complete := true } := by
  induction messages with
  | nil => rfl
  | cons message rest ih => simp [sendEach, detached, ih]

/-- Without its transport, an outbox collects messages into batches that go nowhere. -/
theorem sendBatched_of_detached (detached : outbox.attached = false) (messages : List Bytes)
    (batch : Batch) :
    ∃ last effects, (outbox.sendBatched batch messages : Progress Handler Result) =
        { outbox := { outbox with batch := some last }, effects, complete := true } ∧
      last.maxSize = batch.maxSize ∧ Mute effects := by
  induction messages generalizing batch with
  | nil =>
      by_cases empty : batch.isEmpty = true
      · exact ⟨batch, [], by simp [sendBatched, empty], rfl, begun_nil⟩
      · exact ⟨batch.clear, [], by simp [sendBatched, empty, detached], rfl, begun_nil⟩
  | cons message rest ih =>
      let roomy := if isCrowded batch message then batch.clear else batch
      have bound : roomy.maxSize = batch.maxSize := by
        simp only [roomy]
        split <;> rfl
      cases added : roomy.add? message with
      | none =>
          obtain ⟨last, effects, reached, kept, mute⟩ := ih roomy
          refine ⟨last, outbox.reports (.invalidOperation .oversizeMessage) [message] ++ effects,
            ?_, kept.trans bound, ?_⟩
          · simp only [roomy] at added reached
            simp [sendBatched, detached, added, reached, Progress.after]
          · exact .append (begun_reports · · outbox _ _) mute
      | some grown =>
          have same : grown.maxSize = batch.maxSize := by
            rw [((Batch.add?_eq_some_iff roomy grown message).mp added).2]
            exact bound
          simp only [roomy] at added
          by_cases below : grown.size < outbox.packageSize
          · obtain ⟨last, effects, reached, kept, mute⟩ := ih grown
            exact ⟨last, effects, by simp [sendBatched, detached, added, below, reached],
              kept.trans same, mute⟩
          · obtain ⟨last, effects, reached, kept, mute⟩ := ih grown.clear
            exact ⟨last, effects, by simp [sendBatched, detached, added, below, reached],
              kept.trans same, mute⟩

theorem workOn_of_detached (detached : outbox.attached = false) (messages : List Bytes) :
    ∃ batch effects, (outbox.workOn messages : Progress Handler Result) =
        { outbox := { outbox with batch }, effects, complete := true } ∧
      batch.map Batch.maxSize = outbox.batch.map Batch.maxSize ∧ Mute effects := by
  unfold workOn
  split
  next alone =>
    refine ⟨outbox.batch, [], ?_, rfl, begun_nil⟩
    rw [sendEach_of_detached detached]
  next batch batched =>
    obtain ⟨last, effects, reached, kept, mute⟩ := sendBatched_of_detached detached messages batch
    exact ⟨some last, effects, reached, by rw [batched, Option.map_some, Option.map_some, kept],
      mute⟩

/-- A turn of the worker of an outbox without its transport. -/
structure Drops (outbox : Outbox Handler)
    (turn : Turn (Outbox Handler) Role (Order Handler) Result) : Prop where
  frame : turn.1 = { outbox with mailbox := turn.1.mailbox, batch := turn.1.batch }
  mailbox : turn.1.mailbox =
    { outbox.mailbox with queue := turn.1.mailbox.queue, worker := turn.1.mailbox.worker }
  queue : turn.1.mailbox.queue <:+ outbox.mailbox.queue
  bounds : turn.1.batch.map Batch.maxSize = outbox.batch.map Batch.maxSize
  mute : Mute turn.2

theorem beginPasses_drops (passes : Nat) (detached : outbox.attached = false) :
    Drops outbox (outbox.beginPasses passes :
      Turn (Outbox Handler) Role (Order Handler) Result) := by
  induction passes generalizing outbox with
  | zero => exact ⟨rfl, rfl, List.suffix_refl _, rfl, begun_nil⟩
  | succ passes ih =>
      obtain ⟨queue, worker, frame, suffix⟩ := outbox.mailbox.takePass_frame
      rw [beginPasses]
      cases taken : outbox.mailbox.takePass with
      | mk mailbox items =>
          rw [taken] at frame
          obtain rfl : mailbox = { outbox.mailbox with queue, worker } := frame
          cases items with
          | none =>
              exact ⟨rfl, rfl, suffix, rfl, mute_of_orders (Mailbox.orders_wakeJoiner _)⟩
          | some messages =>
              -- A pass without a transport is always complete, so the next one begins.
              let begun := { outbox with mailbox := { outbox.mailbox with queue, worker } }
              obtain ⟨batch, effects, reached, bounds, mute⟩ :=
                @workOn_of_detached Handler Result begun detached messages
              simp only [begun] at reached
              simp only [reached, if_true]
              have further :=
                @ih { begun with mailbox := begun.mailbox.endPass, batch } detached
              exact ⟨further.frame, further.mailbox, further.queue.trans suffix,
                further.bounds.trans bounds, mute.append further.mute⟩

theorem work_drops (detached : outbox.attached = false) :
    Drops outbox (outbox.work : Turn (Outbox Handler) Role (Order Handler) Result) :=
  beginPasses_drops _ detached

theorem landed_drops (detached : outbox.attached = false) {flight : Flight}
    (aloft : outbox.flight = some flight) (answer : Except Failure Nat) :
    ∃ turn : Turn (Outbox Handler) Role (Order Handler) Result,
      outbox.landed answer = (turn.1, outbox.told answer ++ turn.2) ∧
        Drops (outbox.settled answer) turn := by
  let settled := outbox.settled answer
  obtain ⟨batch, effects, reached, bounds, mute⟩ :=
    @workOn_of_detached Handler Result settled detached flight.rest
  refine ⟨_, landed_eq aloft answer, ?_⟩
  rw [reached, Progress.andThen, if_pos rfl]
  have further := @work_drops Handler Result
    { settled with mailbox := settled.mailbox.endPass, batch } detached
  exact ⟨further.frame, further.mailbox, further.queue, further.bounds.trans bounds,
    mute.append further.mute⟩

/-- An outbox whose transport was taken away by a close. -/
structure Parted (outbox : Outbox Handler) : Prop where
  detached : outbox.attached = false
  closed : outbox.mailbox.closed = true
  taken : outbox.mailbox.joinable = false

/-- What a turn leaves of an outbox without its transport. -/
structure Retires (before after : Outbox Handler) : Prop where
  parted : after.Parted
  bounds : after.batch.map Batch.maxSize = before.batch.map Batch.maxSize
  unsent : before.unsent = [] → after.unsent = []
  joiner : before.mailbox.joiner = none → after.mailbox.joiner = none

theorem Drops.retires {turn : Turn (Outbox Handler) Role (Order Handler) Result}
    (drops : Drops outbox turn) (parted : outbox.Parted) (landed : outbox.flight = none) :
    Retires outbox turn.1 := by
  have flight : turn.1.flight = none := (congrArg Outbox.flight drops.frame).trans landed
  refine ⟨⟨?_, ?_, ?_⟩, drops.bounds, ?_, ?_⟩
  · exact (congrArg Outbox.attached drops.frame).trans parted.detached
  · rw [drops.mailbox]
    exact parted.closed
  · rw [drops.mailbox]
    exact parted.taken
  · intro empty
    rw [unsent_of_landed landed] at empty
    rw [unsent_of_landed flight]
    exact List.suffix_nil.mp (empty ▸ drops.queue)
  · intro nobody
    rw [drops.mailbox]
    exact nobody

/-- A turn that leaves the queue alone. -/
theorem retires_of_mailbox (outbox : Outbox Handler) (mailbox : Mailbox Bytes) {attached : Bool}
    (parted : Parted { outbox with mailbox, attached })
    (queue : mailbox.queue = outbox.mailbox.queue)
    (joiner : outbox.mailbox.joiner = none → mailbox.joiner = none)
    (handlers : Registry Handler) (messageCount packageCount : UInt64) :
    Retires outbox
      { outbox with mailbox, attached, handlers, messageCount, packageCount } := by
  refine ⟨⟨parted.detached, parted.closed, parted.taken⟩, rfl, fun empty => ?_, joiner⟩
  rw [unsent] at empty ⊢
  exact (congrArg _ queue).trans empty

theorem Parted.unjoin (parted : outbox.Parted) (task : Role) {attached : Bool}
    (detached : attached = false) :
    Retires outbox { outbox with mailbox := outbox.mailbox.unjoin task, attached } := by
  obtain ⟨joiner, left, who⟩ := outbox.mailbox.unjoin_eq task
  rw [left]
  have alone (nobody : outbox.mailbox.joiner = none) : joiner = none :=
    who.elim id fun same => same.trans nobody
  let mailbox : Mailbox Bytes := { outbox.mailbox with joiner }
  exact retires_of_mailbox outbox mailbox ⟨detached, parted.closed, parted.taken⟩ rfl alone _ _ _

theorem Parted.call (parted : outbox.Parted) (task : Role) (made : Call Handler) :
    Retires outbox (outbox.start task made).1 ∧ Mute (outbox.start task made).2 := by
  have wakes (mailbox : Mailbox Bytes) :
      Mute (mailbox.wakeWorker ++ [.done task .done] :
        List (Effect Role (Order Handler) Reply)) :=
    .append (mute_of_orders (Mailbox.orders_wakeWorker mailbox)) (mute_of_orders rfl)
  cases runs : made.runs with
  | true =>
      obtain ⟨handlers, effects, started, quiet⟩ := outbox.start_of_runs task runs
      rw [started]
      refine ⟨retires_of_mailbox outbox _ ?_ ?_ ?_ handlers _ _, mute_of_orders quiet⟩
      · exact ⟨parted.detached, parted.closed, parted.taken⟩
      · simp [parted.closed]
      · exact id
  | false =>
      cases made with
      | reset =>
          exact ⟨retires_of_mailbox outbox outbox.mailbox parted rfl id outbox.handlers 0 0,
            mute_of_orders rfl⟩
      | close =>
          rw [start, Mailbox.join]
          simp only [parted.taken, Bool.false_eq_true, if_false]
          exact ⟨retires_of_mailbox outbox outbox.mailbox.close ⟨rfl, rfl, parted.taken⟩ rfl id
            _ _ _, wakes _⟩
      | dispose =>
          exact ⟨retires_of_mailbox outbox outbox.mailbox.close ⟨rfl, rfl, parted.taken⟩ rfl id
            _ _ _, wakes _⟩
      | send | sendRange | deliver | subscribe | unsubscribe => cases runs

/-- No event at an outbox without its transport begins a send. -/
theorem Parted.turn {dispatch : Dispatch Handler} (parted : dispatch.outbox.Parted)
    (event : Dispatch.Event Handler) :
    Retires dispatch.outbox (dispatch.turn event).1 ∧ Mute (dispatch.turn event).2 := by
  have stays : Retires dispatch.outbox dispatch.outbox := ⟨parted, rfl, id, id⟩
  cases event with
  | call caller made => exact parted.call (.caller caller) made
  | resume task ending =>
      cases task with
      | worker =>
          cases aloft : dispatch.outbox.flight with
          | some flight =>
              rw [show dispatch.turn (.resume .worker ending) = (dispatch.outbox, []) by
                simp [Dispatch.turn, component, aloft]]
              exact ⟨stays, begun_nil⟩
          | none =>
              rw [show dispatch.turn (.resume .worker ending) = dispatch.outbox.work by
                simp [Dispatch.turn, component, aloft]]
              have drops := @work_drops Handler Reply _ parted.detached
              exact ⟨drops.retires parted aloft, drops.mute⟩
      | caller number =>
          rw [Dispatch.turn, component]
          simp only
          split
          · exact ⟨parted.unjoin (.caller number) rfl, mute_of_orders rfl⟩
          · exact ⟨stays, begun_nil⟩
  | land ending =>
      rw [Dispatch.turn]
      split
      next send latest =>
        cases aloft : dispatch.outbox.flight with
        | none =>
            simp only [component, landed, aloft]
            exact ⟨stays, begun_nil⟩
        | some flight =>
            obtain ⟨turn, turned, drops⟩ :=
              @landed_drops Handler Reply _ parted.detached flight aloft send.ending
            have settled : (dispatch.outbox.settled send.ending).Parted :=
              ⟨parted.detached, parted.closed, parted.taken⟩
            have retires := drops.retires settled rfl
            simp only [component, turned]
            refine ⟨⟨retires.parted, ?_, fun empty => retires.unsent ?_, retires.joiner⟩, ?_⟩
            · exact retires.bounds.trans (dispatch.outbox.settled_alike send.ending).bounds
            · rw [unsent_of_aloft aloft, List.append_eq_nil_iff] at empty
              exact empty.2
            · exact .append (begun_told · · dispatch.outbox send.ending) drops.mute
      next => exact ⟨stays, begun_nil⟩
  | abandon task => exact ⟨parted.unjoin task parted.detached, begun_nil⟩

end Outbox

end ReliableTransport
