import ReliableTransport.Proofs.Outbox.Dispatch
import ReliableTransport.Proofs.Stream.Writing
import ReliableTransport.Rehearsal.Outboxes
/-!
This module says that the parts of a message are as good as the message in one piece. A transport
that does not gather parts is given their copy, an outbox queues them as one message, and a stream
takes the same bytes whatever the parts are. So a frame goes out as it would in one piece.
-/

namespace ReliableTransport

namespace Outlet

/-- How the writing of a datagram ends, with the bytes that were pending in one piece. -/
def Ending.joined : Ending → Ending
  | .givenUp pending => .givenUp [pending.flatten]
  | ending => ending

variable {length : Nat} {pending other : List Bytes}

/-- Pieces of the same bytes can be advanced as far as one another, and leave the same behind. -/
theorem advance_congr (same : pending.flatten = other.flatten) (count : Nat) :
    (advance count pending = none ∧ advance count other = none) ∨
      ∃ rest later, advance count pending = some rest ∧ advance count other = some later ∧
        rest.flatten = later.flatten := by
  have alike : (advance count pending).isSome = (advance count other).isSome := by
    rw [Bool.eq_iff_iff, advance_isSome_iff, advance_isSome_iff, same]
  cases first : advance count pending with
  | none =>
      rw [first, Option.isSome_none, eq_comm, Option.isSome_eq_false_iff,
        Option.isNone_iff_eq_none] at alike
      exact .inl ⟨rfl, alike⟩
  | some rest =>
      rw [first, Option.isSome_some, eq_comm] at alike
      obtain ⟨later, second⟩ := Option.isSome_iff_exists.mp alike
      refine .inr ⟨rest, later, rfl, second, ?_⟩
      rw [flatten_advance first, flatten_advance second, same]

/-- What a write does to the stream depends on the pending bytes and not on their pieces, as long as
no piece is empty. -/
theorem write_congr (full : [] ∉ pending) (alsoFull : [] ∉ other)
    (same : pending.flatten = other.flatten) (takes : List Take) :
    (write length takes pending).1 = (write length takes other).1 ∧
      (write length takes pending).2.joined = (write length takes other).2.joined := by
  induction takes generalizing pending other with
  | nil =>
      cases pending with
      | nil =>
          rw [(flatten_eq_nil_iff alsoFull).mp same.symm]
          exact ⟨rfl, rfl⟩
      | cons piece pieces =>
          cases other with
          | nil => exact absurd ((flatten_eq_nil_iff full).mp same) (List.cons_ne_nil _ _)
          | cons => exact ⟨rfl, congrArg (fun bytes => Ending.givenUp [bytes]) same⟩
  | cons take takes ih =>
      by_cases waits : pending = []
      · subst waits
        rw [(flatten_eq_nil_iff alsoFull).mp same.symm]
        exact ⟨rfl, rfl⟩
      have alsoWaits : other ≠ [] := fun empty =>
        waits ((flatten_eq_nil_iff full).mp (same.trans (by rw [empty, List.flatten_nil])))
      obtain ⟨_, _, rfl⟩ := List.exists_cons_of_ne_nil waits
      obtain ⟨_, _, rfl⟩ := List.exists_cons_of_ne_nil alsoWaits
      match take with
      | .failed failure => exact ⟨rfl, rfl⟩
      | .took 0 => exact ⟨rfl, rfl⟩
      | .took (count + 1) =>
          rcases advance_congr same (count + 1) with ⟨none, alsoNone⟩ | ⟨rest, later, advanced⟩
          · simp only [write, none, alsoNone, same, and_self]
          · obtain ⟨first, second, behind⟩ := advanced
            rw [write_took (Nat.succ_pos count) first, write_took (Nat.succ_pos count) second, same]
            obtain ⟨written, ending⟩ :=
              ih (full_advance full first) (full_advance alsoFull second) behind
            exact ⟨by rw [written], ending⟩

/-- Two deliveries of one message leave the same bytes in a stream and end alike. -/
theorem send_congr (outlet : Outlet) (one two : Delivery) (same : one.data = two.data)
    (takes : List Take) :
    (outlet.send one takes).1 = (outlet.send two takes).1 ∧
      (outlet.send one takes).2.joined = (outlet.send two takes).2.joined := by
  have length : one.length = two.length := congrArg List.length same
  rw [send, send, length]
  split
  · exact ⟨rfl, rfl⟩
  split
  · refine write_congr (full_pieces _ _) (full_pieces _ _) ?_ takes
    rw [pieces_flatten two, ← length, pieces_flatten one, same]
  · exact ⟨rfl, rfl⟩

end Outlet

namespace Batch

/-- The frame in one piece is the frame in parts, put together. -/
theorem toBytes_eq (batch : Batch) : batch.toBytes = batch.toParts.map List.flatten := by
  rw [toBytes]
  cases batch.toParts <;> rfl

end Batch

namespace Outbox

open Mailbox (Role)

variable {Handler Result : Type}

/-- A message that is handed over in parts is queued in one piece. -/
theorem message_eq (delivery : Delivery) : message delivery = delivery.data := by
  cases delivery with
  | whole data => rfl
  | parts pieces =>
      cases pieces with
      | nil => rfl
      | cons piece rest =>
          cases rest with
          | nil => simp [message, Delivery.data]
          | cons => rfl

/-- A message may be handed over in any parts. The outbox queues it like any other and answers its
length. -/
theorem start_deliver (outbox : Outbox Handler) (task : Role) (delivery : Delivery) :
    outbox.start task (.deliver delivery) =
      (outbox.queue [delivery.data],
        (outbox.queue [delivery.data]).mailbox.wakeWorker ++
          [.done task (.length delivery.length)]) := by
  rw [start, message_eq]
  rfl

/-- The sends that a turn begins. -/
def sends (effects : List (Effect Role (Order Handler) Result)) : List Delivery :=
  (Effect.orders effects).filterMap fun order =>
    match order with
    | .send delivery => some delivery
    | .report _ _ _ => none

theorem sends_append (front back : List (Effect Role (Order Handler) Result)) :
    sends (front ++ back) = sends front ++ sends back := by
  rw [sends, Effect.orders_append, List.filterMap_append]
  rfl

theorem sends_reports (outbox : Outbox Handler) (failure : Failure) (payload : List Bytes) :
    sends (outbox.reports failure payload : List (Effect Role (Order Handler) Result)) = [] := by
  rw [reports]
  induction outbox.handlers.handlers with
  | nil => rfl
  | cons _ _ ih => exact ih

theorem sends_wakeWorker (mailbox : Mailbox Bytes) :
    sends (mailbox.wakeWorker : List (Effect Role (Order Handler) Result)) = [] := by
  rw [Mailbox.wakeWorker]
  split <;> rfl

theorem sends_wakeJoiner (mailbox : Mailbox Bytes) :
    sends (mailbox.wakeJoiner : List (Effect Role (Order Handler) Result)) = [] := by
  rw [Mailbox.wakeJoiner]
  split
  · cases mailbox.joiner <;> rfl
  · rfl

/-- The sends with which an outbox can end a turn: none, that of a message alone, or that of the
frame of the batch that it holds. -/
inductive Launches (outbox : Outbox Handler) : List Delivery → Prop where
  | nothing : Launches outbox []
  | alone {message : Bytes} {rest : List Bytes}
      (aloft : outbox.flight = some (.single message rest)) : Launches outbox [.whole message]
  | together {batch : Batch} {parts : List Bytes} (held : outbox.batch = some batch)
      (written : batch.toParts = .ok parts) : Launches outbox [.parts parts]

/-- A pass ends with a send or begins none. -/
structure Progress.Launching (progress : Progress Handler Result) : Prop where
  launches : progress.outbox.Launches (sends progress.effects)
  rests : progress.complete = true → sends progress.effects = []

variable {outbox : Outbox Handler} {progress : Progress Handler Result}

theorem launching_of_quiet (quiet : sends progress.effects = []) : progress.Launching :=
  ⟨quiet ▸ .nothing, fun _ => quiet⟩

theorem Progress.Launching.after (launching : progress.Launching)
    {effects : List (Effect Role (Order Handler) Result)} (quiet : sends effects = []) :
    (progress.after effects).Launching := by
  have same : sends (progress.after effects).effects = sends progress.effects := by
    rw [Progress.after, sends_append, quiet, List.nil_append]
  exact ⟨same ▸ launching.launches, fun complete => same.trans (launching.rests complete)⟩

theorem sendEach_launching (outbox : Outbox Handler) (messages : List Bytes) :
    (outbox.sendEach messages : Progress Handler Result).Launching := by
  induction messages with
  | nil => exact launching_of_quiet rfl
  | cons message rest ih =>
      rw [sendEach]
      split
      · exact ⟨.alone rfl, fun complete => absurd complete Bool.false_ne_true⟩
      · exact ih

theorem flush_launching (outbox : Outbox Handler) (batch : Batch) (flight : Flight) :
    (outbox.flush batch flight : Progress Handler Result).Launching := by
  rw [flush]
  split
  next parts written =>
    exact ⟨.together rfl written, fun complete => absurd complete Bool.false_ne_true⟩
  next => exact launching_of_quiet (sends_wakeJoiner outbox.mailbox.breakDown)

theorem sendBatched_launching (outbox : Outbox Handler) (batch : Batch) (messages : List Bytes) :
    (outbox.sendBatched batch messages : Progress Handler Result).Launching := by
  induction messages generalizing batch with
  | nil =>
      rw [sendBatched]
      split
      · exact launching_of_quiet rfl
      split
      · exact outbox.flush_launching batch .last
      · exact launching_of_quiet rfl
  | cons message rest ih =>
      rw [sendBatched]
      dsimp only
      split
      · exact outbox.flush_launching batch _
      split
      next => exact (ih _).after (outbox.sends_reports _ _)
      next grown _ =>
        split
        · exact ih grown
        split
        · exact outbox.flush_launching grown _
        · exact ih grown.clear

theorem workOn_launching (outbox : Outbox Handler) (messages : List Bytes) :
    (outbox.workOn messages : Progress Handler Result).Launching := by
  rw [workOn]
  split
  · exact outbox.sendEach_launching messages
  next batch _ => exact outbox.sendBatched_launching batch messages

/-- However many passes a turn of the worker begins, a send ends it. -/
theorem beginPasses_launches (passes : Nat) (outbox : Outbox Handler) :
    let turn : Turn (Outbox Handler) Role (Order Handler) Result := outbox.beginPasses passes
    turn.1.Launches (sends turn.2) := by
  induction passes generalizing outbox with
  | zero => exact .nothing
  | succ passes ih =>
      rw [beginPasses]
      split
      next mailbox _ =>
        dsimp only
        rw [sends_wakeJoiner]
        exact .nothing
      next mailbox messages _ =>
        have launching : ({ outbox with mailbox }.workOn messages :
            Progress Handler Result).Launching := workOn_launching _ messages
        dsimp only
        split
        next complete =>
          rw [sends_append, launching.rests complete, List.nil_append]
          exact ih _
        next => exact launching.launches

theorem Progress.Launching.turn (launching : progress.Launching) :
    progress.turn.1.Launches (sends progress.turn.2) := by
  rw [Progress.turn]
  split
  next complete =>
    rw [sends_append, launching.rests complete, List.nil_append]
    exact beginPasses_launches _ _
  next => exact launching.launches

theorem landed_launches (outbox : Outbox Handler) (answer : Except Failure Nat) :
    let turn : Turn (Outbox Handler) Role (Order Handler) Result := outbox.landed answer
    turn.1.Launches (sends turn.2) := by
  rw [landed]
  split
  · exact .nothing
  next flight _ =>
    cases answer with
    | ok length => exact ((workOn_launching _ _).after rfl).turn
    | error failure => exact ((workOn_launching _ _).after (outbox.sends_reports _ _)).turn

/-- A call begins no send. The worker does. -/
theorem sends_start (outbox : Outbox Handler) (task : Role) (made : Call Handler) :
    sends (outbox.start task made).2 = [] := by
  have woken (mailbox : Mailbox Bytes) (reply : Reply) :
      sends (mailbox.wakeWorker ++ [.done task reply] : List (Effect Role (Order Handler) Reply)) =
        [] := by
    rw [sends_append, sends_wakeWorker]
    rfl
  cases made with
  | send messages => exact woken _ _
  | sendRange data offset length =>
      rw [start]
      split
      · rfl
      · exact woken _ _
  | deliver delivery => exact woken _ _
  | subscribe handler => rfl
  | unsubscribe id => rfl
  | reset => rfl
  | close =>
      rw [start]
      dsimp only
      split
      · exact sends_wakeWorker _
      · exact woken _ _
  | dispose => exact woken _ _

theorem resume_launches (outbox : Outbox Handler) (task : Role) :
    let turn : Turn (Outbox Handler) Role (Order Handler) Reply := component.resume 0 task outbox
    turn.1.Launches (sends turn.2) := by
  cases task with
  | worker =>
      simp only [component]
      split
      · exact .nothing
      · exact beginPasses_launches _ outbox
  | caller number =>
      simp only [component]
      split
      · exact .nothing
      · exact .nothing

/-- Whatever happens, a turn of an outbox begins one send at most, with a message alone or with the
frame of the batch that the outbox then holds. -/
theorem turn_launches (dispatch : Dispatch Handler) (event : Dispatch.Event Handler) :
    (dispatch.turn event).1.Launches (sends (dispatch.turn event).2) := by
  cases event with
  | call caller made =>
      have quiet : sends (dispatch.turn (.call caller made)).2 = [] :=
        sends_start dispatch.outbox _ made
      exact quiet ▸ .nothing
  | resume task ending => exact dispatch.outbox.resume_launches task
  | land ending =>
      rw [Dispatch.turn]
      split
      next send _ => exact dispatch.outbox.landed_launches send.ending
      next => exact .nothing
  | abandon task => exact .nothing

namespace Dispatch

/-- The same event, with a message that is handed over in parts in one piece. -/
def Event.joined : Event Handler → Event Handler
  | .call caller (.deliver delivery) => .call caller (.deliver (.whole delivery.data))
  | event => event

theorem step_joined (dispatch : Dispatch Handler) (event : Event Handler) :
    dispatch.step event.joined = dispatch.step event := by
  cases event with
  | call caller made =>
      cases made with
      | deliver delivery =>
          have turn : dispatch.turn (.call caller (.deliver (.whole delivery.data))) =
              dispatch.turn (.call caller (.deliver delivery)) :=
            (start_deliver dispatch.outbox (.caller caller) _).trans
              (start_deliver dispatch.outbox (.caller caller) delivery).symm
          have submitted : [message (.whole delivery.data)] = [message delivery] := by
            rw [message_eq, message_eq]
            rfl
          simp only [Event.joined, step, begun, turn, Event.messages, Call.messages, submitted,
            Event.ending]
      | _ => rfl
  | _ => rfl

/-- An outbox does not tell a message in parts from one in one piece. -/
theorem run_joined (dispatch : Dispatch Handler) (events : List (Event Handler)) :
    dispatch.run (events.map Event.joined) = dispatch.run events := by
  induction events generalizing dispatch with
  | nil => rfl
  | cons event rest ih =>
      have first : dispatch.run ((event :: rest).map Event.joined) =
          (dispatch.step event.joined).run (rest.map Event.joined) := rfl
      rw [first, step_joined, ih]
      rfl

end Dispatch

end Outbox

namespace Delivery

open Outbox
open Rehearsal.Outboxes (Transport outside)

variable {Handler : Type}

/-- What a transport that does not gather parts is given is one send of their copy. -/
theorem perform_send (now : Nat) {transport : Transport} (copies : transport.gathers = false)
    (delivery : Delivery) :
    outside.perform now (.send delivery) transport =
        outside.perform now (.send (.whole delivery.data)) transport ∧
      (outside.perform now (.send delivery) transport).1.events =
        transport.events ++ [.sent now (.whole delivery.data)] := by
  have given : delivery.toTransport transport.gathers = .whole delivery.data := by
    rw [toTransport, copies]
    rfl
  have same : (Delivery.whole delivery.data).toTransport transport.gathers =
      .whole delivery.data := by
    rw [toTransport, copies]
    rfl
  constructor
  · simp only [outside, given, same]
  · simp only [outside, given]

/-- The parts of a message are as good as the message in one piece. -/
structure AsWhole (Handler : Type) : Prop where
  /-- A transport that does not gather parts makes one send of their copy and answers what that send
  answers. -/
  copies : ∀ (pieces : List Bytes) (now : Nat) (transport : Transport), transport.gathers = false →
    outside.perform now (.send (.parts pieces)) transport =
        outside.perform now (.send (.whole pieces.flatten)) transport ∧
      (outside.perform now (.send (.parts pieces)) transport).1.events =
        transport.events ++ [.sent now (.whole pieces.flatten)]
  /-- An outbox queues the one message that it would queue for a plain send, if it is open. -/
  queues : ∀ (outbox : Outbox Handler) task pieces,
    outbox.Takes [pieces.flatten] (outbox.start task (.deliver (.parts pieces))).1 ∧
      (outbox.start task (.deliver (.parts pieces))).1 =
        (outbox.start task (.send [pieces.flatten])).1
  /-- An outbox answers the length of the message. -/
  answers : ∀ (outbox : Outbox Handler) task pieces,
    outbox.start task (.deliver (.parts pieces)) =
        outbox.start task (.deliver (.whole pieces.flatten)) ∧
      Effect.results (outbox.start task (.deliver (.parts pieces))).2 =
        [(task, .length pieces.flatten.length)]
  /-- An outbox never tells the difference afterwards. -/
  forgets : ∀ (dispatch : Dispatch Handler) events,
    dispatch.run (events.map Dispatch.Event.joined) = dispatch.run events
  /-- A frame in one piece is its parts put together. -/
  frames : ∀ batch : Batch, batch.toBytes = batch.toParts.map List.flatten
  /-- Every send of an outbox is one of a message or of the frame of its batch, and a transport that
  does not gather parts sends it in one piece. -/
  sends : ∀ (dispatch : Dispatch Handler) event delivery,
    let turn := dispatch.turn event
    delivery ∈ sends turn.2 → sends turn.2 = [delivery] ∧
      ((∃ rest, turn.1.flight = some (.single delivery.data rest)) ∨
        ∃ batch, turn.1.batch = some batch ∧ batch.toBytes = .ok delivery.data) ∧
      ∀ now (transport : Transport), transport.gathers = false →
        (outside.perform now (.send delivery) transport).1.events =
          transport.events ++ [.sent now (.whole delivery.data)]
  /-- A stream is left with the same bytes whatever the parts are: those of the message behind its
  length as far as the stream took them, and all of them if a length is returned. -/
  writes : ∀ (outlet : Outlet) pieces takes,
    let sent := outlet.send (.parts pieces) takes
    let whole := outlet.send (.whole pieces.flatten) takes
    sent.1 = whole.1 ∧ sent.2.joined = whole.2.joined ∧
      Outlet.Ends pieces.flatten.length (Bytes.announced pieces.flatten) sent.1 sent.2

/-- A transport, an outbox and a stream do with the parts of a message what they do with the message
in one piece. -/
theorem parts_as_whole : AsWhole Handler where
  copies pieces now transport copies := perform_send now copies (.parts pieces)
  queues outbox task pieces := by
    rw [start_deliver]
    exact ⟨outbox.queue_takes _, rfl⟩
  answers outbox task pieces := by
    rw [start_deliver, start_deliver]
    refine ⟨rfl, ?_⟩
    rw [Effect.results_append, Mailbox.wakeWorker]
    split <;> rfl
  forgets := Dispatch.run_joined
  frames := Batch.toBytes_eq
  sends dispatch event delivery := by
    intro turn begins
    have launches : turn.1.Launches (Outbox.sends turn.2) := turn_launches dispatch event
    generalize Outbox.sends turn.2 = begun at launches begins
    cases launches with
    | nothing => cases begins
    | @alone message rest aloft =>
        obtain rfl := List.mem_singleton.mp begins
        exact ⟨rfl, .inl ⟨rest, aloft⟩, fun now _ copies => (perform_send now copies _).2⟩
    | @together batch parts held written =>
        obtain rfl := List.mem_singleton.mp begins
        have bytes : batch.toBytes = .ok parts.flatten := by
          rw [Batch.toBytes_eq, written]
          rfl
        exact ⟨rfl, .inr ⟨batch, held, bytes⟩, fun now _ copies => (perform_send now copies _).2⟩
  writes outlet pieces takes := by
    obtain ⟨written, ending⟩ :=
      outlet.send_congr (.parts pieces) (.whole pieces.flatten) rfl takes
    exact ⟨written, ending, outlet.send_ends (.parts pieces) takes⟩

/-- A transport that does not gather parts, over a script without outcomes. -/
def copying : Transport where
  gathers := false
  delay := 0
  results := []

/-- Three parts, one of them empty, are one send of two bytes, and one message in the queue of a new
outbox. -/
theorem parts_as_whole_copying :
    copying.gathers = false ∧
      (outside.perform 0 (.send (.parts [[97], [], [98]])) copying).1.events =
        [.sent 0 (.whole [97, 98])] ∧
      ∃ outbox : Outbox String, create {} 0 = .ok (.ok outbox) ∧
        outbox.mailbox.closed = false ∧ outbox.mailbox.isOver = false ∧
        (outbox.start (.caller 0) (.deliver (.parts [[97], [], [98]]))).1.mailbox.queue =
          [[97, 98]] := by
  have whole : AsWhole String := parts_as_whole
  obtain ⟨outbox, created⟩ : ∃ outbox : Outbox String, create {} 0 = .ok (.ok outbox) := ⟨_, rfl⟩
  have fresh : outbox.mailbox.closed = false ∧ outbox.mailbox.isOver = false ∧
      outbox.mailbox.queue = [] := by
    cases created
    decide
  obtain ⟨isOpen, alive, empty⟩ := fresh
  refine ⟨rfl, (whole.copies [[97], [], [98]] 0 copying rfl).2, outbox, created, isOpen, alive, ?_⟩
  rw [(whole.queues outbox (.caller 0) [[97], [], [98]]).1.queues isOpen alive, empty]
  rfl

end Delivery

end ReliableTransport
