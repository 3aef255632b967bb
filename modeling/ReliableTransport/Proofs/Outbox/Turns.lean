import ReliableTransport.Proofs.Mailbox
import ReliableTransport.Proofs.Outbox.Collecting
/-!
This module says what a turn of an outbox's worker does, however the messages are split into passes.
The messages leave the queue from the front. Those that the outbox refuses are told to the handlers,
and the others make up the one send that the turn ends with.
-/

namespace ReliableTransport

namespace Outbox

open Mailbox (Role)

variable {Handler Result : Type}

/-- Whether the outbox sends a message. One without batches sends every message. -/
def admits (outbox : Outbox Handler) (message : Bytes) : Bool :=
  outbox.batch.all fun batch => batch.admits message

/-- The messages that the worker has not come to yet, the next one first. -/
def unsent (outbox : Outbox Handler) : List Bytes :=
  outbox.flight.elim [] Flight.rest ++ outbox.mailbox.queue

theorem unsent_of_landed {outbox : Outbox Handler} (landed : outbox.flight = none) :
    outbox.unsent = outbox.mailbox.queue := by
  unfold unsent
  rw [landed]
  rfl

theorem unsent_of_aloft {outbox : Outbox Handler} {flight : Flight}
    (aloft : outbox.flight = some flight) :
    outbox.unsent = flight.rest ++ outbox.mailbox.queue := by
  unfold unsent
  rw [aloft]
  rfl

/-- The messages of the send that the worker waits for. -/
def carried (outbox : Outbox Handler) : List Bytes := outbox.flight.elim [] outbox.payload

/-- The package size leaves room for the length of an empty message if the outbox has batches and
is given one. -/
def Spacious (outbox : Outbox Handler) (messages : List Bytes) : Prop :=
  outbox.batch.isSome → [] ∈ messages →
    outbox.packageSize + Frame.lengthLength < Bytes.wordValues

theorem Spacious.mono {outbox : Outbox Handler} {more messages : List Bytes}
    (spacious : outbox.Spacious more) (among : messages ⊆ more) : outbox.Spacious messages :=
  fun batched member => spacious batched (among member)

theorem spacious_nil (outbox : Outbox Handler) : outbox.Spacious [] := by
  intro _ member
  cases member

/-- The outbox's batch knows its size and has a bound that a frame can reach. -/
def Sized (outbox : Outbox Handler) : Prop :=
  ∀ batch ∈ outbox.batch, batch.Measured ∧ batch.maxSize ≤ Bytes.maxWord

/-- Nothing waits to be sent together. -/
def Emptied (outbox : Outbox Handler) : Prop := ∀ batch ∈ outbox.batch, batch.messages = []

/-- Outboxes whose batches have the same bound send the same messages. -/
theorem admits_of_bounds {left right : Outbox Handler}
    (bounds : left.batch.map Batch.maxSize = right.batch.map Batch.maxSize) :
    left.admits = right.admits := by
  funext message
  rw [admits, admits]
  cases leftBatch : left.batch with
  | none =>
      rw [leftBatch, Option.map_none, eq_comm, Option.map_eq_none_iff] at bounds
      rw [bounds]
  | some batch =>
      rw [leftBatch, Option.map_some, eq_comm, Option.map_eq_some_iff] at bounds
      obtain ⟨other, rightBatch, same⟩ := bounds
      rw [rightBatch, Option.all_some, Option.all_some, Batch.admits_congr same]

/-- Outboxes that make the same frames of the same messages. -/
structure Alike (left right : Outbox Handler) : Prop where
  packageSize : left.packageSize = right.packageSize
  bounds : left.batch.map Batch.maxSize = right.batch.map Batch.maxSize

namespace Alike

theorem trans {left middle right : Outbox Handler} (first : left.Alike middle)
    (second : middle.Alike right) : left.Alike right :=
  ⟨first.packageSize.trans second.packageSize, first.bounds.trans second.bounds⟩

theorem batched {left right : Outbox Handler} (alike : left.Alike right) :
    left.batch.isSome = right.batch.isSome := by
  simpa using congrArg Option.isSome alike.bounds

theorem spacious {left right : Outbox Handler} (alike : left.Alike right) {messages : List Bytes}
    (spacious : right.Spacious messages) : left.Spacious messages := by
  intro some member
  rw [alike.packageSize]
  exact spacious (alike.batched ▸ some) member

end Alike

/-- What becomes of messages that the worker works on. Either all of them are refused, or the worker
waits for a send of those that were not refused. -/
inductive Passes (outbox : Outbox Handler) (messages : List Bytes) :
    Progress Handler Result → Prop where
  | finishes (refused : ∀ message ∈ messages, outbox.admits message = false) :
      Passes outbox messages
        { outbox, effects := outbox.refusals outbox.admits messages, complete := true }
  | departs {gone : List Bytes} {batch : Option Batch} {flight : Flight} {delivery : Delivery}
      (split : messages = gone ++ flight.rest)
      (sized : { outbox with batch, flight := some flight }.Sized)
      (bounds : batch.map Batch.maxSize = outbox.batch.map Batch.maxSize)
      (content : { outbox with batch, flight := some flight }.carried = gone.filter outbox.admits)
      (carries : Carries batch.isSome delivery (gone.filter outbox.admits)) :
      Passes outbox messages
        { outbox := { outbox with batch, flight := some flight }
          effects := outbox.refusals outbox.admits gone ++ [.order .worker (.send delivery)]
          complete := false }

theorem sendEach_passes {outbox : Outbox Handler} (attached : outbox.attached = true)
    (alone : outbox.batch = none) (messages : List Bytes) :
    Passes outbox messages (outbox.sendEach messages : Progress Handler Result) := by
  have admitted (message : Bytes) : outbox.admits message = true := by rw [admits, alone]; rfl
  cases messages with
  | nil => exact .finishes (by simp)
  | cons message rest =>
      have kept : [message].filter outbox.admits = [message] := by simp [admitted]
      have carries : Carries false (.whole message) ([message].filter outbox.admits) := by
        rw [kept]
        exact .alone message
      have departs : Passes outbox (message :: rest)
          ({ outbox := { outbox with batch := none, flight := some (.single message rest) }
             effects := outbox.refusals outbox.admits [message] ++
               [.order .worker (.send (.whole message))]
             complete := false } : Progress Handler Result) :=
        .departs rfl (by simp [Sized]) (by rw [alone]) kept.symm carries
      simpa [sendEach, attached, refusals, admitted, ← alone] using departs

theorem sendBatched_passes {outbox : Outbox Handler} {batch : Batch}
    (attached : outbox.attached = true) (batched : outbox.batch = some batch)
    (sized : outbox.Sized) (emptied : outbox.Emptied) {messages : List Bytes}
    (spacious : outbox.Spacious messages) :
    Passes outbox messages (outbox.sendBatched batch messages : Progress Handler Result) := by
  obtain ⟨measured, bounded⟩ := sized batch batched
  have empty := emptied batch batched
  have writable : batch.size ≤ Bytes.maxWord := by
    rw [measured, empty]
    decide
  have collects : Collects outbox batch messages
      (outbox.sendBatched batch messages : Progress Handler Result) :=
    sendBatched_collects attached messages ⟨measured, bounded, writable, Or.inl empty⟩
      (spacious (by rw [batched]; rfl))
  have admits : outbox.admits = batch.admits := by
    funext message
    rw [admits, batched, Option.all_some]
  generalize outbox.sendBatched batch messages = progress at collects ⊢
  obtain ⟨reached, effects, complete⟩ := progress
  cases complete with
  | true =>
      obtain ⟨_, refused, rfl, rfl⟩ := collects.all_refused rfl
      rw [← admits] at refused ⊢
      rw [← batched]
      exact .finishes refused
  | false =>
      obtain ⟨gone, flight, grown, delivery, split, together, grownMeasured, bound, content,
        carries, rfl, rfl⟩ := collects.departed rfl
      rw [empty, List.nil_append, ← admits] at content
      rw [content] at carries
      have grownSized : { outbox with batch := some grown, flight := some flight }.Sized := by
        rintro kept ⟨⟩
        exact ⟨grownMeasured, bound ▸ bounded⟩
      have carried : { outbox with batch := some grown, flight := some flight }.carried =
          gone.filter outbox.admits := by
        rw [← content]
        cases flight with
        | single message rest => exact absurd rfl (together message rest)
        | crowded | full | last => rfl
      rw [← admits]
      exact .departs split grownSized (by rw [batched, Option.map_some, Option.map_some, bound])
        carried carries

theorem workOn_passes {outbox : Outbox Handler} (attached : outbox.attached = true)
    (sized : outbox.Sized) (emptied : outbox.Emptied) {messages : List Bytes}
    (spacious : outbox.Spacious messages) :
    Passes outbox messages (outbox.workOn messages : Progress Handler Result) := by
  unfold workOn
  split
  next alone => exact sendEach_passes attached alone messages
  next batch batched => exact sendBatched_passes attached batched sized emptied spacious

/-- Between two turns the outbox has its transport, and its worker goes on: it waits for a send, for
messages, or has ended with none left. -/
structure Steady (outbox : Outbox Handler) : Prop where
  attached : outbox.attached = true
  room : outbox.mailbox.hasRoom = true
  sized : outbox.Sized
  flies : outbox.flight.isSome → outbox.mailbox.worker = .busy
  rests : outbox.flight = none →
    outbox.Emptied ∧
      (outbox.mailbox.worker = .waiting ∨
        outbox.mailbox.worker = .ended ∧ outbox.mailbox.closed = true ∧ outbox.mailbox.queue = [])

/-- How a turn of the worker ends: nothing is queued any more, or the worker waits for the send that
it just ordered. -/
inductive Stops (outbox : Outbox Handler) : List (Effect Role (Order Handler) Result) → Prop where
  | rests (landed : outbox.flight = none) (empty : outbox.mailbox.queue = []) :
      Stops outbox outbox.mailbox.wakeJoiner
  | flies {delivery : Delivery} (aloft : outbox.flight.isSome)
      (carries : Carries outbox.batch.isSome delivery outbox.carried) :
      Stops outbox [.order .worker (.send delivery)]

/-- A turn of the worker that has messages at hand and then takes queued ones. The messages that are
gone afterwards were refused or are on their way. -/
structure Advances (outbox : Outbox Handler) (ahead gone : List Bytes)
    (last : List (Effect Role (Order Handler) Result))
    (turn : Turn (Outbox Handler) Role (Order Handler) Result) : Prop where
  split : ahead ++ outbox.mailbox.queue = gone ++ turn.1.unsent
  content : turn.1.carried = gone.filter outbox.admits
  effects : turn.2 = outbox.refusals outbox.admits gone ++ last
  stops : Stops turn.1 last
  steady : turn.1.Steady
  bounds : turn.1.batch.map Batch.maxSize = outbox.batch.map Batch.maxSize
  frame : turn.1 =
    { outbox with mailbox := turn.1.mailbox, batch := turn.1.batch, flight := turn.1.flight }
  mailbox : turn.1.mailbox =
    { outbox.mailbox with queue := turn.1.mailbox.queue, worker := turn.1.mailbox.worker }

theorem Advances.alike {outbox : Outbox Handler} {ahead gone : List Bytes}
    {last : List (Effect Role (Order Handler) Result)}
    {turn : Turn (Outbox Handler) Role (Order Handler) Result}
    (advances : Advances outbox ahead gone last turn) : turn.1.Alike outbox := by
  refine ⟨?_, advances.bounds⟩
  rw [advances.frame]

/-- A turn that ends with a send leaves fewer messages to come. -/
theorem Advances.shortens {outbox : Outbox Handler} {ahead gone : List Bytes}
    {last : List (Effect Role (Order Handler) Result)}
    {turn : Turn (Outbox Handler) Role (Order Handler) Result}
    (advances : Advances outbox ahead gone last turn) :
    turn.1.flight = none ∧ turn.1.mailbox.queue = [] ∨
      turn.1.flight.isSome ∧ turn.1.unsent.length < (ahead ++ outbox.mailbox.queue).length := by
  cases advances.stops with
  | rests landed empty => exact Or.inl ⟨landed, empty⟩
  | flies aloft carries =>
      refine Or.inr ⟨aloft, ?_⟩
      have taken : gone ≠ [] := by
        rintro rfl
        exact carries.nonempty advances.content
      have positive := List.length_pos_iff.mpr taken
      rw [advances.split, List.length_append]
      omega

/-- Goes on after a pass that is over. -/
def Progress.andThen (progress : Progress Handler Result)
    (next : Outbox Handler → Turn (Outbox Handler) Role (Order Handler) Result) :
    Turn (Outbox Handler) Role (Order Handler) Result :=
  if progress.complete then
    let turn := next { progress.outbox with mailbox := progress.outbox.mailbox.endPass }
    (turn.1, progress.effects ++ turn.2)
  else (progress.outbox, progress.effects)

theorem Progress.turn_eq (progress : Progress Handler Result) :
    progress.turn = progress.andThen work := rfl

/-- The outbox once its worker has begun a pass. -/
def begun (outbox : Outbox Handler) : Outbox Handler :=
  { outbox with
    mailbox :=
      { outbox.mailbox with
        queue := outbox.mailbox.queue.drop outbox.mailbox.limit
        worker := .busy } }

/-- A worker that finds messages works on a pass. -/
theorem beginPasses_of_queued {outbox : Outbox Handler} (passes : Nat)
    (waits : outbox.mailbox.worker = .waiting) (room : outbox.mailbox.hasRoom = true)
    (queued : outbox.mailbox.queue ≠ []) :
    (outbox.beginPasses (passes + 1) : Turn (Outbox Handler) Role (Order Handler) Result) =
      (outbox.begun.workOn (outbox.mailbox.queue.take outbox.mailbox.limit)).andThen
        (beginPasses passes) := by
  rw [beginPasses, Mailbox.takePass_of_queued waits room queued]
  rfl

/-- A worker that has nothing to do stays where it is, or ends in a closed mailbox. -/
theorem beginPasses_of_empty {outbox : Outbox Handler} (passes : Nat) (steady : outbox.Steady)
    (landed : outbox.flight = none) (empty : outbox.mailbox.queue = []) :
    ∃ last : List (Effect Role (Order Handler) Result),
      Advances outbox [] [] last (outbox.beginPasses (passes + 1)) := by
  obtain ⟨emptied, waits | ⟨ended, closed, _⟩⟩ := steady.rests landed
  · rw [beginPasses, Mailbox.takePass_of_empty waits steady.room empty]
    have goesOn : Steady
        { outbox with
          mailbox :=
            { outbox.mailbox with
              worker := if outbox.mailbox.closed then .ended else .waiting } } := by
      refine ⟨steady.attached, steady.room, steady.sized, ?_, ?_⟩
      · intro aloft
        simp [landed] at aloft
      · intro _
        refine ⟨emptied, ?_⟩
        cases closed : outbox.mailbox.closed with
        | true => exact Or.inr ⟨by simp, rfl, empty⟩
        | false => exact Or.inl (by simp)
    exact ⟨_, by simp [unsent, landed, empty], by simp [carried, landed], rfl,
      .rests landed empty, goesOn, rfl, rfl, rfl⟩
  · rw [beginPasses, Mailbox.takePass_of_not_waiting (by rw [ended]; decide)]
    exact ⟨_, by simp [unsent, landed, empty], by simp [carried, landed], rfl,
      .rests landed empty, steady, rfl, rfl, rfl⟩

/-- A pass ends a turn with its send, or leaves nothing behind for the turn after it. -/
theorem Passes.advances {outbox : Outbox Handler} {ahead : List Bytes}
    {progress : Progress Handler Result} (passes : Passes outbox ahead progress)
    (attached : outbox.attached = true) (room : outbox.mailbox.hasRoom = true)
    (busy : outbox.mailbox.worker = .busy)
    {next : Outbox Handler → Turn (Outbox Handler) Role (Order Handler) Result}
    (further : ∃ gone last, Advances { outbox with mailbox := outbox.mailbox.endPass } [] gone last
      (next { outbox with mailbox := outbox.mailbox.endPass })) :
    ∃ gone last, Advances outbox ahead gone last (progress.andThen next) := by
  cases passes with
  | finishes refused =>
      obtain ⟨gone, last, advances⟩ := further
      have none : ahead.filter outbox.admits = [] := by
        rw [List.filter_eq_nil_iff]
        intro message member
        rw [refused message member]
        decide
      refine ⟨ahead ++ gone, last, ?_, ?_, ?_, advances.stops, advances.steady, advances.bounds,
        advances.frame, advances.mailbox⟩
      · rw [List.append_assoc]
        exact congrArg (ahead ++ ·) advances.split
      · rw [List.filter_append, none, List.nil_append]
        exact advances.content
      · rw [refusals_append, List.append_assoc]
        exact congrArg _ advances.effects
  | @departs gone batch flight delivery split sized bounds content carries =>
      refine ⟨gone, _, ?_, content, rfl, .flies rfl (content ▸ carries), ?_, bounds, rfl, rfl⟩
      · rw [split, List.append_assoc]
        rfl
      · exact ⟨attached, room, sized, fun _ => busy, fun grounded => by cases grounded⟩

/-- A worker that waits for messages takes passes until one of them ends with a send or nothing is
queued. -/
theorem beginPasses_advances (passes : Nat) {outbox : Outbox Handler} (steady : outbox.Steady)
    (landed : outbox.flight = none) (enough : outbox.mailbox.queue.length < passes)
    (spacious : outbox.Spacious outbox.mailbox.queue) :
    ∃ (gone : List Bytes) (last : List (Effect Role (Order Handler) Result)),
      Advances outbox [] gone last (outbox.beginPasses passes) := by
  induction passes generalizing outbox with
  | zero => omega
  | succ passes ih =>
      by_cases empty : outbox.mailbox.queue = []
      · exact ⟨[], beginPasses_of_empty passes steady landed empty⟩
      · obtain ⟨emptied, waits | ⟨_, _, none⟩⟩ := steady.rests landed
        · rw [beginPasses_of_queued passes waits steady.room empty]
          have attached : outbox.begun.attached = true := steady.attached
          have worked : Passes outbox.begun (outbox.mailbox.queue.take outbox.mailbox.limit)
              (outbox.begun.workOn (outbox.mailbox.queue.take outbox.mailbox.limit) :
                Progress Handler Result) :=
            workOn_passes attached steady.sized emptied
              (spacious.mono (List.take_subset outbox.mailbox.limit _))
          have shorter :
              (outbox.mailbox.queue.drop outbox.mailbox.limit).length < passes := by
            have positive := outbox.mailbox.limit_pos
            have queued := List.length_pos_iff.mpr empty
            rw [List.length_drop]
            omega
          have waiting : Steady { outbox.begun with mailbox := outbox.begun.mailbox.endPass } :=
            ⟨steady.attached, steady.room, steady.sized, by simp [begun, landed],
              fun _ => ⟨emptied, Or.inl rfl⟩⟩
          have further := ih waiting landed shorter (spacious.mono (List.drop_subset _ _))
          obtain ⟨gone, last, advances⟩ :=
            worked.advances steady.attached steady.room rfl further
          refine ⟨gone, last, ?_, advances.content, advances.effects, advances.stops,
            advances.steady, advances.bounds, advances.frame, advances.mailbox⟩
          rw [← advances.split, begun, List.take_append_drop]
          rfl
        · exact absurd none empty

theorem work_advances {outbox : Outbox Handler} (steady : outbox.Steady)
    (landed : outbox.flight = none) (spacious : outbox.Spacious outbox.mailbox.queue) :
    ∃ (gone : List Bytes) (last : List (Effect Role (Order Handler) Result)),
      Advances outbox [] gone last outbox.work :=
  beginPasses_advances _ steady landed (Nat.lt_succ_self _) spacious

/-- The outbox once its send has ended: the send is counted if it succeeded, and nothing is left of
it. -/
def settled (outbox : Outbox Handler) (answer : Except Failure Nat) : Outbox Handler :=
  { outbox with
    batch := outbox.batch.map Batch.clear
    messageCount :=
      outbox.messageCount + if answer.isOk then UInt64.ofNat outbox.carried.length else 0
    packageCount := outbox.packageCount + if answer.isOk then 1 else 0
    flight := none }

/-- What the handlers are told of a send that has ended. -/
def told (outbox : Outbox Handler) (answer : Except Failure Nat) :
    List (Effect Role (Order Handler) Result) :=
  match answer with
  | .ok _ => []
  | .error failure => outbox.reports failure outbox.carried

theorem landed_eq {outbox : Outbox Handler} {flight : Flight} (aloft : outbox.flight = some flight)
    (answer : Except Failure Nat) :
    (outbox.landed answer : Turn (Outbox Handler) Role (Order Handler) Result) =
      let turn := ((outbox.settled answer).workOn flight.rest).andThen work
      (turn.1, outbox.told answer ++ turn.2) := by
  have payload : outbox.payload flight = outbox.carried := by rw [carried, aloft]; rfl
  have assembled (progress : Progress Handler Result)
      (told : List (Effect Role (Order Handler) Result)) :
      (progress.after told).turn =
        ((progress.andThen work).1, told ++ (progress.andThen work).2) := by
    rw [Progress.turn_eq, Progress.andThen, Progress.andThen]
    cases complete : progress.complete with
    | true => simp [Progress.after, complete]
    | false => simp [Progress.after, complete]
  unfold landed
  rw [aloft]
  cases answer with
  | ok _ =>
      simp only [payload, assembled, told, settled, Except.isOk, Except.toBool]
      rfl
  | error failure =>
      simp only [payload, assembled, told, settled, Except.isOk, Except.toBool]
      simp

theorem settled_emptied (outbox : Outbox Handler) (answer : Except Failure Nat) :
    (outbox.settled answer).Emptied := by
  intro batch kept
  obtain ⟨before, _, rfl⟩ := Option.map_eq_some_iff.mp kept
  rfl

theorem settled_sized {outbox : Outbox Handler} (sized : outbox.Sized)
    (answer : Except Failure Nat) : (outbox.settled answer).Sized := by
  intro batch kept
  obtain ⟨before, held, rfl⟩ := Option.map_eq_some_iff.mp kept
  exact ⟨rfl, (sized before held).2⟩

theorem settled_alike (outbox : Outbox Handler) (answer : Except Failure Nat) :
    (outbox.settled answer).Alike outbox := by
  refine ⟨rfl, ?_⟩
  rw [settled, Option.map_map]
  rfl

/-- The worker goes on with the rest of the pass once its send has ended. -/
theorem landed_advances {outbox : Outbox Handler} {flight : Flight} (steady : outbox.Steady)
    (aloft : outbox.flight = some flight) (spacious : outbox.Spacious outbox.unsent)
    (answer : Except Failure Nat) :
    ∃ (gone : List Bytes) (last : List (Effect Role (Order Handler) Result))
        (turn : Turn (Outbox Handler) Role (Order Handler) Result),
      outbox.landed answer = (turn.1, outbox.told answer ++ turn.2) ∧
        Advances (outbox.settled answer) flight.rest gone last turn := by
  have roomy := (outbox.settled_alike answer).spacious spacious
  rw [unsent_of_aloft aloft] at roomy
  have sized := settled_sized steady.sized answer
  have emptied := settled_emptied outbox answer
  have attached : (outbox.settled answer).attached = true := steady.attached
  have passes : Passes (outbox.settled answer) flight.rest
      ((outbox.settled answer).workOn flight.rest : Progress Handler Result) :=
    workOn_passes attached sized emptied (roomy.mono (List.subset_append_left _ _))
  have idle : Steady { outbox.settled answer with mailbox := outbox.mailbox.endPass } :=
    ⟨steady.attached, steady.room, sized, fun flies => (by cases flies),
      fun _ => ⟨emptied, Or.inl rfl⟩⟩
  obtain ⟨gone, last, advances⟩ := passes.advances steady.attached steady.room
    (steady.flies (by rw [aloft]; rfl))
    (work_advances idle rfl (roomy.mono (List.subset_append_right _ _)))
  exact ⟨gone, last, _, landed_eq aloft answer, advances⟩

end Outbox

end ReliableTransport
