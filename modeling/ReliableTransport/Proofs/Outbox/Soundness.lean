import ReliableTransport.Proofs.Outbox.Journal
/-!
This module says what holds of an outbox in every run, with its transport or without it, and also
when its worker breaks down: the worker waits for the send that it began last, waits for messages
with nothing collected, or is over.
-/

namespace ReliableTransport

namespace Outbox

open Mailbox (Role)

variable {Handler Result : Type} {outbox : Outbox Handler}

/-- Where the work on messages can stop. The messages ran out, a send began, or the worker broke
down over a batch that no frame can hold. -/
inductive Halts (outbox : Outbox Handler) : Progress Handler Result → Prop where
  | finishes {batch : Option Batch} {effects : List (Effect Role (Order Handler) Result)}
      (sized : { outbox with batch }.Sized) (emptied : { outbox with batch }.Emptied)
      (bounds : batch.map Batch.maxSize = outbox.batch.map Batch.maxSize) (mute : Mute effects) :
      Halts outbox { outbox := { outbox with batch }, effects, complete := true }
  | departs {batch : Option Batch} {flight : Flight} {delivery : Delivery}
      {effects : List (Effect Role (Order Handler) Result)} (sized : { outbox with batch }.Sized)
      (bounds : batch.map Batch.maxSize = outbox.batch.map Batch.maxSize) (mute : Mute effects) :
      Halts outbox
        { outbox := { outbox with batch, flight := some flight }
          effects := effects ++ [.order .worker (.send delivery)]
          complete := false }
  | breaks {batch : Option Batch} {effects : List (Effect Role (Order Handler) Result)}
      (sized : { outbox with batch }.Sized)
      (bounds : batch.map Batch.maxSize = outbox.batch.map Batch.maxSize) (mute : Mute effects) :
      Halts outbox
        { outbox := { outbox with mailbox := outbox.mailbox.breakDown, batch, flight := none }
          effects
          complete := false }

theorem Halts.after {progress : Progress Handler Result} (halts : Halts outbox progress)
    {told : List (Effect Role (Order Handler) Result)} (quiet : Mute told) :
    Halts outbox (progress.after told) := by
  cases halts with
  | finishes sized emptied bounds mute => exact .finishes sized emptied bounds (quiet.append mute)
  | departs sized bounds mute =>
      rw [Progress.after]
      dsimp only
      rw [← List.append_assoc]
      exact .departs sized bounds (quiet.append mute)
  | breaks sized bounds mute => exact .breaks sized bounds (quiet.append mute)

theorem sized_some {batch : Batch} (measured : batch.Measured)
    (bounded : batch.maxSize ≤ Bytes.maxWord) :
    { outbox with batch := some batch }.Sized := by
  rintro kept ⟨⟩
  exact ⟨measured, bounded⟩

theorem emptied_some {batch : Batch} (empty : batch.messages = []) :
    { outbox with batch := some batch }.Emptied := by
  rintro kept ⟨⟩
  exact empty

/-- A batch goes, or the worker breaks down over it. -/
theorem flush_halts {batch : Batch} (sized : { outbox with batch := some batch }.Sized)
    (bounds : (some batch).map Batch.maxSize = outbox.batch.map Batch.maxSize) (flight : Flight) :
    Halts outbox (outbox.flush batch flight : Progress Handler Result) := by
  rw [flush]
  cases written : batch.toParts with
  | error defect => exact .breaks sized bounds (mute_of_orders (Mailbox.orders_wakeJoiner _))
  | ok parts =>
      have departs : Halts outbox
          ({ outbox := { outbox with batch := some batch, flight := some flight }
             effects := [] ++ [.order .worker (.send (.parts parts))]
             complete := false } : Progress Handler Result) := .departs sized bounds begun_nil
      exact departs

/-- The batch that a message is put into. A batch that has no room beside its own messages was sent
or dropped before. -/
def roomFor (batch : Batch) (message : Bytes) : Batch :=
  if isCrowded batch message then batch.clear else batch

@[simp] theorem maxSize_roomFor (batch : Batch) (message : Bytes) :
    (roomFor batch message).maxSize = batch.maxSize := by
  unfold roomFor
  split <;> rfl

theorem measured_roomFor {batch : Batch} (measured : batch.Measured) (message : Bytes) :
    (roomFor batch message).Measured := by
  unfold roomFor
  split
  · rfl
  · exact measured

/-- The batch takes what an empty one takes. -/
theorem fits_roomFor {batch : Batch} (measured : batch.Measured) (message : Bytes) :
    (roomFor batch message).fits message = batch.admits message := by
  unfold roomFor
  split
  · rfl
  · next roomy => exact fits_iff_admits measured (by simpa using roomy)

section Room

variable {batch grown : Batch} {message : Bytes}

theorem sendBatched_refuses (stays : (isCrowded batch message && outbox.attached) = false)
    (refused : (roomFor batch message).add? message = none) (rest : List Bytes) :
    (outbox.sendBatched batch (message :: rest) : Progress Handler Result) =
      (outbox.sendBatched (roomFor batch message) rest).after
        (outbox.reports (.invalidOperation .oversizeMessage) [message]) := by
  simp only [roomFor] at refused ⊢
  simp [sendBatched, stays, refused]

theorem sendBatched_takes (stays : (isCrowded batch message && outbox.attached) = false)
    (taken : (roomFor batch message).add? message = some grown) (rest : List Bytes) :
    (outbox.sendBatched batch (message :: rest) : Progress Handler Result) =
      if grown.size < outbox.packageSize then outbox.sendBatched grown rest
      else if outbox.attached then outbox.flush grown (.full rest)
      else outbox.sendBatched grown.clear rest := by
  simp only [roomFor] at taken
  simp [sendBatched, stays, taken]

end Room

theorem sendBatched_halts (messages : List Bytes) {batch : Batch} (measured : batch.Measured)
    (bounded : batch.maxSize ≤ Bytes.maxWord)
    (bounds : (some batch).map Batch.maxSize = outbox.batch.map Batch.maxSize) :
    Halts outbox (outbox.sendBatched batch messages : Progress Handler Result) := by
  induction messages generalizing batch with
  | nil =>
      rw [sendBatched]
      split
      · next empty =>
        have none : batch.messages = [] := by simpa [Batch.isEmpty] using empty
        exact .finishes (sized_some measured bounded) (emptied_some none) bounds begun_nil
      · split
        · exact flush_halts (sized_some measured bounded) bounds _
        · exact .finishes (sized_some rfl bounded) (emptied_some rfl) bounds begun_nil
  | cons message rest ih =>
      cases goes : isCrowded batch message && outbox.attached with
      | true =>
          rw [sendBatched]
          simp only [goes, if_true]
          exact flush_halts (sized_some measured bounded) bounds _
      | false =>
          have roomy_measured := measured_roomFor measured message
          have roomy_size := maxSize_roomFor batch message
          cases added : (roomFor batch message).add? message with
          | none =>
              rw [sendBatched_refuses goes added]
              have further := ih roomy_measured (roomy_size ▸ bounded)
                ((congrArg some roomy_size).trans bounds)
              exact further.after (begun_reports · · outbox _ _)
          | some grown =>
              rw [sendBatched_takes goes added]
              have grown_measured := Batch.measured_add roomy_measured added
              have grown_size : grown.maxSize = batch.maxSize := by
                rw [((Batch.add?_eq_some_iff _ grown message).mp added).2]
                exact roomy_size
              have within : grown.maxSize ≤ Bytes.maxWord := grown_size ▸ bounded
              have same : (some grown).map Batch.maxSize = outbox.batch.map Batch.maxSize :=
                (congrArg some grown_size).trans bounds
              split
              · exact ih grown_measured within same
              · split
                · exact flush_halts (sized_some grown_measured within) same _
                · exact ih rfl within same

theorem sendEach_halts (sized : outbox.Sized) (emptied : outbox.Emptied) (messages : List Bytes) :
    Halts outbox (outbox.sendEach messages : Progress Handler Result) := by
  induction messages with
  | nil => exact .finishes sized emptied rfl begun_nil
  | cons message rest ih =>
      rw [sendEach]
      split
      · have departs : Halts outbox
            ({ outbox := { outbox with flight := some (.single message rest) }
               effects := [] ++ [.order .worker (.send (.whole message))]
               complete := false } : Progress Handler Result) := .departs sized rfl begun_nil
        exact departs
      · exact ih

theorem workOn_halts (sized : outbox.Sized) (emptied : outbox.Emptied) (messages : List Bytes) :
    Halts outbox (outbox.workOn messages : Progress Handler Result) := by
  rw [workOn]
  split
  · exact sendEach_halts sized emptied messages
  · next batch batched =>
    obtain ⟨measured, bounded⟩ := sized batch batched
    exact sendBatched_halts messages measured bounded (by rw [batched])

/-- Between two turns the worker waits for its send, waits for messages with nothing collected, or
is over. Only a worker that broke down may leave something behind. -/
structure Sound (outbox : Outbox Handler) : Prop where
  sized : outbox.Sized
  flies : outbox.flight.isSome →
    outbox.mailbox.worker = .busy ∧ outbox.mailbox.hasRoom = true
  rests : outbox.flight = none → outbox.mailbox.worker = .broken ∨ outbox.Emptied ∧
    (outbox.mailbox.worker = .waiting ∨
      outbox.mailbox.worker = .ended ∧ outbox.mailbox.queue = [])

/-- A worker that is over waits for no send. -/
theorem Sound.landed_of_over (sound : outbox.Sound) (finished : outbox.mailbox.isOver = true) :
    outbox.flight = none := by
  cases aloft : outbox.flight with
  | none => rfl
  | some flight =>
      have busy := (sound.flies (by simp [aloft])).1
      simp [Mailbox.isOver, busy] at finished

/-- A turn of the worker begins one send at most, and it waits for that send then. -/
structure Turned (outbox : Outbox Handler)
    (turn : Turn (Outbox Handler) Role (Order Handler) Result) : Prop where
  sound : turn.1.Sound
  bounds : turn.1.batch.map Batch.maxSize = outbox.batch.map Batch.maxSize
  begins : turn.1.flight = none ∧ Mute turn.2 ∨
    turn.1.flight.isSome ∧ ∃ front delivery, Mute front ∧
      turn.2 = front ++ [.order .worker (.send delivery)]

/-- A worker that works on messages and goes on when they ran out. -/
theorem Halts.turned {progress : Progress Handler Result} (halts : Halts outbox progress)
    (busy : outbox.mailbox.worker = .busy) (room : outbox.mailbox.hasRoom = true)
    (landed : outbox.flight = none)
    {next : Outbox Handler → Turn (Outbox Handler) Role (Order Handler) Result}
    (further : ∀ outbox : Outbox Handler, outbox.Sized → outbox.Emptied →
      outbox.mailbox.worker = .waiting → outbox.flight = none → Turned outbox (next outbox)) :
    Turned outbox (progress.andThen next) := by
  cases halts with
  | @finishes batch effects sized emptied bounds mute =>
      have turned := further { outbox with mailbox := outbox.mailbox.endPass, batch } sized emptied
        rfl landed
      refine ⟨turned.sound, turned.bounds.trans bounds, ?_⟩
      rcases turned.begins with ⟨rests, quiet⟩ | ⟨aloft, front, delivery, quiet, same⟩
      · exact .inl ⟨rests, mute.append quiet⟩
      · refine .inr ⟨aloft, effects ++ front, delivery, mute.append quiet, ?_⟩
        rw [List.append_assoc]
        exact congrArg (effects ++ ·) same
  | departs sized bounds mute =>
      exact ⟨⟨sized, fun _ => ⟨busy, room⟩, nofun⟩, bounds, .inr ⟨rfl, _, _, mute, rfl⟩⟩
  | breaks sized bounds mute =>
      exact ⟨⟨sized, nofun, fun _ => .inl rfl⟩, bounds, .inl ⟨rfl, mute⟩⟩

/-- A worker that waits for messages. -/
theorem beginPasses_turned (passes : Nat) (sized : outbox.Sized) (emptied : outbox.Emptied)
    (waits : outbox.mailbox.worker = .waiting) (landed : outbox.flight = none) :
    Turned outbox
      (outbox.beginPasses passes : Turn (Outbox Handler) Role (Order Handler) Result) := by
  have grounded : ¬outbox.flight.isSome = true := by simp [landed]
  induction passes generalizing outbox with
  | zero =>
      exact ⟨⟨sized, fun aloft => absurd aloft grounded, fun _ => .inr ⟨emptied, .inl waits⟩⟩, rfl,
        .inl ⟨landed, begun_nil⟩⟩
  | succ passes ih =>
      have quiet (mailbox : Mailbox Bytes) :
          Mute (mailbox.wakeJoiner : List (Effect Role (Order Handler) Result)) :=
        mute_of_orders (Mailbox.orders_wakeJoiner mailbox)
      cases room : outbox.mailbox.hasRoom with
      | false =>
          rw [beginPasses, Mailbox.takePass_of_roomless waits room]
          exact ⟨⟨sized, fun aloft => absurd aloft grounded, fun _ => .inl rfl⟩, rfl,
            .inl ⟨landed, quiet outbox.mailbox.breakDown⟩⟩
      | true =>
          by_cases empty : outbox.mailbox.queue = []
          · rw [beginPasses, Mailbox.takePass_of_empty waits room empty]
            refine ⟨⟨sized, fun aloft => absurd aloft grounded, fun _ => .inr ⟨emptied, ?_⟩⟩, rfl,
              .inl ⟨landed, quiet _⟩⟩
            cases outbox.mailbox.closed with
            | true => exact .inr ⟨rfl, empty⟩
            | false => exact .inl rfl
          · rw [beginPasses_of_queued passes waits room empty]
            have begunSized : outbox.begun.Sized := sized
            have halts : Halts outbox.begun (outbox.begun.workOn
                (outbox.mailbox.queue.take outbox.mailbox.limit) : Progress Handler Result) :=
              workOn_halts begunSized emptied _
            have turned := halts.turned rfl room landed fun next sized emptied waits landed =>
              ih sized emptied waits landed (by simp [landed])
            exact ⟨turned.sound, turned.bounds, turned.begins⟩

/-- A turn of a worker that waits for no send. -/
theorem Sound.work (sound : outbox.Sound) (landed : outbox.flight = none) :
    Turned outbox (outbox.work : Turn (Outbox Handler) Role (Order Handler) Result) := by
  have finished (busy : outbox.mailbox.worker ≠ .waiting) :
      Turned outbox (outbox.work : Turn (Outbox Handler) Role (Order Handler) Result) := by
    rw [Outbox.work, beginPasses, Mailbox.takePass_of_not_waiting busy]
    exact ⟨sound, rfl, .inl ⟨landed, mute_of_orders (Mailbox.orders_wakeJoiner _)⟩⟩
  rcases sound.rests landed with broken | ⟨emptied, waits | ⟨ended, _⟩⟩
  · exact finished (by simp [broken])
  · exact beginPasses_turned _ sound.sized emptied waits landed
  · exact finished (by simp [ended])

/-- A turn of a worker whose send has ended. -/
theorem Sound.land (sound : outbox.Sound) {flight : Flight} (aloft : outbox.flight = some flight)
    (answer : Except Failure Nat) :
    ∃ turn : Turn (Outbox Handler) Role (Order Handler) Result,
      outbox.landed answer = (turn.1, outbox.told answer ++ turn.2) ∧
        Turned (outbox.settled answer) turn := by
  obtain ⟨busy, room⟩ := sound.flies (by simp [aloft])
  have sized := settled_sized sound.sized answer
  have emptied := settled_emptied outbox answer
  have halts : Halts (outbox.settled answer)
      ((outbox.settled answer).workOn flight.rest : Progress Handler Result) :=
    workOn_halts sized emptied _
  refine ⟨_, landed_eq aloft answer, halts.turned busy room rfl ?_⟩
  exact fun next sized emptied waits landed => beginPasses_turned _ sized emptied waits landed

/-- The mailbox changes, but the worker stays where it is. A closed mailbox stays closed, and one
that takes no item keeps those that it has. -/
structure Stays (before after : Mailbox Bytes) : Prop where
  worker : after.worker = before.worker
  room : after.hasRoom = before.hasRoom
  closed : before.closed = true → after.closed = true
  queue : (before.closed || before.isOver) = true → after.queue = before.queue

theorem Stays.refl (mailbox : Mailbox Bytes) : Stays mailbox mailbox := ⟨rfl, rfl, id, fun _ => rfl⟩

theorem stays_unjoin (mailbox : Mailbox Bytes) (task : Role) :
    Stays mailbox (mailbox.unjoin task) := by
  obtain ⟨joiner, left, _⟩ := mailbox.unjoin_eq task
  rw [left]
  exact ⟨rfl, rfl, id, fun _ => rfl⟩

theorem Sound.shift (sound : outbox.Sound) {mailbox : Mailbox Bytes}
    (stays : Stays outbox.mailbox mailbox) (attached : Bool) (handlers : Registry Handler)
    (messageCount packageCount : UInt64) :
    Sound { outbox with mailbox, attached, handlers, messageCount, packageCount } := by
  refine ⟨sound.sized, fun aloft => ?_, fun landed => ?_⟩
  · exact ⟨stays.worker.trans (sound.flies aloft).1, stays.room.trans (sound.flies aloft).2⟩
  · rcases sound.rests landed with broken | ⟨emptied, waits | ⟨ended, empty⟩⟩
    · exact .inl (stays.worker.trans broken)
    · exact .inr ⟨emptied, .inl (stays.worker.trans waits)⟩
    · have kept := stays.queue (by simp [Mailbox.isOver, ended])
      exact .inr ⟨emptied, .inr ⟨stays.worker.trans ended, kept.trans empty⟩⟩

namespace Dispatch

variable {dispatch : Dispatch Handler}

/-- The outbox is sound, and the send that its worker waits for is the one that began last. -/
structure Coherent (dispatch : Dispatch Handler) : Prop where
  sound : dispatch.outbox.Sound
  latest : dispatch.outbox.flight.isSome → ∃ send, dispatch.sends.getLast? = some send ∧
    send.messages = dispatch.outbox.carried

/-- What an event does to the outbox. The worker has a turn, its send ends, the counts start again,
or neither the worker nor the counts are touched. -/
inductive Happens (dispatch : Dispatch Handler) :
    Event Handler → Turn (Outbox Handler) Role (Order Handler) Reply → Prop where
  | idles {event : Event Handler} {mailbox : Mailbox Bytes} {attached : Bool}
      {handlers : Registry Handler} {effects : List (Effect Role (Order Handler) Reply)}
      (goesOn : event.restarts = false) (stays : Stays dispatch.outbox.mailbox mailbox)
      (detached : dispatch.outbox.attached = false → attached = false)
      (quiet : Effect.orders effects = []) :
      Happens dispatch event ({ dispatch.outbox with mailbox, attached, handlers }, effects)
  | restarts {caller : Nat} :
      Happens dispatch (.call caller .reset)
        ({ dispatch.outbox with messageCount := 0, packageCount := 0 },
          [.done (.caller caller) .done])
  | works {ending : Except Failure Nat} (landed : dispatch.outbox.flight = none) :
      Happens dispatch (.resume .worker ending) dispatch.outbox.work
  | lands {ending : Except Failure Nat} {flight : Flight} {send : Send}
      (aloft : dispatch.outbox.flight = some flight) (latest : dispatch.sends.getLast? = some send)
      (carried : send.messages = dispatch.outbox.carried) :
      Happens dispatch (.land ending) (dispatch.outbox.landed send.ending)

/-- An event that does nothing. -/
theorem happens_nothing {event : Event Handler} (goesOn : event.restarts = false) :
    dispatch.Happens event (dispatch.outbox, []) :=
  .idles goesOn (.refl _) id rfl

theorem happens_call (dispatch : Dispatch Handler) (caller : Nat) (made : Call Handler) :
    dispatch.Happens (.call caller made) (dispatch.turn (.call caller made)) := by
  have wakes (mailbox : Mailbox Bytes) :
      Effect.orders (mailbox.wakeWorker ++ [.done (.caller caller) .done] :
        List (Effect Role (Order Handler) Reply)) = [] := by
    rw [Effect.orders_append, Mailbox.orders_wakeWorker]
    rfl
  show dispatch.Happens _ (dispatch.outbox.start (.caller caller) made)
  cases runs : made.runs with
  | true =>
      obtain ⟨handlers, effects, started, quiet⟩ :=
        dispatch.outbox.start_of_runs (.caller caller) runs
      rw [started]
      refine .idles ?_ ⟨rfl, rfl, id, fun shut => ?_⟩ id quiet
      · cases made <;> first | rfl | cases runs
      · simp [shut]
  | false =>
      cases made with
      | reset => exact .restarts
      | close =>
          obtain ⟨joiner, joined⟩ := Mailbox.join_eq dispatch.outbox.mailbox (.caller caller)
          rw [start]
          generalize dispatch.outbox.mailbox.join (.caller caller) = answer at joined ⊢
          obtain ⟨mailbox, waits⟩ := answer
          obtain rfl :
            mailbox = { dispatch.outbox.mailbox with closed := true, joinable := false, joiner } :=
            joined
          have stays : Stays dispatch.outbox.mailbox
              { dispatch.outbox.mailbox with closed := true, joinable := false, joiner } :=
            ⟨rfl, rfl, fun _ => rfl, fun _ => rfl⟩
          cases waits with
          | true => exact .idles rfl stays id (Mailbox.orders_wakeWorker _)
          | false => exact .idles rfl stays (fun _ => rfl) (wakes _)
      | dispose =>
          exact .idles rfl ⟨rfl, rfl, fun _ => rfl, fun _ => rfl⟩ (fun _ => rfl) (wakes _)
      | send | sendRange | deliver | subscribe | unsubscribe => cases runs

/-- A caller returns from a close that waited, or it has nothing to do. -/
theorem happens_resume (dispatch : Dispatch Handler) (number : Nat) (ending : Except Failure Nat) :
    dispatch.Happens (.resume (.caller number) ending)
      (dispatch.turn (.resume (.caller number) ending)) := by
  cases returns : dispatch.outbox.mailbox.isOver &&
      dispatch.outbox.mailbox.joiner == some (.caller number) with
  | true =>
      have same : dispatch.turn (.resume (.caller number) ending) =
          ({ dispatch.outbox with
              mailbox := dispatch.outbox.mailbox.unjoin (.caller number)
              attached := false }, [.done (.caller number) .done]) := by
        simp only [turn, component, returns, if_true]
        rfl
      rw [same]
      exact .idles rfl (stays_unjoin _ _) (fun _ => rfl) rfl
  | false =>
      have nothing : dispatch.turn (.resume (.caller number) ending) = (dispatch.outbox, []) := by
        simp only [turn, component, returns, Bool.false_eq_true, if_false]
      rw [nothing]
      exact happens_nothing rfl

theorem Coherent.happens (coherent : dispatch.Coherent) (event : Event Handler) :
    dispatch.Happens event (dispatch.turn event) := by
  cases event with
  | call caller made => exact dispatch.happens_call caller made
  | resume task ending =>
      cases task with
      | worker =>
          cases aloft : dispatch.outbox.flight with
          | none =>
              have works : dispatch.turn (.resume .worker ending) = dispatch.outbox.work := by
                simp [turn, component, aloft]
              rw [works]
              exact .works aloft
          | some flight =>
              have nothing : dispatch.turn (.resume .worker ending) = (dispatch.outbox, []) := by
                simp [turn, component, aloft]
              rw [nothing]
              exact happens_nothing rfl
      | caller number => exact dispatch.happens_resume number ending
  | land ending =>
      cases aloft : dispatch.outbox.flight with
      | none =>
          have nothing : dispatch.turn (.land ending) = (dispatch.outbox, []) := by
            rw [turn]
            split
            · simp [component, landed, aloft]
            · rfl
          rw [nothing]
          exact happens_nothing rfl
      | some flight =>
          obtain ⟨send, latest, carried⟩ := coherent.latest (by simp [aloft])
          have lands : dispatch.turn (.land ending) = dispatch.outbox.landed send.ending := by
            rw [turn, latest]
            rfl
          rw [lands]
          exact .lands aloft latest carried
  | abandon task => exact .idles rfl (stays_unjoin _ task) id rfl

/-- A turn that the worker does not take. -/
theorem Coherent.shift (coherent : dispatch.Coherent) {event : Event Handler}
    {mailbox : Mailbox Bytes} {attached : Bool} {handlers : Registry Handler}
    {messageCount packageCount : UInt64} {effects : List (Effect Role (Order Handler) Reply)}
    (turned : dispatch.turn event =
      ({ dispatch.outbox with mailbox, attached, handlers, messageCount, packageCount }, effects))
    (stays : Stays dispatch.outbox.mailbox mailbox) (quiet : Effect.orders effects = []) :
    (dispatch.step event).Coherent ∧ (dispatch.step event).outbox.batch.map Batch.maxSize =
      dispatch.outbox.batch.map Batch.maxSize := by
  rw [step_eq turned, mute_of_orders quiet, List.append_nil]
  exact ⟨⟨coherent.sound.shift stays attached handlers messageCount packageCount,
    coherent.latest⟩, rfl⟩

/-- A turn of the worker. -/
theorem Coherent.turned {event : Event Handler} {outbox : Outbox Handler}
    {told : List (Effect Role (Order Handler) Reply)}
    {turn : Turn (Outbox Handler) Role (Order Handler) Reply} (turned : Turned outbox turn)
    (bounds : outbox.batch.map Batch.maxSize = dispatch.outbox.batch.map Batch.maxSize)
    (quiet : Mute told) (same : dispatch.turn event = (turn.1, told ++ turn.2)) :
    (dispatch.step event).Coherent ∧ (dispatch.step event).outbox.batch.map Batch.maxSize =
      dispatch.outbox.batch.map Batch.maxSize := by
  rw [step_eq same, begun_append, quiet, List.nil_append]
  refine ⟨⟨turned.sound, fun aloft => ?_⟩, turned.bounds.trans bounds⟩
  rcases turned.begins with ⟨landed, _⟩ | ⟨_, front, delivery, mute, began⟩
  · rw [landed] at aloft
    cases aloft
  · have begun : Send.begun turn.1.carried event.ending turn.2 =
        [{ delivery, messages := turn.1.carried, ending := event.ending }] := by
      rw [began, begun_append, mute]
      rfl
    rw [begun]
    exact ⟨_, List.getLast?_concat, rfl⟩

theorem Coherent.step (coherent : dispatch.Coherent) (event : Event Handler) :
    (dispatch.step event).Coherent ∧ (dispatch.step event).outbox.batch.map Batch.maxSize =
      dispatch.outbox.batch.map Batch.maxSize := by
  have happens := coherent.happens event
  generalize turned : dispatch.turn event = turn at happens
  cases happens with
  | idles _ stays _ quiet => exact coherent.shift turned stays quiet
  | restarts => exact coherent.shift turned (.refl _) rfl
  | works landed => exact Coherent.turned (coherent.sound.work landed) rfl begun_nil turned
  | @lands _ _ send aloft _ _ =>
      obtain ⟨turn, landed, worked⟩ := coherent.sound.land aloft send.ending
      exact Coherent.turned worked (dispatch.outbox.settled_alike send.ending).bounds
        (begun_told · · dispatch.outbox send.ending) (turned.trans landed)

theorem Coherent.run (coherent : dispatch.Coherent) (events : List (Event Handler)) :
    (dispatch.run events).Coherent ∧ (dispatch.run events).outbox.batch.map Batch.maxSize =
      dispatch.outbox.batch.map Batch.maxSize := by
  induction events generalizing dispatch with
  | nil => exact ⟨coherent, rfl⟩
  | cons event rest ih =>
      obtain ⟨stepped, bounds⟩ := coherent.step event
      obtain ⟨reached, further⟩ := ih stepped
      exact ⟨reached, further.trans bounds⟩

end Dispatch

/-- A new outbox has nothing to do. -/
theorem create_idle {settings : OutboxSettings} {maxFrame : Nat}
    (created : create settings maxFrame = .ok (.ok outbox)) :
    outbox.flight = none ∧ outbox.mailbox.worker = .waiting ∧
      outbox.batch = if settings.batched then some (Batch.withMaxSize maxFrame) else none := by
  cases valid : settings.check with
  | error fault => simp [create, valid, bind, Except.bind] at created
  | ok _ =>
      by_cases positive : 0 < settings.messagesPerPass
      · simp only [create, valid, Mailbox.create, dif_pos positive, bind, Except.bind, pure,
          Except.pure, Except.ok.injEq] at created
        rw [← created]
        exact ⟨rfl, rfl, rfl⟩
      · simp [create, valid, Mailbox.create, positive, bind, Except.bind, pure, Except.pure]
          at created

theorem create_coherent {settings : OutboxSettings} {maxFrame : Nat}
    (created : create settings maxFrame = .ok (.ok outbox)) : Dispatch.Coherent { outbox } := by
  obtain ⟨landed, waits, batched⟩ := create_idle created
  have fresh (batch : Batch) (kept : batch ∈ outbox.batch) :
      batch = Batch.withMaxSize maxFrame := by
    rw [batched] at kept
    split at kept
    · exact (Option.some.inj kept).symm
    · cases kept
  have grounded : ¬outbox.flight.isSome = true := by simp [landed]
  refine ⟨⟨?_, fun aloft => absurd aloft grounded, fun _ => .inr ⟨?_, .inl waits⟩⟩,
    fun aloft => absurd aloft grounded⟩
  · intro batch kept
    rw [fresh batch kept]
    exact ⟨rfl, Nat.min_le_right _ _⟩
  · intro batch kept
    rw [fresh batch kept]
    rfl

end Outbox

end ReliableTransport
