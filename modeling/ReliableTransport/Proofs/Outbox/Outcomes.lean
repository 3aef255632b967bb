import ReliableTransport.Proofs.Outbox.Passage
/-!
This module shows that what an outbox sends does not depend on how its sends end. A send that fails
instead of succeeding changes the counts and what handlers are told, and nothing else.
-/

namespace ReliableTransport

namespace Outbox

open Mailbox (Role)

variable {Handler Result : Type}

/-- The outbox with other counts. -/
def counting (outbox : Outbox Handler) (messages packages : UInt64) : Outbox Handler :=
  { outbox with messageCount := messages, packageCount := packages }

/-- The progress with other counts. -/
def Progress.counting (progress : Progress Handler Result) (messages packages : UInt64) :
    Progress Handler Result :=
  { progress with outbox := progress.outbox.counting messages packages }

/-- The turn with other counts. -/
def recounted (messages packages : UInt64)
    (turn : Turn (Outbox Handler) Role (Order Handler) Result) :
    Turn (Outbox Handler) Role (Order Handler) Result :=
  (turn.1.counting messages packages, turn.2)

section Counting

variable (outbox : Outbox Handler) (messages packages : UInt64)

theorem sendEach_counting (items : List Bytes) :
    ((outbox.counting messages packages).sendEach items : Progress Handler Result) =
      (outbox.sendEach items).counting messages packages := by
  have attached : (outbox.counting messages packages).attached = outbox.attached := rfl
  induction items with
  | nil => rfl
  | cons message rest ih =>
      simp only [sendEach, attached, ih]
      split <;> rfl

theorem flush_counting (batch : Batch) (flight : Flight) :
    ((outbox.counting messages packages).flush batch flight : Progress Handler Result) =
      (outbox.flush batch flight).counting messages packages := by
  rw [flush, flush]
  cases batch.toParts <;> rfl

theorem sendBatched_counting (batch : Batch) (items : List Bytes) :
    ((outbox.counting messages packages).sendBatched batch items : Progress Handler Result) =
      (outbox.sendBatched batch items).counting messages packages := by
  have attached : (outbox.counting messages packages).attached = outbox.attached := rfl
  have packageSize : (outbox.counting messages packages).packageSize = outbox.packageSize := rfl
  induction items generalizing batch with
  | nil =>
      simp only [sendBatched, attached, flush_counting]
      split
      · rfl
      · split <;> rfl
  | cons message rest ih =>
      simp only [sendBatched, attached, packageSize, flush_counting, ih]
      split
      · rfl
      · split
        · rfl
        · split
          · rfl
          · split <;> rfl

theorem workOn_counting (items : List Bytes) :
    ((outbox.counting messages packages).workOn items : Progress Handler Result) =
      (outbox.workOn items).counting messages packages := by
  have batch : (outbox.counting messages packages).batch = outbox.batch := rfl
  rw [workOn, workOn, batch]
  cases outbox.batch with
  | none => exact sendEach_counting outbox messages packages items
  | some batch => exact sendBatched_counting outbox messages packages batch items

theorem passed_counting (progress : Progress Handler Result) :
    (progress.counting messages packages).passed = progress.passed.counting messages packages :=
  rfl

/-- The passes after a part of a pass do not depend on the counts if the turns do not. -/
theorem andThen_counting (progress : Progress Handler Result)
    {next : Outbox Handler → Turn (Outbox Handler) Role (Order Handler) Result}
    (same : ∀ outbox : Outbox Handler,
      next (outbox.counting messages packages) = recounted messages packages (next outbox)) :
    (progress.counting messages packages).andThen next =
      recounted messages packages (progress.andThen next) := by
  have complete : (progress.counting messages packages).complete = progress.complete := rfl
  rw [Progress.andThen, Progress.andThen, complete]
  split
  · have further : next (progress.counting messages packages).passed =
        recounted messages packages (next progress.passed) := same progress.passed
    exact congrArg (fun turn => (turn.1, progress.effects ++ turn.2)) further
  · rfl

theorem beginPasses_counting (passes : Nat) :
    ((outbox.counting messages packages).beginPasses passes :
        Turn (Outbox Handler) Role (Order Handler) Result) =
      recounted messages packages (outbox.beginPasses passes) := by
  induction passes generalizing outbox with
  | zero => rfl
  | succ passes ih =>
      have mailbox : (outbox.counting messages packages).mailbox = outbox.mailbox := rfl
      rw [beginPasses, beginPasses, mailbox]
      cases outbox.mailbox.takePass with
      | mk mailbox items =>
          cases items with
          | none => rfl
          | some items =>
              have worked : (({ outbox with mailbox } : Outbox Handler).counting messages
                  packages).workOn items =
                    (({ outbox with mailbox } : Outbox Handler).workOn items :
                      Progress Handler Result).counting messages packages :=
                workOn_counting _ messages packages items
              have further := andThen_counting messages packages
                (({ outbox with mailbox } : Outbox Handler).workOn items :
                  Progress Handler Result) (fun outbox => ih outbox)
              rw [← worked] at further
              exact further

theorem begunPasses_counting (passes : Nat) :
    (outbox.counting messages packages).begunPasses passes = outbox.begunPasses passes := by
  induction passes generalizing outbox with
  | zero => rfl
  | succ passes ih =>
      have mailbox : (outbox.counting messages packages).mailbox = outbox.mailbox := rfl
      rw [begunPasses, begunPasses, mailbox]
      cases outbox.mailbox.takePass with
      | mk mailbox items =>
          cases items with
          | none => rfl
          | some items =>
              have worked : (({ outbox with mailbox } : Outbox Handler).counting messages
                  packages).workOn items =
                    (({ outbox with mailbox } : Outbox Handler).workOn items :
                      Progress Handler Reply).counting messages packages :=
                workOn_counting _ messages packages items
              have same : { outbox.counting messages packages with mailbox } =
                ({ outbox with mailbox } : Outbox Handler).counting messages packages := rfl
              simp only [same, worked, passed_counting, ih]
              rfl

theorem Progress.taken_counting (progress : Progress Handler Reply) :
    (progress.counting messages packages).taken = progress.taken := by
  rw [Progress.taken, Progress.taken]
  exact if_congr Iff.rfl (begunPasses_counting progress.passed messages packages _) rfl

end Counting

/-- The event, with a send that begins or ends with it taken to succeed. -/
def Dispatch.Event.plan : Dispatch.Event Handler → Dispatch.Event Handler
  | .resume task _ => .resume task (.ok 0)
  | .land _ => .land (.ok 0)
  | event => event

/-- What a send hands to the transport, whatever becomes of it. -/
def Send.load (send : Send) : Delivery × List Bytes := (send.delivery, send.messages)

/-- What a turn hands to the transport does not depend on how it ends. -/
theorem loads_begun (messages : List Bytes) (first second : Except Failure Nat)
    (effects : List (Effect Role (Order Handler) Result)) :
    (Send.begun messages first effects).map Send.load =
      (Send.begun messages second effects).map Send.load := by
  rw [Send.begun, Send.begun, List.map_filterMap, List.map_filterMap]
  congr 1
  funext order
  cases order <;> rfl

open Dispatch (Event)

/-- Runs that differ in how sends end: the same was handed to the transport, and only the counts and
what handlers were told differ. -/
structure Twins (left right : Passage Handler) : Prop where
  outbox : ∃ messages packages,
    right.dispatch.outbox = left.dispatch.outbox.counting messages packages
  sends : right.dispatch.sends.map Send.load = left.dispatch.sends.map Send.load
  accepted : right.accepted = left.accepted
  passes : right.passes = left.passes

theorem start_counting (outbox : Outbox Handler) (messages packages : UInt64) (task : Role)
    (made : Call Handler) :
    ∃ sent gone, (outbox.counting messages packages).start task made =
      recounted sent gone (outbox.start task made) := by
  cases made with
  | reset => exact ⟨0, 0, rfl⟩
  | send | deliver | subscribe | unsubscribe | dispose => exact ⟨messages, packages, rfl⟩
  | sendRange data offset length =>
      refine ⟨messages, packages, ?_⟩
      rw [start, start]
      cases Word.range? data offset length <;> rfl
  | close =>
      refine ⟨messages, packages, ?_⟩
      have mailbox : (outbox.counting messages packages).mailbox = outbox.mailbox := rfl
      rw [start, start, mailbox]
      cases outbox.mailbox.join task with
      | mk mailbox waits => cases waits <;> rfl

variable {left right : Passage Handler} {event other : Event Handler}

/-- Turns that differ in the counts and in what is told of a send. -/
theorem Twins.advance (twins : Twins left right) {messages packages : UInt64}
    {told toldOther : List (Effect Role (Order Handler) Reply)}
    {turn : Turn (Outbox Handler) Role (Order Handler) Reply}
    (turned : left.dispatch.turn event = (turn.1, told ++ turn.2))
    (turnedOther : right.dispatch.turn other =
      (turn.1.counting messages packages, toldOther ++ turn.2))
    (mute : Mute told) (muteOther : Mute toldOther)
    (accepts : right.dispatch.accepts other = left.dispatch.accepts event)
    (passes : right.dispatch.passes other = left.dispatch.passes event) :
    Twins (left.step event) (right.step other) := by
  have carried : (turn.1.counting messages packages).carried = turn.1.carried := rfl
  rw [Passage.step, Passage.step, Dispatch.step_eq turned, Dispatch.step_eq turnedOther,
    begun_append, begun_append, mute, muteOther, carried]
  refine ⟨⟨messages, packages, rfl⟩, ?_, ?_, ?_⟩
  · simp only [List.map_append, List.nil_append, twins.sends]
    rw [loads_begun]
  · simp only [twins.accepted, accepts]
  · simp only [twins.passes, passes]

/-- Turns that differ in the counts only. -/
theorem Twins.keep (twins : Twins left right) {messages packages : UInt64}
    (turned : right.dispatch.turn other =
      recounted messages packages (left.dispatch.turn event))
    (accepts : right.dispatch.accepts other = left.dispatch.accepts event)
    (passes : right.dispatch.passes other = left.dispatch.passes event) :
    Twins (left.step event) (right.step other) := by
  have quiet : Mute ([] : List (Effect Role (Order Handler) Reply)) := begun_nil
  have same : left.dispatch.turn event =
      ((left.dispatch.turn event).1, [] ++ (left.dispatch.turn event).2) := rfl
  have sameOther : right.dispatch.turn other =
      ((left.dispatch.turn event).1.counting messages packages,
        [] ++ (left.dispatch.turn event).2) := turned
  exact twins.advance same sameOther quiet quiet accepts passes

/-- A task goes on. -/
theorem resume_counting (outbox : Outbox Handler) (messages packages : UInt64) (task : Role) :
    component.resume 0 task (outbox.counting messages packages) =
      recounted messages packages (component.resume 0 task outbox) := by
  cases task with
  | worker =>
      have flight : (outbox.counting messages packages).flight = outbox.flight := rfl
      simp only [component, flight]
      split
      · rfl
      · exact beginPasses_counting outbox messages packages _
  | caller number =>
      have mailbox : (outbox.counting messages packages).mailbox = outbox.mailbox := rfl
      simp only [component, mailbox]
      split <;> rfl

/-- Nothing happens when a send is said to end and none is under way. -/
theorem land_of_landed {dispatch : Dispatch Handler}
    (landed : dispatch.outbox.flight = none ∨ dispatch.sends.getLast? = none)
    (ending : Except Failure Nat) :
    dispatch.turn (.land ending) = (dispatch.outbox, []) ∧ dispatch.passes (.land ending) = [] := by
  rw [Dispatch.turn, Dispatch.passes]
  rcases landed with landed | nothing
  · rw [landed]
    cases dispatch.sends.getLast? with
    | none => exact ⟨rfl, rfl⟩
    | some send => exact ⟨by simp [component, Outbox.landed, landed], rfl⟩
  · rw [nothing]
    cases dispatch.outbox.flight <;> exact ⟨rfl, rfl⟩

/-- The worker goes on in the same way, however its send has ended. -/
theorem landed_counting {outbox : Outbox Handler} {flight : Flight}
    (aloft : outbox.flight = some flight) (messages packages : UInt64)
    (answer answerOther : Except Failure Nat) :
    ∃ (gone packs : UInt64) (turn : Turn (Outbox Handler) Role (Order Handler) Reply),
      outbox.landed answer = (turn.1, outbox.told answer ++ turn.2) ∧
        (outbox.counting messages packages).landed answerOther =
          (turn.1.counting gone packs,
            (outbox.counting messages packages).told answerOther ++ turn.2) ∧
        (((outbox.counting messages packages).settled answerOther).workOn flight.rest).taken =
          ((outbox.settled answer).workOn flight.rest).taken := by
  let settled := outbox.settled answer
  let settledOther := (outbox.counting messages packages).settled answerOther
  let gone := settledOther.messageCount
  let packs := settledOther.packageCount
  let progress : Progress Handler Reply := settled.workOn flight.rest
  have worked : settledOther.workOn flight.rest = progress.counting gone packs :=
    workOn_counting settled gone packs flight.rest
  have further : (progress.counting gone packs).andThen work =
      recounted gone packs (progress.andThen work) :=
    andThen_counting gone packs progress fun outbox => beginPasses_counting outbox gone packs _
  have aloftOther : (outbox.counting messages packages).flight = some flight := aloft
  refine ⟨gone, packs, progress.andThen work, landed_eq aloft answer, ?_, ?_⟩
  · rw [landed_eq aloftOther answerOther]
    show (((settledOther.workOn flight.rest).andThen work).1, _ ++ _) = _
    rw [worked, further]
    rfl
  · show (settledOther.workOn flight.rest).taken = _
    rw [worked]
    exact progress.taken_counting gone packs

/-- A send ends. -/
theorem Twins.land (twins : Twins left right) {messages packages : UInt64}
    {ending endingOther : Except Failure Nat}
    (same : right.dispatch.outbox = left.dispatch.outbox.counting messages packages)
    (accepts : right.dispatch.accepts (.land endingOther) = left.dispatch.accepts (.land ending)) :
    Twins (left.step (.land ending)) (right.step (.land endingOther)) := by
  have flight : right.dispatch.outbox.flight = left.dispatch.outbox.flight := by
    rw [same]
    rfl
  have latest : right.dispatch.sends.getLast?.map Send.load =
      left.dispatch.sends.getLast?.map Send.load := by
    rw [← List.getLast?_map, ← List.getLast?_map, twins.sends]
  have idle (landed : left.dispatch.outbox.flight = none ∨
      left.dispatch.sends.getLast? = none) :
      Twins (left.step (.land ending)) (right.step (.land endingOther)) := by
    have landedOther : right.dispatch.outbox.flight = none ∨
        right.dispatch.sends.getLast? = none := by
      refine landed.imp flight.trans fun nothing => ?_
      rw [nothing] at latest
      simpa using latest
    obtain ⟨turned, passes⟩ := land_of_landed landed ending
    obtain ⟨turnedOther, passesOther⟩ := land_of_landed landedOther endingOther
    have recounted : right.dispatch.turn (.land endingOther) =
        recounted messages packages (left.dispatch.turn (.land ending)) := by
      rw [turned, turnedOther, same]
      rfl
    exact twins.keep recounted accepts (passesOther.trans passes.symm)
  cases aloft : left.dispatch.outbox.flight with
  | none => exact idle (.inl aloft)
  | some busy =>
      cases sent : left.dispatch.sends.getLast? with
      | none => exact idle (.inr sent)
      | some send =>
          rw [sent, Option.map_some, Option.map_eq_some_iff] at latest
          obtain ⟨sendOther, sentOther, _⟩ := latest
          obtain ⟨gone, packs, turn, turned, turnedOther, taken⟩ :=
            landed_counting aloft messages packages send.ending sendOther.ending
          have first : left.dispatch.turn (.land ending) =
              (turn.1, left.dispatch.outbox.told send.ending ++ turn.2) := by
            rw [Dispatch.turn, sent]
            exact turned
          have second : right.dispatch.turn (.land endingOther) =
              (turn.1.counting gone packs,
                right.dispatch.outbox.told sendOther.ending ++ turn.2) := by
            rw [Dispatch.turn, sentOther, same]
            exact turnedOther
          refine twins.advance first second (begun_told · · _ _) (begun_told · · _ _) accepts ?_
          rw [Dispatch.passes, Dispatch.passes, aloft, flight.trans aloft, sent, sentOther, same]
          exact taken

/-- Events that differ in how sends end do the same but for the counts and what is told. -/
theorem Twins.step (twins : Twins left right) (alike : other.plan = event.plan) :
    Twins (left.step event) (right.step other) := by
  obtain ⟨messages, packages, same⟩ := twins.outbox
  have accepts (among : other.messages = event.messages) :
      right.dispatch.accepts other = left.dispatch.accepts event := by
    rw [Dispatch.accepts, Dispatch.accepts, same, among]
    rfl
  cases event with
  | call caller made =>
      cases other with
      | call number again =>
          obtain ⟨rfl, rfl⟩ := Event.call.inj alike
          obtain ⟨sent, gone, started⟩ :=
            start_counting left.dispatch.outbox messages packages (.caller number) again
          have turnedOther : right.dispatch.turn (.call number again) =
              recounted sent gone (left.dispatch.turn (.call number again)) := by
            rw [Dispatch.turn, same]
            exact started
          exact twins.keep turnedOther (accepts rfl) rfl
      | resume | land | abandon => cases alike
  | resume task ending =>
      cases other with
      | resume again ending =>
          obtain ⟨rfl, _⟩ := Event.resume.inj alike
          have turnedOther : right.dispatch.turn (.resume again ending) =
              recounted messages packages (component.resume 0 again left.dispatch.outbox) := by
            rw [Dispatch.turn, same]
            exact resume_counting left.dispatch.outbox messages packages again
          refine twins.keep turnedOther (accepts rfl) ?_
          cases again with
          | worker =>
              rw [Dispatch.passes, Dispatch.passes, same]
              exact if_congr Iff.rfl rfl
                (begunPasses_counting left.dispatch.outbox messages packages _)
          | caller number => rfl
      | call | land | abandon => cases alike
  | land ending =>
      cases other with
      | land ending => exact twins.land same (accepts rfl)
      | call | resume | abandon => cases alike
  | abandon task =>
      cases other with
      | abandon again =>
          obtain rfl := Event.abandon.inj alike
          have turnedOther : right.dispatch.turn (.abandon again) =
              recounted messages packages (left.dispatch.turn (.abandon again)) := by
            rw [Dispatch.turn, same]
            rfl
          exact twins.keep turnedOther (accepts rfl) rfl
      | call | resume | land => cases alike

/-- Runs of the same events, with sends that end differently. -/
theorem Twins.run (twins : Twins left right) {events others : List (Event Handler)}
    (alike : others.map Event.plan = events.map Event.plan) :
    Twins (left.run events) (right.run others) := by
  induction events generalizing left right others with
  | nil =>
      obtain rfl := List.map_eq_nil_iff.mp alike
      exact twins
  | cons event rest ih =>
      cases others with
      | nil => cases alike
      | cons other more =>
          obtain ⟨first, later⟩ := List.cons.inj alike
          exact ih (twins.step first) later

theorem Twins.refl (passage : Passage Handler) : Twins passage passage :=
  ⟨⟨passage.dispatch.outbox.messageCount, passage.dispatch.outbox.packageCount, rfl⟩, rfl, rfl, rfl⟩

end Outbox

end ReliableTransport
