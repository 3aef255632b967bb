import ReliableTransport.Proofs.Outbox.Stages
/-!
This module says what one piece of the work on an outbox can do, and what holds of an outbox between
any two pieces: a worker that is in the middle of a turn is busy with a pass and waits for no send,
and one between two turns is where a worker of whole turns would be.
-/

namespace ReliableTransport

namespace Outbox

open Mailbox (Role)

variable {Handler : Type}

namespace Stage

/-- The messages of the pass that the worker has not come to yet. -/
def rest : Stage Handler → List Bytes
  | .rests => []
  | .works messages | .refuses _ messages => messages
  | .seeks flight | .holds flight | .settles _ flight => flight.rest

/-- The reports that are still to be made. -/
def reports : Stage Handler → List (Order Handler)
  | .settles reports _ | .refuses reports _ => reports
  | _ => []

/-- The worker has found the transport and is about to begin a send. -/
def isHolding : Stage Handler → Bool
  | .holds _ => true
  | _ => false

end Stage

namespace Course

/-- The messages that the worker has not come to yet, the next one first. -/
def unsent (course : Course Handler) : List Bytes := course.stage.rest ++ course.outbox.unsent

/-- The send that the worker holds the transport for, with its messages. -/
def poised (course : Course Handler) : Option (Delivery × List Bytes) :=
  match course.stage with
  | .holds flight =>
    (course.outbox.cargo flight).map fun delivery => (delivery, course.outbox.payload flight)
  | _ => none

/-- The messages of the send that is under way or about to begin. -/
def pending (course : Course Handler) : Option (List Bytes) :=
  (course.poised.map Prod.snd).or (course.outbox.flight.map course.outbox.payload)

theorem poised_of_idle {course : Course Handler} (idle : course.stage.isHolding = false) :
    course.poised = none := by
  unfold poised
  split
  · next held =>
    rw [held] at idle
    cases idle
  · rfl

theorem pending_of_idle {course : Course Handler} (idle : course.stage.isHolding = false) :
    course.pending = course.outbox.flight.map course.outbox.payload := by
  rw [pending, poised_of_idle idle]
  rfl

/-- What holds between any two pieces of work. -/
structure Orderly (course : Course Handler) : Prop where
  sized : course.outbox.Sized
  rests : course.stage = .rests → course.outbox.Sound
  works : course.stage ≠ .rests → course.outbox.mailbox.worker = .busy ∧
    course.outbox.mailbox.hasRoom = true ∧ course.outbox.flight = none
  /-- A dispose has begun by taking the transport away, and nothing brings it back. -/
  disposing : ∀ caller, .disposes caller ∈ course.errands → course.outbox.attached = false

theorem Orderly.rests_of_aloft {course : Course Handler} (orderly : course.Orderly)
    (aloft : course.outbox.flight.isSome) : course.stage = .rests := by
  by_contra works
  rw [(orderly.works works).2.2] at aloft
  cases aloft

theorem Orderly.rests_of_idle {course : Course Handler} (orderly : course.Orderly)
    (idle : course.outbox.mailbox.worker ≠ .busy) : course.stage = .rests := by
  by_contra works
  exact idle (orderly.works works).1

/-- What a piece of work does. -/
inductive Works (course : Course Handler) : Course Handler → Prop where
  | waits (rests : course.stage = .rests) (aloft : course.outbox.flight.isSome) :
      Works course course
  /-- The worker has nothing to do. In a closed mailbox it ends. -/
  | idles {worker : Mailbox.Worker} (rests : course.stage = .rests)
      (landed : course.outbox.flight = none)
      (empty : worker ≠ course.outbox.mailbox.worker → course.outbox.mailbox.worker = .waiting ∧
        worker = .ended ∧ course.outbox.mailbox.queue = []) :
      Works course
        { course with
          outbox := { course.outbox with mailbox := { course.outbox.mailbox with worker } } }
  | collapses (rests : course.stage = .rests) (landed : course.outbox.flight = none) :
      Works course
        { course with
          outbox := { course.outbox with mailbox := course.outbox.mailbox.breakDown } }
  | begins (rests : course.stage = .rests) (landed : course.outbox.flight = none)
      (waits : course.outbox.mailbox.worker = .waiting)
      (room : course.outbox.mailbox.hasRoom = true) :
      Works course
        { course with
          outbox := course.outbox.begun
          stage := .works (course.outbox.mailbox.queue.take course.outbox.mailbox.limit) }
  | ends (last : course.stage = .works []) (emptied : course.outbox.Emptied) :
      Works course
        { course with
          outbox := { course.outbox with mailbox := course.outbox.mailbox.endPass }
          stage := .rests }
  /-- The worker turns to something else and leaves everything where it is. -/
  | moves {stage : Stage Handler} (busy : course.stage ≠ .rests) (goesOn : stage ≠ .rests)
      (rest : stage.rest = course.stage.rest) (quiet : course.stage.reports = [])
      (silent : stage.reports = []) (idle : course.stage.isHolding = false)
      (found : stage.isHolding = true → course.outbox.attached = true) :
      Works course { course with stage }
  /-- A message goes alone or goes into the batch. -/
  | admits {message : Bytes} {rest : List Bytes} {batch : Option Batch} {stage : Stage Handler}
      (comes : course.stage = .works (message :: rest))
      (admitted : course.outbox.admits message = true)
      (sized : { course.outbox with batch }.Sized)
      (bounds : batch.map Batch.maxSize = course.outbox.batch.map Batch.maxSize)
      (next : stage = .works rest ∨ ∃ flight : Flight, flight.rest = rest ∧ stage = .seeks flight) :
      Works course { course with outbox := { course.outbox with batch }, stage }
  | refuses {message : Bytes} {rest : List Bytes} (comes : course.stage = .works (message :: rest))
      (refused : course.outbox.admits message = false) :
      Works course
        { course with
          stage := .refuses (course.outbox.handlers.handlers.map
            (.report · (.invalidOperation .oversizeMessage) [message])) rest
          log := course.log ++ [.refuses message course.outbox.handlers.handlers] }
  | clears {flight : Flight}
      (idle : course.stage = .seeks flight ∨ course.stage = .settles [] flight) :
      Works course (course.clear flight)
  | launches {flight : Flight} {delivery : Delivery} (held : course.stage = .holds flight)
      (loaded : course.outbox.cargo flight = some delivery) :
      Works course
        { course with
          outbox := { course.outbox with flight := some flight }
          stage := .rests
          log := course.log ++ [.begins delivery (course.outbox.payload flight)] }
  | breaks {flight : Flight} (held : course.stage = .holds flight)
      (missing : course.outbox.cargo flight = none) :
      Works course
        { course with
          outbox := { course.outbox with mailbox := course.outbox.mailbox.breakDown }
          stage := .rests }
  | tells {report : Order Handler} {stage : Stage Handler} (busy : course.stage ≠ .rests)
      (goesOn : stage ≠ .rests) (rest : stage.rest = course.stage.rest)
      (next : course.stage.reports = report :: stage.reports)
      (idle : course.stage.isHolding = false) (still : stage.isHolding = false) :
      Works course { course with stage, log := course.log ++ [.tells report] }

theorem works_beginPass {course : Course Handler} (rests : course.stage = .rests)
    (landed : course.outbox.flight = none) : Works course course.beginPass := by
  have idle {mailbox : Mailbox Bytes} (taken : course.outbox.mailbox.takePass = (mailbox, none)) :
      course.beginPass = { course with outbox := { course.outbox with mailbox } } := by
    rw [beginPass, taken, rests]
    rfl
  by_cases waits : course.outbox.mailbox.worker = .waiting
  · cases room : course.outbox.mailbox.hasRoom with
    | false =>
        rw [idle (Mailbox.takePass_of_roomless waits room)]
        exact .collapses rests landed
    | true =>
        by_cases empty : course.outbox.mailbox.queue = []
        · rw [idle (Mailbox.takePass_of_empty waits room empty)]
          refine .idles rests landed fun other => ⟨waits, ?_, empty⟩
          cases closed : course.outbox.mailbox.closed with
          | true => rfl
          | false => exact absurd waits.symm (by simpa [closed] using other)
        · rw [beginPass, Mailbox.takePass_of_queued waits room empty]
          exact .begins rests landed waits room
  · rw [idle (Mailbox.takePass_of_not_waiting waits)]
    exact .idles rests landed fun other => absurd rfl other

theorem works_comeTo {course : Course Handler} (orderly : course.Orderly) {message : Bytes}
    {rest : List Bytes} (comes : course.stage = .works (message :: rest)) :
    Works course (course.comeTo message rest) := by
  have moves {stage : Stage Handler} (goesOn : stage ≠ .rests)
      (same : stage.rest = message :: rest) (silent : stage.reports = [])
      (still : stage.isHolding = false) : Works course { course with stage } :=
    .moves (by simp [comes]) goesOn (by rw [same, comes]; rfl) (by rw [comes]; rfl) silent
      (by rw [comes]; rfl) (by simp [still])
  unfold comeTo
  split
  · next alone =>
    have admitted : course.outbox.admits message = true := by simp [Outbox.admits, alone]
    have unchanged : Works course
        { course with
          outbox := { course.outbox with batch := course.outbox.batch }
          stage := .seeks (.single message rest) } :=
      .admits comes admitted orderly.sized rfl (.inr ⟨.single message rest, rfl, rfl⟩)
    exact unchanged
  · next batch batched =>
    obtain ⟨measured, bounded⟩ := orderly.sized batch batched
    have admits : course.outbox.admits message = batch.admits message := by
      simp [Outbox.admits, batched]
    split
    · exact moves (by simp) rfl rfl rfl
    · next roomy =>
      have fits := fits_iff_admits measured (by simpa using roomy)
      split
      · next refused =>
        refine .refuses comes ?_
        rw [admits, ← fits]
        simpa [Batch.add?] using refused
      · next grown taken =>
        obtain ⟨_, same⟩ := (Batch.add?_eq_some_iff _ _ _).mp taken
        have bound : grown.maxSize = batch.maxSize := by rw [same]
        refine .admits comes ?_ ?_ ?_ ?_
        · rw [admits, ← fits]
          by_contra refused
          simp [Batch.add?, refused] at taken
        · exact sized_some (Batch.measured_add measured taken) (bound ▸ bounded)
        · rw [batched, Option.map_some, Option.map_some, bound]
        · split
          · exact .inl rfl
          · exact .inr ⟨.full rest, rfl, rfl⟩

theorem Orderly.works_work {course : Course Handler} (orderly : course.Orderly) :
    Works course course.work := by
  unfold work
  split
  · next rests =>
    split
    · next aloft => exact .waits rests aloft
    · next landed => exact works_beginPass rests (by simpa using landed)
  · next last =>
    unfold endPass
    split
    · next empty =>
      refine .ends last fun batch kept => ?_
      simpa [Batch.isEmpty] using (Option.all_eq_true _ _).mp empty batch kept
    · exact .moves (by simp [last]) (by simp) (by rw [last]; rfl) (by rw [last]; rfl) rfl
        (by rw [last]; rfl) (by simp [Stage.isHolding])
  · next message rest comes => exact works_comeTo orderly comes
  · next flight seeks =>
    split
    · next attached =>
      exact .moves (by simp [seeks]) (by simp) (by rw [seeks]; rfl) (by rw [seeks]; rfl) rfl
        (by rw [seeks]; rfl) fun _ => attached
    · exact .clears (.inl seeks)
  · next flight held =>
    unfold launch
    split
    · next loaded => exact .launches held loaded
    · next missing => exact .breaks held missing
  · next flight settled => exact .clears (.inr settled)
  · next report reports flight settles =>
    exact .tells (by simp [settles]) (by simp) (by rw [settles]; rfl) (by rw [settles]; rfl)
      (by rw [settles]; rfl) rfl
  · next messages told =>
    exact .moves (by simp [told]) (by simp) (by rw [told]; rfl) (by rw [told]; rfl) rfl
      (by rw [told]; rfl) (by simp [Stage.isHolding])
  · next report reports messages refuses =>
    exact .tells (by simp [refuses]) (by simp) (by rw [refuses]; rfl) (by rw [refuses]; rfl)
      (by rw [refuses]; rfl) rfl

/-- What an event does. The worker goes on, its send ends, the counts start again, or neither the
worker nor the counts are touched. -/
inductive Happens (course : Course Handler) : Event Handler → Course Handler → Prop where
  | shifts {event : Event Handler} {mailbox : Mailbox Bytes} {attached : Bool}
      {handlers : Registry Handler} {errands : List Errand} {calls : Nat}
      (stays : Stays course.outbox.mailbox mailbox)
      (detached : course.outbox.attached = false → attached = false)
      (disposing : ∀ caller, .disposes caller ∈ errands →
        .disposes caller ∈ course.errands ∨ attached = false) :
      Happens course event
        { course with
          outbox := { course.outbox with mailbox, attached, handlers }
          errands
          calls }
  | restarts {event : Event Handler} {calls : Nat} :
      Happens course event
        { course with
          outbox := { course.outbox with messageCount := 0, packageCount := 0 }
          calls
          log := course.log ++ [.resets] }
  | works {next : Course Handler} (works : Works course next) : Happens course .work next
  | lands {answer : Except Failure Nat} {flight : Flight}
      (aloft : course.outbox.flight = some flight) :
      Happens course (.land answer) (course.land flight answer)

/-- An event that does nothing. -/
theorem happens_nothing (course : Course Handler) (event : Event Handler) :
    Happens course event course :=
  .shifts (.refl _) id fun _ => .inl

theorem happens_call (course : Course Handler) (made : Call Handler) :
    Happens course (.call made) (course.call made) := by
  cases runs : made.runs with
  | true =>
      obtain ⟨handlers, effects, started, _⟩ :=
        course.outbox.start_of_runs (.caller course.calls) runs
      have same : course.call made =
          { course with
            outbox := (course.outbox.start (.caller course.calls) made).1
            calls := course.calls + 1 } := by
        cases made <;> first | rfl | cases runs
      rw [same, started]
      refine .shifts ⟨rfl, rfl, id, fun shut => ?_⟩ id fun _ => .inl
      simp [shut]
  | false =>
      cases made with
      | reset => exact .restarts
      | close =>
          obtain ⟨joiner, joined⟩ := course.outbox.mailbox.join_eq (.caller course.calls)
          rw [call]
          generalize course.outbox.mailbox.join (.caller course.calls) = answer at joined ⊢
          obtain ⟨mailbox, waits⟩ := answer
          obtain rfl :
            mailbox = { course.outbox.mailbox with closed := true, joinable := false, joiner } :=
            joined
          refine .shifts ⟨rfl, rfl, fun _ => rfl, fun _ => rfl⟩ id fun caller among => .inl ?_
          cases waits <;> simpa using among
      | dispose => exact .shifts (.refl _) (fun _ => rfl) fun _ _ => .inr rfl
      | send | sendRange | deliver | subscribe | unsubscribe => cases runs

theorem happens_turn (course : Course Handler) (caller : Nat) :
    Happens course (.turn caller) (course.step (.turn caller)) := by
  cases returns : course.outbox.mailbox.isOver &&
      course.outbox.mailbox.joiner == some (.caller caller) with
  | true =>
      have same : course.step (.turn caller) =
          { course with
            outbox := { course.outbox with
              mailbox := course.outbox.mailbox.unjoin (.caller caller)
              attached := false } } := by
        simp only [step, component, returns, if_true]
        rfl
      rw [same]
      exact .shifts (stays_unjoin _ _) (fun _ => rfl) fun _ => .inl
  | false =>
      have nothing : course.step (.turn caller) = course := by
        simp only [step, component, returns, Bool.false_eq_true, if_false]
      rw [nothing]
      exact course.happens_nothing _

theorem happens_finish (course : Course Handler) (position : Nat) :
    Happens course (.finish position) (course.step (.finish position)) := by
  have fewer {errand : Errand} (among : errand ∈ course.errands.eraseIdx position) :
      errand ∈ course.errands := List.mem_of_mem_eraseIdx among
  rw [step]
  split
  · exact course.happens_nothing _
  · exact .shifts ⟨rfl, rfl, fun _ => rfl, fun _ => rfl⟩ id fun _ among => .inl (fewer among)
  · exact .shifts (.refl _) (fun _ => rfl) fun _ among => .inl (fewer among)

theorem Orderly.happens {course : Course Handler} (orderly : course.Orderly)
    (event : Event Handler) : Happens course event (course.step event) := by
  cases event with
  | call made => exact course.happens_call made
  | work => exact .works orderly.works_work
  | land answer =>
      rw [step]
      cases aloft : course.outbox.flight with
      | none => exact course.happens_nothing _
      | some flight => exact .lands aloft
  | turn caller => exact course.happens_turn caller
  | finish position => exact course.happens_finish position
  | abandon caller => exact .shifts (stays_unjoin _ _) id fun _ => .inl

/-- A worker in the middle of a turn stays there whatever else changes. -/
theorem Orderly.shift {course : Course Handler} (orderly : course.Orderly)
    {mailbox : Mailbox Bytes} (stays : Stays course.outbox.mailbox mailbox) {attached : Bool}
    {errands : List Errand}
    (disposing : ∀ caller, .disposes caller ∈ errands → attached = false)
    (handlers : Registry Handler) (messageCount packageCount : UInt64) (calls : Nat)
    (log : List (Entry Handler)) :
    Orderly
      { outbox := { course.outbox with mailbox, attached, handlers, messageCount, packageCount }
        stage := course.stage
        errands
        calls
        log } where
  sized := orderly.sized
  rests rests := (orderly.rests rests).shift stays attached handlers messageCount packageCount
  works busy := by
    obtain ⟨working, room, landed⟩ := orderly.works busy
    exact ⟨stays.worker.trans working, stays.room.trans room, landed⟩
  disposing := disposing

theorem cleared_sized {outbox : Outbox Handler} (sized : outbox.Sized) : outbox.cleared.Sized := by
  intro batch kept
  obtain ⟨before, held, rfl⟩ := Option.map_eq_some_iff.mp kept
  exact ⟨rfl, (sized before held).2⟩

theorem Orderly.work {course next : Course Handler} (orderly : course.Orderly)
    (works : Works course next) : next.Orderly := by
  cases works with
  | waits _ _ => exact orderly
  | @idles worker rests landed empty =>
      have sound := orderly.rests rests
      have still : Sound
          { course.outbox with mailbox := { course.outbox.mailbox with worker } } := by
        by_cases same : worker = course.outbox.mailbox.worker
        · subst same
          exact sound
        · obtain ⟨waits, ended, none⟩ := empty same
          have emptied : course.outbox.Emptied := by simpa [waits] using sound.rests landed
          refine ⟨sound.sized, fun aloft => ?_, fun _ => .inr ⟨emptied, .inr ⟨ended, none⟩⟩⟩
          simp [landed] at aloft
      exact ⟨orderly.sized, fun _ => still, fun busy => absurd rests busy, orderly.disposing⟩
  | collapses rests landed =>
      exact ⟨orderly.sized,
        fun _ => ⟨orderly.sized, fun aloft => by simp [landed] at aloft, fun _ => .inl rfl⟩,
        fun busy => absurd rests busy, orderly.disposing⟩
  | begins rests landed waits room =>
      exact ⟨orderly.sized, nofun, fun _ => ⟨rfl, room, landed⟩, orderly.disposing⟩
  | ends last emptied =>
      obtain ⟨_, _, landed⟩ := orderly.works (by simp [last])
      have sound : Sound
          { course.outbox with mailbox := course.outbox.mailbox.endPass } :=
        ⟨orderly.sized, fun aloft => by simp [landed] at aloft, fun _ => .inr ⟨emptied, .inl rfl⟩⟩
      exact ⟨orderly.sized, fun _ => sound, fun busy => absurd rfl busy, orderly.disposing⟩
  | moves busy goesOn _ _ _ _ _ =>
      exact ⟨orderly.sized, fun rests => absurd rests goesOn, fun _ => orderly.works busy,
        orderly.disposing⟩
  | @admits _ _ _ stage comes _ sized _ next =>
      have goesOn : stage ≠ .rests := by
        rcases next with rfl | ⟨flight, _, rfl⟩ <;> simp
      exact ⟨sized, fun rests => absurd rests goesOn, fun _ => orderly.works (by simp [comes]),
        orderly.disposing⟩
  | refuses comes _ =>
      exact ⟨orderly.sized, nofun, fun _ => orderly.works (by simp [comes]), orderly.disposing⟩
  | clears idle =>
      have busy : course.stage ≠ .rests := by rcases idle with here | here <;> simp [here]
      exact ⟨cleared_sized orderly.sized, nofun, fun _ => orderly.works busy, orderly.disposing⟩
  | launches held _ =>
      obtain ⟨working, room, _⟩ := orderly.works (by simp [held])
      exact ⟨orderly.sized, fun _ => ⟨orderly.sized, fun _ => ⟨working, room⟩, nofun⟩,
        fun busy => absurd rfl busy, orderly.disposing⟩
  | breaks held _ =>
      obtain ⟨_, _, landed⟩ := orderly.works (by simp [held])
      exact ⟨orderly.sized,
        fun _ => ⟨orderly.sized, fun aloft => by simp [landed] at aloft, fun _ => .inl rfl⟩,
        fun busy => absurd rfl busy, orderly.disposing⟩
  | tells busy goesOn _ _ _ _ =>
      exact ⟨orderly.sized, fun rests => absurd rests goesOn, fun _ => orderly.works busy,
        orderly.disposing⟩

/-- A send has ended, and its worker is in the middle of a turn. -/
theorem Orderly.land {course : Course Handler} (orderly : course.Orderly) {flight : Flight}
    (aloft : course.outbox.flight = some flight) (answer : Except Failure Nat) :
    (course.land flight answer).Orderly := by
  have rests := orderly.rests_of_aloft (by simp [aloft])
  obtain ⟨working, room⟩ := (orderly.rests rests).flies (by simp [aloft])
  cases answer with
  | ok _ => exact ⟨orderly.sized, nofun, fun _ => ⟨working, room, rfl⟩, orderly.disposing⟩
  | error _ => exact ⟨orderly.sized, nofun, fun _ => ⟨working, room, rfl⟩, orderly.disposing⟩

theorem Orderly.step {course : Course Handler} (orderly : course.Orderly) (event : Event Handler) :
    (course.step event).Orderly := by
  have happens := orderly.happens event
  generalize course.step event = next at happens
  cases happens with
  | shifts stays detached disposing =>
      refine orderly.shift stays (fun caller among => ?_) _ _ _ _ _
      rcases disposing caller among with before | taken
      · exact detached (orderly.disposing caller before)
      · exact taken
  | restarts => exact orderly.shift (.refl _) orderly.disposing _ _ _ _ _
  | works works => exact orderly.work works
  | lands aloft => exact orderly.land aloft _

theorem Orderly.run {course : Course Handler} (orderly : course.Orderly)
    (events : List (Event Handler)) : (course.run events).Orderly := by
  induction events generalizing course with
  | nil => exact orderly
  | cons event rest ih => exact ih (orderly.step event)

end Course

/-- A new outbox has nothing to do. -/
theorem create_orderly {settings : OutboxSettings} {maxFrame : Nat} {outbox : Outbox Handler}
    (created : create settings maxFrame = .ok (.ok outbox)) : Course.Orderly { outbox } := by
  have sound := (create_coherent created).sound
  exact ⟨sound.sized, fun _ => sound, fun busy => absurd rfl busy, nofun⟩

end Outbox

end ReliableTransport
