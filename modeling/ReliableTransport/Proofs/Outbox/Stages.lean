import ReliableTransport.Proofs.Outbox.Soundness
/-!
This module follows an outbox with the turns of its worker taken apart. The worker puts one message
into its batch, looks for the transport, begins a send or tells one handler of a failure at a time.
Before and after each of these anything can happen: messages come in, handlers are registered and
struck off, and the outbox is reset, disposed of or closed, by the handler that is being told or by
anybody else. A dispose takes the transport away first and then closes the mailbox, and a close that
has nobody to wait for closes the mailbox first and then takes the transport away.
-/

namespace ReliableTransport

namespace Outbox

open Mailbox (Role)

/-- Where the worker is between two pieces of its work. -/
inductive Stage (Handler : Type) where
  /-- The worker waits for messages or for its send, or it is over. -/
  | rests
  /-- The worker comes to these messages of its pass. -/
  | works (messages : List Bytes)
  /-- The worker is about to look for the transport. -/
  | seeks (flight : Flight)
  /-- The worker has found the transport and is about to begin the send. -/
  | holds (flight : Flight)
  /-- The send is over, and the worker is about to make these reports of it. -/
  | settles (reports : List (Order Handler)) (flight : Flight)
  /-- The worker is about to make these reports of a message that no batch takes. -/
  | refuses (reports : List (Order Handler)) (messages : List Bytes)

/-- The part of a call that is still to come. -/
inductive Errand where
  /-- A dispose has taken the transport away and will close the mailbox. -/
  | disposes (caller : Nat)
  /-- A close that waits for nobody has closed the mailbox and will take the transport away. -/
  | closes (caller : Nat)
  deriving DecidableEq

/-- What becomes of an outbox and of its messages. -/
inductive Entry (Handler : Type) where
  /-- A call of the transport begins. -/
  | begins (delivery : Delivery) (messages : List Bytes)
  /-- A send has ended well and is counted. -/
  | counts (messages : List Bytes)
  /-- A send has failed. The handlers that are registered then will be told. -/
  | fails (failure : Failure) (messages : List Bytes) (handlers : List Handler)
  /-- No batch takes the message. The handlers that are registered then will be told. -/
  | refuses (message : Bytes) (handlers : List Handler)
  | tells (report : Order Handler)
  /-- The counts start again. -/
  | resets

variable {Handler Result : Type}

/-- What an entry asks of the outside. -/
def Entry.order? : Entry Handler → Option (Order Handler)
  | .begins delivery _ => some (.send delivery)
  | .tells report => some report
  | _ => none

/-- What a log asked of the outside, in order. -/
def asked (log : List (Entry Handler)) : List (Order Handler) := log.filterMap Entry.order?

/-- An outbox, where its worker is, and what happened so far. -/
structure Course (Handler : Type) where
  outbox : Outbox Handler
  stage : Stage Handler := .rests
  errands : List Errand := []
  /-- The number of the calls that were made. -/
  calls : Nat := 0
  log : List (Entry Handler) := []

/-- What a flight hands to the transport. A batch that has no frame goes nowhere. -/
def cargo (outbox : Outbox Handler) : Flight → Option Delivery
  | .single message _ => some (.whole message)
  | _ => outbox.batch.bind fun batch => batch.toParts.toOption.map .parts

/-- The outbox with nothing in its batch. -/
def cleared (outbox : Outbox Handler) : Outbox Handler :=
  { outbox with batch := outbox.batch.map Batch.clear }

namespace Course

/-- What can happen to an outbox. -/
inductive Event (Handler : Type) where
  | call (made : Call Handler)
  /-- The worker goes on by one piece of its work. -/
  | work
  /-- The worker's send ends. -/
  | land (answer : Except Failure Nat)
  /-- A close that waits for the worker's end has a turn. -/
  | turn (caller : Nat)
  /-- A call goes on with the part that is still to come. -/
  | finish (position : Nat)
  | abandon (caller : Nat)

/-- The worker comes to a message of its pass. -/
def comeTo (course : Course Handler) (message : Bytes) (rest : List Bytes) : Course Handler :=
  match course.outbox.batch with
  | none => { course with stage := .seeks (.single message rest) }
  | some batch =>
    if isCrowded batch message then { course with stage := .seeks (.crowded message rest) }
    else
      match batch.add? message with
      | none =>
        let handlers := course.outbox.handlers.handlers
        let failure := .invalidOperation .oversizeMessage
        { course with
          stage := .refuses (handlers.map (.report · failure [message])) rest
          log := course.log ++ [.refuses message handlers] }
      | some grown =>
        { course with
          outbox := { course.outbox with batch := some grown }
          stage :=
            if grown.size < course.outbox.packageSize then .works rest else .seeks (.full rest) }

/-- The worker begins the send that it holds the transport for. A batch that has no frame breaks it
down. -/
def launch (course : Course Handler) (flight : Flight) : Course Handler :=
  match course.outbox.cargo flight with
  | some delivery =>
    { course with
      outbox := { course.outbox with flight := some flight }
      stage := .rests
      log := course.log ++ [.begins delivery (course.outbox.payload flight)] }
  | none =>
    { course with
      outbox := { course.outbox with mailbox := course.outbox.mailbox.breakDown }
      stage := .rests }

/-- Nothing is left in the batch, and the worker goes on with the rest of its pass. -/
def clear (course : Course Handler) (flight : Flight) : Course Handler :=
  { course with outbox := course.outbox.cleared, stage := .works flight.rest }

/-- A worker that waits for no send begins a pass, waits for messages, or is over. -/
def beginPass (course : Course Handler) : Course Handler :=
  let (mailbox, messages) := course.outbox.mailbox.takePass
  { course with
    outbox := { course.outbox with mailbox }
    stage := messages.elim .rests .works }

/-- The messages of the pass have run out. What is left in the batch is not held back. -/
def endPass (course : Course Handler) : Course Handler :=
  if course.outbox.batch.all Batch.isEmpty then
    { course with
      outbox := { course.outbox with mailbox := course.outbox.mailbox.endPass }
      stage := .rests }
  else { course with stage := .seeks .last }

/-- One piece of the worker's work. -/
def work (course : Course Handler) : Course Handler :=
  match course.stage with
  | .rests => if course.outbox.flight.isSome then course else course.beginPass
  | .works [] => course.endPass
  | .works (message :: rest) => course.comeTo message rest
  | .seeks flight =>
    if course.outbox.attached then { course with stage := .holds flight } else course.clear flight
  | .holds flight => course.launch flight
  | .settles [] flight => course.clear flight
  | .settles (report :: reports) flight =>
    { course with stage := .settles reports flight, log := course.log ++ [.tells report] }
  | .refuses [] messages => { course with stage := .works messages }
  | .refuses (report :: reports) messages =>
    { course with stage := .refuses reports messages, log := course.log ++ [.tells report] }

/-- The worker's send ends. It is counted, or the handlers that are registered now will be told. -/
def land (course : Course Handler) (flight : Flight) (answer : Except Failure Nat) :
    Course Handler :=
  let messages := course.outbox.payload flight
  match answer with
  | .ok _ =>
    { course with
      outbox := { course.outbox.countSent messages.length with flight := none }
      stage := .settles [] flight
      log := course.log ++ [.counts messages] }
  | .error failure =>
    let handlers := course.outbox.handlers.handlers
    { course with
      outbox := { course.outbox with flight := none }
      stage := .settles (handlers.map (.report · failure messages)) flight
      log := course.log ++ [.fails failure messages handlers] }

/-- Somebody calls the outbox. -/
def call (course : Course Handler) (made : Call Handler) : Course Handler :=
  let number := course.calls
  let course := { course with calls := number + 1 }
  match made with
  | .dispose =>
    { course with
      outbox := course.outbox.detach
      errands := course.errands ++ [.disposes number] }
  | .close =>
    let (mailbox, waits) := course.outbox.mailbox.join (.caller number)
    { course with
      outbox := { course.outbox with mailbox }
      errands := course.errands ++ if waits then [] else [.closes number] }
  | .reset =>
    { course with
      outbox := (course.outbox.start (.caller number) .reset).1
      log := course.log ++ [.resets] }
  | made => { course with outbox := (course.outbox.start (.caller number) made).1 }

def step (course : Course Handler) : Event Handler → Course Handler
  | .call made => course.call made
  | .work => course.work
  | .land answer => course.outbox.flight.elim course (course.land · answer)
  | .turn caller =>
    { course with outbox := (component.resume 0 (.caller caller) course.outbox).1 }
  | .finish position =>
    match course.errands[position]? with
    | none => course
    | some (.disposes _) =>
      { course with
        outbox := { course.outbox with mailbox := course.outbox.mailbox.close }
        errands := course.errands.eraseIdx position }
    | some (.closes _) =>
      { course with
        outbox := course.outbox.detach
        errands := course.errands.eraseIdx position }
  | .abandon caller =>
    { course with
      outbox := { course.outbox with mailbox := course.outbox.mailbox.unjoin (.caller caller) } }

def run (course : Course Handler) (events : List (Event Handler)) : Course Handler :=
  events.foldl step course

theorem run_append (course : Course Handler) (events more : List (Event Handler)) :
    course.run (events ++ more) = (course.run events).run more :=
  List.foldl_append

end Course

/-- The worker alone leads from one state to another. -/
def Leads (first : Outbox Handler × Stage Handler) (orders : List (Order Handler))
    (last : Outbox Handler × Stage Handler) : Prop :=
  ∀ course : Course Handler, (course.outbox, course.stage) = first →
    ∃ pieces, let reached := course.run (List.replicate pieces .work)
      (reached.outbox, reached.stage) = last ∧ asked reached.log = asked course.log ++ orders

/-- Where a worker is that came so far in a pass. -/
def Progress.stage (progress : Progress Handler Result) : Stage Handler :=
  if progress.complete then .works [] else .rests

/-- The batch that a message is put into is not crowded. -/
theorem isCrowded_roomFor (batch : Batch) (message : Bytes) :
    isCrowded (roomFor batch message) message = false := by
  cases crowded : isCrowded batch message with
  | true =>
      rw [roomFor, if_pos crowded]
      by_contra again
      have measured : batch.clear.Measured := rfl
      exact messages_ne_nil_of_crowded measured (by simpa using again) rfl
  | false => rw [roomFor, if_neg (by simp [crowded]), crowded]

namespace Leads

variable {first middle last : Outbox Handler × Stage Handler} {orders others : List (Order Handler)}
  {outbox : Outbox Handler} {batch : Batch}

theorem refl (first : Outbox Handler × Stage Handler) : Leads first [] first := by
  intro course here
  exact ⟨0, here, (List.append_nil _).symm⟩

theorem trans (leads : Leads first orders middle) (further : Leads middle others last) :
    Leads first (orders ++ others) last := by
  intro course here
  obtain ⟨pieces, there, made⟩ := leads course here
  obtain ⟨more, beyond, madeToo⟩ := further _ there
  refine ⟨pieces + more, ?_⟩
  rw [← List.replicate_append_replicate, Course.run_append]
  exact ⟨beyond, by rw [madeToo, made, List.append_assoc]⟩

/-- One piece of work leads to where it ends. -/
theorem of_work (leads : ∀ course : Course Handler, (course.outbox, course.stage) = first →
      (course.work.outbox, course.work.stage) = last ∧
        asked course.work.log = asked course.log ++ orders) : Leads first orders last :=
  fun course here => ⟨1, leads course here⟩

/-- A piece of work that asks nothing of the outside comes first. -/
theorem step (leads : Leads first [] middle) (further : Leads middle orders last) :
    Leads first orders last := by
  simpa using leads.trans further

theorem ending (emptied : outbox.Emptied) :
    Leads (outbox, .works []) [] ({ outbox with mailbox := outbox.mailbox.endPass }, .rests) := by
  refine of_work fun course here => ?_
  obtain ⟨rfl, same⟩ := Prod.mk.inj here
  have none : course.outbox.batch.all Batch.isEmpty = true := by
    rw [Option.all_eq_true]
    intro batch kept
    simp [Batch.isEmpty, emptied batch kept]
  simp [Course.work, Course.endPass, same, none]

theorem beginning (landed : outbox.flight = none) :
    Leads (outbox, .rests) [] ({ outbox with mailbox := outbox.mailbox.takePass.1 },
      outbox.mailbox.takePass.2.elim .rests .works) := by
  refine of_work fun course here => ?_
  obtain ⟨rfl, same⟩ := Prod.mk.inj here
  simp [Course.work, Course.beginPass, same, landed]

theorem finding (attached : outbox.attached = true) (flight : Flight) :
    Leads (outbox, .seeks flight) [] (outbox, .holds flight) := by
  refine of_work fun course here => ?_
  obtain ⟨rfl, same⟩ := Prod.mk.inj here
  simp [Course.work, same, attached]

theorem missing (detached : outbox.attached = false) (flight : Flight) :
    Leads (outbox, .seeks flight) [] (outbox.cleared, .works flight.rest) := by
  refine of_work fun course here => ?_
  obtain ⟨rfl, same⟩ := Prod.mk.inj here
  simp [Course.work, Course.clear, same, detached]

theorem launching {flight : Flight} {delivery : Delivery}
    (loaded : outbox.cargo flight = some delivery) :
    Leads (outbox, .holds flight) [.send delivery]
      ({ outbox with flight := some flight }, .rests) := by
  refine of_work fun course here => ?_
  obtain ⟨rfl, same⟩ := Prod.mk.inj here
  simp [Course.work, Course.launch, same, loaded, asked, Entry.order?]

theorem breaking {flight : Flight} (missing : outbox.cargo flight = none) :
    Leads (outbox, .holds flight) []
      ({ outbox with mailbox := outbox.mailbox.breakDown }, .rests) := by
  refine of_work fun course here => ?_
  obtain ⟨rfl, same⟩ := Prod.mk.inj here
  simp [Course.work, Course.launch, same, missing]

theorem refusing (reports : List (Order Handler)) (messages : List Bytes) :
    Leads (outbox, .refuses reports messages) reports (outbox, .works messages) := by
  induction reports with
  | nil =>
      refine of_work fun course here => ?_
      obtain ⟨rfl, same⟩ := Prod.mk.inj here
      simp [Course.work, same]
  | cons report rest ih =>
      have told : Leads (outbox, .refuses (report :: rest) messages) [report]
          (outbox, .refuses rest messages) := by
        refine of_work fun course here => ?_
        obtain ⟨rfl, same⟩ := Prod.mk.inj here
        simp [Course.work, same, asked, Entry.order?]
      exact told.trans ih

theorem settling (reports : List (Order Handler)) (flight : Flight) :
    Leads (outbox, .settles reports flight) reports (outbox.cleared, .works flight.rest) := by
  induction reports with
  | nil =>
      refine of_work fun course here => ?_
      obtain ⟨rfl, same⟩ := Prod.mk.inj here
      simp [Course.work, Course.clear, same]
  | cons report rest ih =>
      have told : Leads (outbox, .settles (report :: rest) flight) [report]
          (outbox, .settles rest flight) := by
        refine of_work fun course here => ?_
        obtain ⟨rfl, same⟩ := Prod.mk.inj here
        simp [Course.work, same, asked, Entry.order?]
      exact told.trans ih

/-- Messages are sent alone. -/
theorem sendEach (alone : outbox.batch = none) (messages : List Bytes) :
    let progress : Progress Handler Result := outbox.sendEach messages
    Leads (outbox, .works messages) (Effect.orders progress.effects)
      (progress.outbox, progress.stage) := by
  induction messages with
  | nil => exact refl _
  | cons message rest ih =>
      intro progress
      have comes : Leads (outbox, .works (message :: rest)) []
          (outbox, .seeks (.single message rest)) := by
        refine of_work fun course here => ?_
        obtain ⟨rfl, same⟩ := Prod.mk.inj here
        simp [Course.work, Course.comeTo, same, alone]
      cases attached : outbox.attached with
      | true =>
          have flies := (finding attached (.single message rest)).step (launching rfl)
          simpa [progress, Outbox.sendEach, attached, Progress.stage] using comes.step flies
      | false =>
          have unchanged : outbox.cleared = outbox := by
            obtain ⟨_, _, _, batch, _, _, _, _⟩ := outbox
            obtain rfl : batch = none := alone
            rfl
          have dropped := missing attached (.single message rest)
          rw [unchanged] at dropped
          simpa [progress, Outbox.sendEach, attached] using comes.step (dropped.step ih)

/-- The outbox with another batch. -/
abbrev withBatch (outbox : Outbox Handler) (batch : Batch) : Outbox Handler :=
  { outbox with batch := some batch }

/-- A batch goes, or the worker breaks down over it. -/
theorem flush (attached : outbox.attached = true) (landed : outbox.flight = none) {flight : Flight}
    (together : ∀ message rest, flight ≠ .single message rest) (batch : Batch) :
    let progress : Progress Handler Result := outbox.flush batch flight
    Leads (withBatch outbox batch, .seeks flight) (Effect.orders progress.effects)
      (progress.outbox, progress.stage) := by
  intro progress
  have found : Leads (withBatch outbox batch, .seeks flight) []
      (withBatch outbox batch, .holds flight) :=
    finding (show (withBatch outbox batch).attached = true from attached) flight
  have loads : (withBatch outbox batch).cargo flight = batch.toParts.toOption.map .parts := by
    cases flight with
    | single message rest => exact absurd rfl (together message rest)
    | crowded | full | last => rfl
  simp only [progress, Outbox.flush]
  cases written : batch.toParts with
  | ok parts =>
      rw [written] at loads
      exact found.step (launching loads)
  | error defect =>
      rw [written] at loads
      simpa [landed, Mailbox.orders_wakeJoiner, Progress.stage] using found.step (breaking loads)

/-- A message that a batch takes goes into it. -/
theorem taking {grown : Batch} {message : Bytes} (rest : List Bytes)
    (roomy : isCrowded batch message = false) (taken : batch.add? message = some grown) :
    Leads (withBatch outbox batch, .works (message :: rest)) []
      (withBatch outbox grown,
        if grown.size < outbox.packageSize then .works rest else .seeks (.full rest)) := by
  refine of_work fun course here => ?_
  obtain ⟨kept, same⟩ := Prod.mk.inj here
  simp [Course.work, Course.comeTo, same, kept, roomy, taken]

/-- A message that no batch takes is told to the handlers. -/
theorem refusal {message : Bytes} (rest : List Bytes) (roomy : isCrowded batch message = false)
    (refused : batch.add? message = none) :
    let reports : List (Effect Role (Order Handler) Result) :=
      outbox.reports (.invalidOperation .oversizeMessage) [message]
    Leads (withBatch outbox batch, .works (message :: rest)) (Effect.orders reports)
      (withBatch outbox batch, .works rest) := by
  intro reports
  have refuses : Leads (withBatch outbox batch, .works (message :: rest)) []
      (withBatch outbox batch, .refuses (Effect.orders reports) rest) := by
    refine of_work fun course here => ?_
    obtain ⟨kept, same⟩ := Prod.mk.inj here
    simp only [reports, orders_reports]
    simp [Course.work, Course.comeTo, same, kept, roomy, refused, asked, Entry.order?]
  exact refuses.step (refusing _ rest)

/-- Messages are collected into frames. -/
theorem sendBatched (landed : outbox.flight = none) (messages : List Bytes) {batch : Batch}
    (measured : batch.Measured) :
    let progress : Progress Handler Result := outbox.sendBatched batch messages
    Leads (withBatch outbox batch, .works messages) (Effect.orders progress.effects)
      (progress.outbox, progress.stage) := by
  have gone (batch : Batch) (flight : Flight) (detached : outbox.attached = false) :
      Leads (withBatch outbox batch, .seeks flight) []
        (withBatch outbox batch.clear, .works flight.rest) :=
    missing (show (withBatch outbox batch).attached = false from detached) flight
  induction messages generalizing batch with
  | nil =>
      intro progress
      simp only [progress, Outbox.sendBatched]
      split
      · exact refl _
      · next full =>
        have departs : Leads (withBatch outbox batch, .works []) []
            (withBatch outbox batch, .seeks .last) := by
          refine of_work fun course here => ?_
          obtain ⟨kept, same⟩ := Prod.mk.inj here
          simp [Course.work, Course.endPass, same, kept, full]
        split
        · next attached => exact departs.step (flush attached landed (by simp) batch)
        · next detached => exact departs.step (gone batch .last (by simpa using detached))
  | cons message rest ih =>
      have crowds (crowded : isCrowded batch message = true) :
          Leads (withBatch outbox batch, .works (message :: rest)) []
            (withBatch outbox batch, .seeks (.crowded message rest)) := by
        refine of_work fun course here => ?_
        obtain ⟨kept, same⟩ := Prod.mk.inj here
        simp [Course.work, Course.comeTo, same, kept, crowded]
      cases goes : isCrowded batch message && outbox.attached with
      | true =>
          obtain ⟨crowded, attached⟩ := Bool.and_eq_true_iff.mp goes
          intro progress
          simp only [progress, Outbox.sendBatched, goes, if_true]
          exact (crowds crowded).step (flush attached landed (by simp) batch)
      | false =>
          -- The batch has room for what it admits, or the worker drops it first.
          have makesRoom : Leads (withBatch outbox batch, .works (message :: rest)) []
              (withBatch outbox (roomFor batch message), .works (message :: rest)) := by
            unfold roomFor
            split
            · next crowded =>
              have detached : outbox.attached = false := by simpa [crowded] using goes
              exact (crowds crowded).step (gone batch (.crowded message rest) detached)
            · exact refl _
          have room_measured := measured_roomFor measured message
          have roomy := isCrowded_roomFor batch message
          cases added : (roomFor batch message).add? message with
          | none =>
              rw [sendBatched_refuses goes added]
              have told := makesRoom.step (@refusal Handler Result _ _ _ rest roomy added)
              intro progress
              simp only [progress, Progress.after, Effect.orders_append]
              exact told.trans (ih room_measured)
          | some grown =>
              rw [sendBatched_takes goes added]
              have grown_measured := Batch.measured_add room_measured added
              have takes := makesRoom.step (taking rest roomy added)
              split at takes
              · next below =>
                rw [if_pos below]
                exact takes.step (ih grown_measured)
              · next full =>
                rw [if_neg full]
                split
                · next attached => exact takes.step (flush attached landed (by simp) grown)
                · next detached =>
                  have dropped := gone grown (.full rest) (by simpa using detached)
                  exact (takes.step dropped).step (ih rfl)

/-- A pass is made, up to the next send. -/
theorem workOn (sized : outbox.Sized) (landed : outbox.flight = none) (messages : List Bytes) :
    let progress : Progress Handler Result := outbox.workOn messages
    Leads (outbox, .works messages) (Effect.orders progress.effects)
      (progress.outbox, progress.stage) := by
  intro progress
  simp only [progress, Outbox.workOn]
  split
  · next alone => exact sendEach alone messages
  · next batch batched =>
    have same : withBatch outbox batch = outbox := by rw [withBatch, ← batched]
    have leads := @sendBatched Handler Result _ landed messages _ (sized batch batched).1
    rwa [same] at leads

/-- The worker makes a pass and goes on when it is over. -/
theorem pass (sized : outbox.Sized) (emptied : outbox.Emptied) (landed : outbox.flight = none)
    (messages : List Bytes)
    {next : Outbox Handler → Turn (Outbox Handler) Role (Order Handler) Result}
    (further : ∀ outbox : Outbox Handler, outbox.Sized → outbox.Emptied → outbox.flight = none →
      outbox.mailbox.worker = .waiting →
        Leads (outbox, .rests) (Effect.orders (next outbox).2) ((next outbox).1, .rests)) :
    let turn := (outbox.workOn messages).andThen next
    Leads (outbox, .works messages) (Effect.orders turn.2) (turn.1, .rests) := by
  intro turn
  have worked := @workOn Handler Result _ sized landed messages
  have halts : Halts outbox (outbox.workOn messages : Progress Handler Result) :=
    workOn_halts sized emptied messages
  simp only [turn]
  generalize outbox.workOn messages = progress at worked halts
  cases halts with
  | finishes sized emptied _ _ =>
      have ends := worked.trans (ending emptied)
      rw [List.append_nil] at ends
      rw [Progress.andThen, if_pos rfl, Effect.orders_append]
      exact ends.trans (further _ sized emptied landed rfl)
  | departs | breaks => exact worked

/-- The worker makes passes, up to the next send or until no message is left. -/
theorem beginPasses (passes : Nat) (sized : outbox.Sized) (emptied : outbox.Emptied)
    (landed : outbox.flight = none) (waits : outbox.mailbox.worker = .waiting) :
    let turn : Turn (Outbox Handler) Role (Order Handler) Result := outbox.beginPasses passes
    Leads (outbox, .rests) (Effect.orders turn.2) (turn.1, .rests) := by
  induction passes generalizing outbox with
  | zero => exact refl _
  | succ passes ih =>
      intro turn
      have begins := beginning landed
      cases room : outbox.mailbox.hasRoom with
      | false =>
          rw [Mailbox.takePass_of_roomless waits room] at begins
          simpa [turn, Outbox.beginPasses, Mailbox.takePass_of_roomless waits room,
            Mailbox.orders_wakeJoiner] using begins
      | true =>
          by_cases empty : outbox.mailbox.queue = []
          · rw [Mailbox.takePass_of_empty waits room empty] at begins
            simpa [turn, Outbox.beginPasses, Mailbox.takePass_of_empty waits room empty,
              Mailbox.orders_wakeJoiner] using begins
          · rw [Mailbox.takePass_of_queued waits room empty] at begins
            simp only [turn]
            rw [beginPasses_of_queued passes waits room empty]
            have begunSized : outbox.begun.Sized := sized
            exact begins.step (pass begunSized emptied landed _
              fun _ sized emptied landed waits => ih sized emptied landed waits)

/-- A turn of a worker that waits for no send. -/
theorem work (sound : outbox.Sound) (landed : outbox.flight = none) :
    let turn : Turn (Outbox Handler) Role (Order Handler) Result := outbox.work
    Leads (outbox, .rests) (Effect.orders turn.2) (turn.1, .rests) := by
  intro turn
  have finished (busy : outbox.mailbox.worker ≠ .waiting) :
      Leads (outbox, .rests) (Effect.orders turn.2) (turn.1, .rests) := by
    simp only [turn]
    rw [Outbox.work, Outbox.beginPasses, Mailbox.takePass_of_not_waiting busy,
      Mailbox.orders_wakeJoiner]
    exact refl _
  rcases sound.rests landed with broken | ⟨emptied, waits | ⟨ended, _⟩⟩
  · exact finished (by simp [broken])
  · exact beginPasses _ sound.sized emptied landed waits
  · exact finished (by simp [ended])

end Leads

namespace Course

variable {course : Course Handler}

/-- These events make up a turn of the worker. -/
structure Completes (course : Course Handler) (events : List (Event Handler))
    (turn : Turn (Outbox Handler) Role (Order Handler) Reply) : Prop where
  outbox : (course.run events).outbox = turn.1
  rests : (course.run events).stage = .rests
  asks : asked (course.run events).log = asked course.log ++ Effect.orders turn.2

/-- A turn of the worker is nothing but its work, one piece after the other. -/
theorem turn_leads (rests : course.stage = .rests) (sound : course.outbox.Sound)
    (landed : course.outbox.flight = none) :
    ∃ pieces, course.Completes (List.replicate pieces .work)
      (component.resume 0 .worker course.outbox) := by
  have worked : component.resume 0 .worker course.outbox = course.outbox.work := by
    simp [component, landed]
  rw [worked]
  obtain ⟨pieces, there, made⟩ := @Leads.work Handler Reply _ sound landed course (by rw [rests])
  obtain ⟨state, stage⟩ := Prod.mk.inj there
  exact ⟨pieces, state, stage, made⟩

/-- The worker's send has ended. What is left is to tell it and to clear the batch. -/
theorem land_settles (course : Course Handler) {flight : Flight}
    (aloft : course.outbox.flight = some flight) (answer : Except Failure Nat) :
    let landed := course.land flight answer
    let told : List (Effect Role (Order Handler) Reply) := course.outbox.told answer
    landed.stage = .settles (Effect.orders told) flight ∧
      landed.outbox.cleared = course.outbox.settled answer ∧
      asked landed.log = asked course.log := by
  have payload : course.outbox.payload flight = course.outbox.carried := by
    rw [carried, aloft]
    rfl
  intro landed told
  cases answer with
  | ok _ =>
      refine ⟨rfl, ?_, ?_⟩
      · simp [landed, land, cleared, settled, countSent, payload, Except.isOk, Except.toBool]
      · simp [landed, land, asked, Entry.order?]
  | error failure =>
      refine ⟨?_, ?_, ?_⟩
      · simp only [told, Outbox.told, orders_reports, ← payload]
        rfl
      · simp [landed, land, cleared, settled, Except.isOk, Except.toBool]
      · simp [landed, land, asked, Entry.order?]

/-- So is the turn that the worker has when its send ends. -/
theorem land_leads (sound : course.outbox.Sound) {flight : Flight}
    (aloft : course.outbox.flight = some flight) (answer : Except Failure Nat) :
    ∃ pieces, course.Completes (.land answer :: List.replicate pieces .work)
      (component.answer 0 .worker answer course.outbox) := by
  let settled := course.outbox.settled answer
  let goesOn : Turn (Outbox Handler) Role (Order Handler) Reply :=
    (settled.workOn flight.rest).andThen Outbox.work
  have further : Leads (settled, .works flight.rest) (Effect.orders goesOn.2) (goesOn.1, .rests) :=
    Leads.pass (settled_sized sound.sized answer) (settled_emptied course.outbox answer) rfl
      flight.rest fun _ sized emptied landed waits =>
        Leads.beginPasses _ sized emptied landed waits
  obtain ⟨stage, same, quiet⟩ := course.land_settles aloft answer
  let told : List (Effect Role (Order Handler) Reply) := course.outbox.told answer
  have tells := @Leads.settling Handler (course.land flight answer).outbox
    (Effect.orders told) flight
  rw [same] at tells
  obtain ⟨pieces, there, made⟩ := tells.trans further (course.land flight answer) (by rw [stage])
  obtain ⟨state, rests⟩ := Prod.mk.inj there
  have landed : component.answer 0 .worker answer course.outbox = (goesOn.1, told ++ goesOn.2) :=
    landed_eq aloft answer
  have stepped : course.step (.land answer) = course.land flight answer := by
    rw [step, aloft]
    rfl
  have reached : course.run (.land answer :: List.replicate pieces .work) =
      (course.land flight answer).run (List.replicate pieces .work) :=
    congrArg (Course.run · (List.replicate pieces .work)) stepped
  refine ⟨pieces, ?_, ?_, ?_⟩
  · rw [reached, landed, state]
  · rw [reached, rests]
  · rw [reached, landed, Effect.orders_append, ← quiet]
    exact made

/-- A call that is not taken apart does what it does in one turn. -/
theorem call_eq (course : Course Handler) {made : Call Handler} (whole : made ≠ .dispose)
    (stays : made ≠ .close) :
    (course.step (.call made)).outbox =
      (component.start 0 (.caller course.calls) made course.outbox).1 := by
  cases made with
  | dispose => exact absurd rfl whole
  | close => exact absurd rfl stays
  | _ => rfl

/-- A dispose whose parts follow one another does what it does in one turn. -/
theorem dispose_leads (course : Course Handler) :
    let turn := component.start 0 (.caller course.calls) .dispose course.outbox
    let reached := course.run [.call .dispose, .finish course.errands.length]
    reached.outbox = turn.1 ∧ reached.errands = course.errands := by
  simp [run, step, call, component, start, detach, List.eraseIdx_append_of_length_le]

/-- So does a close. -/
theorem close_leads (course : Course Handler) :
    let turn := component.start 0 (.caller course.calls) .close course.outbox
    let reached := course.run [.call .close, .finish course.errands.length]
    reached.outbox = turn.1 ∧ reached.errands = course.errands := by
  cases joined : course.outbox.mailbox.join (.caller course.calls) with
  | mk mailbox waits =>
      cases waits with
      | true => simp [run, step, call, component, start, joined]
      | false =>
          simp [run, step, call, component, start, joined, detach,
            List.eraseIdx_append_of_length_le]

end Course

end Outbox

end ReliableTransport
