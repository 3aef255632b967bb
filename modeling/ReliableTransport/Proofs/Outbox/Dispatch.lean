import ReliableTransport.Proofs.Outbox.Turns
import ReliableTransport.Proofs.Settings
/-!
This module runs an outbox over a transport and keeps its accounts: which messages were submitted,
which sends began, and how they end. Calls, turns of the worker and the ends of sends come in any
order. Every message is in exactly one place: in a send, among the refused ones, or still to come.
-/

namespace ReliableTransport

namespace Outbox

open Mailbox (Role)

/-- A send that began, the messages in it, and how it ends. -/
structure Send where
  delivery : Delivery
  messages : List Bytes
  ending : Except Failure Nat

namespace Send

def succeeds (send : Send) : Bool := send.ending.isOk

/-- The messages of each send that succeeds. -/
def loads (sends : List Send) : List (List Bytes) := (sends.filter succeeds).map messages

theorem loads_append (front back : List Send) :
    loads (front ++ back) = loads front ++ loads back := by
  rw [loads, List.filter_append, List.map_append]
  rfl

theorem loads_singleton (send : Send) :
    loads [send] = if send.succeeds then [send.messages] else [] := by
  cases succeeded : send.succeeds with
  | true => simp [loads, succeeded]
  | false => simp [loads, succeeded]

/-- The sends that a turn begins with the messages that its outbox carries. -/
def begun {Handler Result : Type} (messages : List Bytes) (ending : Except Failure Nat)
    (effects : List (Effect Role (Order Handler) Result)) : List Send :=
  (Effect.orders effects).filterMap fun order =>
    match order with
    | .send delivery => some { delivery, messages, ending }
    | .report _ _ _ => none

end Send

variable {Handler : Type}

/-- The messages that a call submits. -/
def Call.messages : Call Handler → List Bytes
  | .send messages => messages
  | .sendRange data offset length => (Word.range? data offset length).toList
  | .deliver delivery => [message delivery]
  | _ => []

/-- The call neither resets the counts nor ends the outbox. -/
def Call.runs : Call Handler → Bool
  | .reset | .close | .dispose => false
  | _ => true

/-- What a call leaves of an outbox that it hands messages in to. -/
structure Takes (outbox : Outbox Handler) (messages : List Bytes) (next : Outbox Handler) :
    Prop where
  /-- An open outbox has them at the end of its queue. -/
  queues : outbox.mailbox.closed = false → outbox.mailbox.isOver = false → next =
    { outbox with mailbox := { outbox.mailbox with queue := outbox.mailbox.queue ++ messages } }
  /-- One that is closed, or whose worker is over, drops them. -/
  drops : outbox.mailbox.closed = true ∨ outbox.mailbox.isOver = true → next = outbox

theorem queue_takes (outbox : Outbox Handler) (messages : List Bytes) :
    outbox.Takes messages (outbox.queue messages) where
  queues isOpen alive := by rw [queue, Mailbox.pushAll_of_open isOpen alive]
  drops shut := by rw [queue, Mailbox.pushAll_of_shut (Bool.or_eq_true_iff.mpr shut)]

/-- An outbox and what happened to it so far. -/
structure Dispatch (Handler : Type) where
  outbox : Outbox Handler
  submitted : List Bytes := []
  sends : List Send := []
  effects : List (Effect Role (Order Handler) Reply) := []

namespace Dispatch

/-- What can happen to an outbox. A send that begins in a turn ends as the event says. -/
inductive Event (Handler : Type) where
  | call (caller : Nat) (made : Call Handler)
  | resume (task : Role) (ending : Except Failure Nat)
  /-- The worker's send ends, and another one may begin. -/
  | land (ending : Except Failure Nat)
  | abandon (task : Role)

namespace Event

/-- The messages that an event submits. -/
def messages : Event Handler → List Bytes
  | .call _ made => made.messages
  | _ => []

/-- The end of a send that begins with the event. -/
def ending : Event Handler → Except Failure Nat
  | .resume _ ending | .land ending => ending
  | _ => .ok 0

/-- The event neither resets the counts nor ends the outbox. -/
def runs : Event Handler → Bool
  | .call _ made => made.runs
  | _ => true

end Event

/-- The turn that an event gives the outbox. -/
def turn (dispatch : Dispatch Handler) :
    Event Handler → Turn (Outbox Handler) Role (Order Handler) Reply
  | .call caller made => component.start 0 (.caller caller) made dispatch.outbox
  | .resume task _ => component.resume 0 task dispatch.outbox
  | .land _ =>
    match dispatch.sends.getLast? with
    | some send => component.answer 0 .worker send.ending dispatch.outbox
    | none => (dispatch.outbox, [])
  | .abandon task => component.abandon task dispatch.outbox

/-- The sends that begin with an event. -/
def begun (dispatch : Dispatch Handler) (event : Event Handler) : List Send :=
  Send.begun (dispatch.turn event).1.carried event.ending (dispatch.turn event).2

def step (dispatch : Dispatch Handler) (event : Event Handler) : Dispatch Handler where
  outbox := (dispatch.turn event).1
  submitted := dispatch.submitted ++ event.messages
  sends := dispatch.sends ++ dispatch.begun event
  effects := dispatch.effects ++ (dispatch.turn event).2

def run (dispatch : Dispatch Handler) (events : List (Event Handler)) : Dispatch Handler :=
  events.foldl step dispatch

end Dispatch

section Counts

variable {outbox : Outbox Handler} {send : Send}

/-- A send that has ended is counted if it succeeded. -/
theorem settled_messageCount (carried : send.messages = outbox.carried) :
    (outbox.settled send.ending).messageCount =
      outbox.messageCount + UInt64.ofNat (Send.loads [send]).flatten.length := by
  rw [Send.loads_singleton, settled, ← carried]
  cases succeeded : send.succeeds with
  | true => simp [show send.ending.isOk = true from succeeded]
  | false => simp [show send.ending.isOk = false from succeeded]

theorem settled_packageCount (outbox : Outbox Handler) (send : Send) :
    (outbox.settled send.ending).packageCount =
      outbox.packageCount + UInt64.ofNat (Send.loads [send]).length := by
  rw [Send.loads_singleton, settled]
  cases succeeded : send.succeeds with
  | true => simp [show send.ending.isOk = true from succeeded]
  | false => simp [show send.ending.isOk = false from succeeded]

end Counts

section Begun

variable {Result : Type} (messages : List Bytes) (ending : Except Failure Nat)

theorem begun_nil :
    Send.begun messages ending ([] : List (Effect Role (Order Handler) Result)) = [] := rfl

theorem begun_append (front back : List (Effect Role (Order Handler) Result)) :
    Send.begun messages ending (front ++ back) =
      Send.begun messages ending front ++ Send.begun messages ending back := by
  rw [Send.begun, Effect.orders_append, List.filterMap_append]
  rfl

/-- What handlers are told begins no send. -/
theorem begun_reports (outbox : Outbox Handler) (failure : Failure) (payload : List Bytes) :
    Send.begun messages ending
      (outbox.reports failure payload : List (Effect Role (Order Handler) Result)) = [] := by
  rw [reports]
  induction outbox.handlers.handlers with
  | nil => rfl
  | cons handler rest ih => exact ih

theorem begun_refusals (outbox : Outbox Handler) (admits : Bytes → Bool) (gone : List Bytes) :
    Send.begun messages ending
      (outbox.refusals admits gone : List (Effect Role (Order Handler) Result)) = [] := by
  rw [refusals]
  induction gone.filter fun message => !admits message with
  | nil => rfl
  | cons message rest ih =>
      rw [List.flatMap_cons, begun_append, begun_reports, ih]
      rfl

theorem begun_told (outbox : Outbox Handler) (answer : Except Failure Nat) :
    Send.begun messages ending
      (outbox.told answer : List (Effect Role (Order Handler) Result)) = [] := by
  cases answer with
  | ok _ => rfl
  | error failure => exact begun_reports messages ending outbox failure _

theorem begun_wakeJoiner (mailbox : Mailbox Bytes) :
    Send.begun messages ending
      (mailbox.wakeJoiner : List (Effect Role (Order Handler) Result)) = [] := by
  rw [Send.begun, Mailbox.orders_wakeJoiner]
  rfl

/-- A turn of the worker that ends with a send begins this send and no other. -/
theorem begun_of_stops {outbox : Outbox Handler}
    {last : List (Effect Role (Order Handler) Result)} (stops : Stops outbox last) :
    outbox.flight = none ∧ Send.begun messages ending last = [] ∨
      outbox.flight.isSome ∧ ∃ delivery, Carries outbox.batch.isSome delivery outbox.carried ∧
        Send.begun messages ending last = [{ delivery, messages, ending }] := by
  cases stops with
  | rests landed empty => exact Or.inl ⟨landed, begun_wakeJoiner messages ending outbox.mailbox⟩
  | @flies delivery aloft carries => exact Or.inr ⟨aloft, delivery, carries, rfl⟩

theorem begun_wakeWorker (mailbox : Mailbox Bytes) :
    Send.begun messages ending
      (mailbox.wakeWorker : List (Effect Role (Order Handler) Result)) = [] := by
  rw [Send.begun, Mailbox.orders_wakeWorker]
  rfl

end Begun

namespace Dispatch

/-- The sends that are over. The send that the worker waits for is the latest one. -/
def Ended (dispatch : Dispatch Handler) (ended : List Send) : Prop :=
  dispatch.outbox.flight = none ∧ ended = dispatch.sends ∨
    dispatch.outbox.flight.isSome ∧ ∃ send, dispatch.sends = ended ++ [send] ∧
      send.messages = dispatch.outbox.carried

theorem Ended.all {dispatch : Dispatch Handler} {ended : List Send}
    (isEnded : dispatch.Ended ended) (landed : dispatch.outbox.flight = none) :
    ended = dispatch.sends := by
  rcases isEnded with ⟨_, all⟩ | ⟨aloft, _⟩
  · exact all
  · rw [landed] at aloft
    cases aloft

/-- The accounts of an outbox whose worker has messages at hand. A submitted message was sent or
refused, is at hand, or is still to come. The counts are those of the sends that are over. -/
structure Accounts (dispatch : Dispatch Handler) (ahead : List Bytes) : Prop where
  split : ∃ gone, dispatch.submitted = gone ++ (ahead ++ dispatch.outbox.unsent) ∧
    dispatch.sends.flatMap Send.messages = gone.filter dispatch.outbox.admits
  carries : ∀ send ∈ dispatch.sends,
    Carries dispatch.outbox.batch.isSome send.delivery send.messages
  counted : ∃ ended, dispatch.Ended ended ∧
    dispatch.outbox.messageCount = UInt64.ofNat (Send.loads ended).flatten.length ∧
    dispatch.outbox.packageCount = UInt64.ofNat (Send.loads ended).length
  spacious : dispatch.outbox.Spacious dispatch.submitted

/-- The accounts after the worker's send has ended. -/
theorem Accounts.settle {dispatch : Dispatch Handler} {flight : Flight}
    (accounts : dispatch.Accounts []) (aloft : dispatch.outbox.flight = some flight) :
    ∃ send, dispatch.sends.getLast? = some send ∧
      Accounts { dispatch with outbox := dispatch.outbox.settled send.ending } flight.rest := by
  obtain ⟨ended, ⟨landed, _⟩ | ⟨_, send, split, content⟩, messageCount, packageCount⟩ :=
    accounts.counted
  · rw [landed] at aloft
    cases aloft
  · have alike := dispatch.outbox.settled_alike send.ending
    have admits := admits_of_bounds alike.bounds
    refine ⟨send, by rw [split, List.getLast?_concat], ?_, ?_, ⟨_, Or.inl ⟨rfl, rfl⟩, ?_, ?_⟩, ?_⟩
    · obtain ⟨gone, submitted, sent⟩ := accounts.split
      refine ⟨gone, ?_, by rw [admits]; exact sent⟩
      rw [submitted, unsent_of_aloft aloft]
      rfl
    · intro other member
      rw [alike.batched]
      exact accounts.carries other member
    · rw [settled_messageCount content, messageCount, split, Send.loads_append,
        List.flatten_append, List.length_append, UInt64.ofNat_add]
    · rw [settled_packageCount, packageCount, split, Send.loads_append, List.length_append,
        UInt64.ofNat_add]
    · exact alike.spacious accounts.spacious

/-- The accounts after a turn of the worker. -/
theorem Accounts.advance {dispatch : Dispatch Handler} {ahead gone : List Bytes}
    {last : List (Effect Role (Order Handler) Reply)}
    {turn : Turn (Outbox Handler) Role (Order Handler) Reply} (accounts : dispatch.Accounts ahead)
    (landed : dispatch.outbox.flight = none)
    (advances : Advances dispatch.outbox ahead gone last turn) (ending : Except Failure Nat)
    (effects : List (Effect Role (Order Handler) Reply)) :
    Accounts
      { outbox := turn.1
        submitted := dispatch.submitted
        sends := dispatch.sends ++ Send.begun turn.1.carried ending turn.2
        effects } [] := by
  obtain ⟨before, submitted, sent⟩ := accounts.split
  obtain ⟨ended, isEnded, messageCount, packageCount⟩ := accounts.counted
  have admits := admits_of_bounds advances.bounds
  have batched := advances.alike.batched
  have begun : Send.begun turn.1.carried ending turn.2 = Send.begun turn.1.carried ending last := by
    rw [advances.effects, begun_append, begun_refusals, List.nil_append]
  obtain rfl := isEnded.all landed
  have spacious := advances.alike.spacious accounts.spacious
  have messageCount : turn.1.messageCount = _ :=
    (congrArg Outbox.messageCount advances.frame).trans messageCount
  have packageCount : turn.1.packageCount = _ :=
    (congrArg Outbox.packageCount advances.frame).trans packageCount
  have split : dispatch.submitted = before ++ gone ++ ([] ++ turn.1.unsent) := by
    rw [submitted, unsent_of_landed landed, advances.split, List.append_assoc, List.nil_append]
  rcases begun_of_stops turn.1.carried ending advances.stops with
    ⟨rests, nothing⟩ | ⟨aloft, delivery, carries, send⟩
  · rw [begun, nothing, List.append_nil]
    have none : gone.filter dispatch.outbox.admits = [] := by
      rw [← advances.content, carried, rests]
      rfl
    refine ⟨⟨before ++ gone, split, ?_⟩, ?_,
      ⟨_, Or.inl ⟨rests, rfl⟩, messageCount, packageCount⟩, spacious⟩
    · rw [admits, List.filter_append, none, List.append_nil]
      exact sent
    · rw [batched]
      exact accounts.carries
  · rw [begun, send]
    refine ⟨⟨before ++ gone, split, ?_⟩, ?_,
      ⟨_, Or.inr ⟨aloft, _, rfl, rfl⟩, messageCount, packageCount⟩, spacious⟩
    · rw [admits, List.filter_append, ← sent, ← advances.content, List.flatMap_append]
      simp
    · intro other member
      rcases List.mem_append.mp member with earlier | latest
      · rw [batched]
        exact accounts.carries other earlier
      · rw [List.mem_singleton.mp latest]
        exact carries

/-- An outbox that takes messages, with its accounts. -/
structure Running (dispatch : Dispatch Handler) : Prop where
  steady : dispatch.outbox.Steady
  isOpen : dispatch.outbox.mailbox.closed = false
  accounts : dispatch.Accounts []

/-- Messages that are put into the queue are still to come. -/
theorem Running.submit {dispatch : Dispatch Handler} (running : dispatch.Running)
    {messages : List Bytes} (spacious : dispatch.outbox.Spacious messages)
    (handlers : Registry Handler) (effects : List (Effect Role (Order Handler) Reply)) :
    Running
      { outbox :=
          { dispatch.outbox with
            mailbox :=
              { dispatch.outbox.mailbox with queue := dispatch.outbox.mailbox.queue ++ messages }
            handlers }
        submitted := dispatch.submitted ++ messages
        sends := dispatch.sends
        effects } := by
  obtain ⟨⟨attached, room, sized, flies, rests⟩, isOpen, split, carries, counted, roomy⟩ :=
    running
  refine ⟨⟨attached, room, sized, flies, ?_⟩, isOpen, ?_, carries, counted, ?_⟩
  · intro landed
    obtain ⟨emptied, waits | ⟨_, closed, _⟩⟩ := rests landed
    · exact ⟨emptied, Or.inl waits⟩
    · rw [isOpen] at closed
      cases closed
  · obtain ⟨gone, submitted, sent⟩ := split
    refine ⟨gone, ?_, sent⟩
    simp only [submitted, unsent, List.append_assoc]
  · intro batched member
    rcases List.mem_append.mp member with earlier | latest
    · exact roomy batched earlier
    · exact spacious batched latest

/-- The worker of an open outbox goes on. -/
theorem Running.goesOn {dispatch : Dispatch Handler} (running : dispatch.Running) :
    dispatch.outbox.mailbox.isOver = false := by
  rw [Mailbox.isOver]
  cases flight : dispatch.outbox.flight with
  | some _ =>
      rw [running.steady.flies (by rw [flight]; rfl)]
      rfl
  | none =>
      obtain ⟨_, waits | ⟨_, closed, _⟩⟩ := running.steady.rests flight
      · rw [waits]
        rfl
      · rw [running.isOpen] at closed
        cases closed

/-- A call that lets the outbox run queues its messages and begins no send. -/
theorem Running.start {dispatch : Dispatch Handler} (running : dispatch.Running) (task : Role)
    {made : Call Handler} (runs : made.runs = true) :
    ∃ handlers, (dispatch.outbox.start task made).1 =
        { dispatch.outbox with
          mailbox :=
            { dispatch.outbox.mailbox with
              queue := dispatch.outbox.mailbox.queue ++ made.messages }
          handlers } ∧
      ∀ messages ending, Send.begun messages ending (dispatch.outbox.start task made).2 = [] := by
  have pushed := Mailbox.pushAll_of_open running.isOpen running.goesOn
  have quiet (mailbox : Mailbox Bytes) (reply : Reply) (messages : List Bytes)
      (ending : Except Failure Nat) :
      Send.begun messages ending
        (mailbox.wakeWorker ++ [.done task reply] : List (Effect Role (Order Handler) Reply)) =
          [] := by
    rw [begun_append, begun_wakeWorker]
    rfl
  cases made with
  | send messages =>
      exact ⟨dispatch.outbox.handlers, by simp only [Outbox.start, queue, pushed]; rfl, quiet _ _⟩
  | sendRange data offset length =>
      cases found : Word.range? data offset length with
      | none =>
          refine ⟨dispatch.outbox.handlers, ?_, fun _ _ => ?_⟩
          · simp [Outbox.start, found, Call.messages]
          · simp only [Outbox.start, found]
            rfl
      | some message =>
          refine ⟨dispatch.outbox.handlers, ?_, ?_⟩
          · simp only [Outbox.start, found, queue, pushed, Call.messages, Option.toList_some]
          · simp only [Outbox.start, found]
            exact quiet _ _
  | deliver delivery =>
      exact ⟨dispatch.outbox.handlers, by simp only [Outbox.start, queue, pushed]; rfl, quiet _ _⟩
  | subscribe handler =>
      exact ⟨(dispatch.outbox.handlers.subscribe handler).1,
        by simp [Outbox.start, Call.messages], fun _ _ => rfl⟩
  | unsubscribe id =>
      exact ⟨(dispatch.outbox.handlers.unsubscribe id).1,
        by simp [Outbox.start, Call.messages], fun _ _ => rfl⟩
  | reset | close | dispose => cases runs

theorem step_eq {dispatch : Dispatch Handler} {event : Event Handler} {outbox : Outbox Handler}
    {effects : List (Effect Role (Order Handler) Reply)}
    (turned : dispatch.turn event = (outbox, effects)) :
    dispatch.step event =
      { outbox
        submitted := dispatch.submitted ++ event.messages
        sends := dispatch.sends ++ Send.begun outbox.carried event.ending effects
        effects := dispatch.effects ++ effects } := by
  rw [step, begun, turned]

/-- An event that leaves the outbox alone. -/
theorem Running.rest {dispatch : Dispatch Handler} (running : dispatch.Running)
    {event : Event Handler} (silent : event.messages = [])
    (turned : dispatch.turn event = (dispatch.outbox, [])) :
    (dispatch.step event).Running ∧ (dispatch.step event).outbox.Alike dispatch.outbox := by
  rw [step_eq turned, silent, begun_nil, List.append_nil, List.append_nil]
  obtain ⟨split, carries, counted, spacious⟩ := running.accounts
  exact ⟨⟨running.steady, running.isOpen, split, carries, counted, spacious⟩, rfl, rfl⟩

/-- A turn of the worker keeps the accounts. A send that ended before it is settled. -/
theorem Running.advance {dispatch : Dispatch Handler} (running : dispatch.Running)
    {outbox : Outbox Handler} {ahead gone : List Bytes}
    {told last : List (Effect Role (Order Handler) Reply)}
    {turn : Turn (Outbox Handler) Role (Order Handler) Reply} {event : Event Handler}
    (silent : event.messages = []) (accounts : Accounts { dispatch with outbox } ahead)
    (landed : outbox.flight = none) (same : outbox.mailbox = dispatch.outbox.mailbox)
    (alike : outbox.Alike dispatch.outbox) (advances : Advances outbox ahead gone last turn)
    (quiet : ∀ messages ending, Send.begun messages ending told = [])
    (turned : dispatch.turn event = (turn.1, told ++ turn.2)) :
    (dispatch.step event).Running ∧ (dispatch.step event).outbox.Alike dispatch.outbox := by
  rw [step_eq turned, silent, List.append_nil, begun_append, quiet, List.nil_append]
  refine ⟨⟨advances.steady, ?_, ?_⟩, advances.alike.trans alike⟩
  · rw [advances.mailbox, same]
    exact running.isOpen
  · exact accounts.advance landed advances event.ending _

theorem Running.room {dispatch : Dispatch Handler} (running : dispatch.Running) :
    dispatch.outbox.Spacious dispatch.outbox.unsent := by
  obtain ⟨gone, submitted, _⟩ := running.accounts.split
  apply running.accounts.spacious.mono
  rw [submitted]
  exact List.subset_append_right _ _

/-- A worker that does not wait for a send takes queued messages. -/
theorem Running.resumes {dispatch : Dispatch Handler} (running : dispatch.Running)
    (landed : dispatch.outbox.flight = none) (ending : Except Failure Nat) :
    ∃ gone last,
      Advances dispatch.outbox [] gone last (dispatch.turn (.resume .worker ending)) := by
  have worked : dispatch.turn (.resume .worker ending) = dispatch.outbox.work := by
    simp [turn, component, landed]
  rw [worked]
  exact work_advances running.steady landed (unsent_of_landed landed ▸ running.room)

/-- A worker whose send has ended settles it and goes on with the rest of the pass. -/
theorem Running.lands {dispatch : Dispatch Handler} (running : dispatch.Running) {flight : Flight}
    (aloft : dispatch.outbox.flight = some flight) (ending : Except Failure Nat) :
    ∃ (send : Send) (gone : List Bytes) (last : List (Effect Role (Order Handler) Reply))
        (turn : Turn (Outbox Handler) Role (Order Handler) Reply),
      Accounts { dispatch with outbox := dispatch.outbox.settled send.ending } flight.rest ∧
        dispatch.turn (.land ending) = (turn.1, dispatch.outbox.told send.ending ++ turn.2) ∧
        Advances (dispatch.outbox.settled send.ending) flight.rest gone last turn := by
  obtain ⟨send, latest, accounts⟩ := running.accounts.settle aloft
  obtain ⟨gone, last, turn, turned, advances⟩ :=
    landed_advances running.steady aloft running.room send.ending
  refine ⟨send, gone, last, turn, accounts, ?_, advances⟩
  rw [Dispatch.turn, latest]
  exact turned

/-- Every event that lets the outbox run keeps the accounts. -/
theorem Running.step {dispatch : Dispatch Handler} (running : dispatch.Running)
    {event : Event Handler} (runs : event.runs = true)
    (spacious : dispatch.outbox.Spacious event.messages) :
    (dispatch.step event).Running ∧ (dispatch.step event).outbox.Alike dispatch.outbox := by
  cases event with
  | call caller made =>
      obtain ⟨handlers, reached, quiet⟩ := running.start (.caller caller) runs
      rw [Dispatch.step, begun, turn, component]
      simp only [reached, quiet, List.append_nil]
      exact ⟨running.submit spacious handlers _, rfl, rfl⟩
  | resume task ending =>
      cases task with
      | worker =>
          cases aloft : dispatch.outbox.flight with
          | some flight => exact running.rest rfl (by simp [turn, component, aloft])
          | none =>
              obtain ⟨gone, last, advances⟩ := running.resumes aloft ending
              exact running.advance rfl running.accounts aloft rfl ⟨rfl, rfl⟩ advances
                (begun_nil · ·) rfl
      | caller number =>
          exact running.rest rfl (by simp [turn, component, running.goesOn])
  | land ending =>
      cases aloft : dispatch.outbox.flight with
      | none =>
          apply running.rest rfl
          rw [turn]
          split
          · simp [component, landed, aloft]
          · rfl
      | some flight =>
          obtain ⟨send, gone, last, turn, accounts, turned, advances⟩ := running.lands aloft ending
          exact running.advance rfl accounts rfl rfl (dispatch.outbox.settled_alike send.ending)
            advances (begun_told · · dispatch.outbox send.ending) turned
  | abandon task =>
      by_cases joined : dispatch.outbox.mailbox.joiner = some task
      · have left : dispatch.outbox.mailbox.unjoin task =
            { dispatch.outbox.mailbox with joiner := none } := if_pos joined
        have silent : (Event.abandon task : Event Handler).messages = [] := rfl
        rw [Dispatch.step, begun, turn, component]
        simp only [left, begun_nil, silent, List.append_nil]
        obtain ⟨⟨attached, room, sized, flies, rests⟩, isOpen, split, carries, counted, roomy⟩ :=
          running
        exact ⟨⟨⟨attached, room, sized, flies, rests⟩, isOpen, split, carries, counted, roomy⟩,
          rfl, rfl⟩
      · have left : dispatch.outbox.mailbox.unjoin task = dispatch.outbox.mailbox := if_neg joined
        exact running.rest rfl (by simp [turn, component, left])

/-- Every run that lets the outbox run keeps the accounts. -/
theorem Running.run {start : Dispatch Handler} (running : start.Running)
    {events : List (Event Handler)} (runs : ∀ event ∈ events, event.runs = true)
    (spacious : ∀ event ∈ events, start.outbox.Spacious event.messages) :
    (start.run events).Running ∧ (start.run events).outbox.Alike start.outbox := by
  induction events generalizing start with
  | nil => exact ⟨running, rfl, rfl⟩
  | cons event rest ih =>
      obtain ⟨stepped, alike⟩ :=
        running.step (runs event List.mem_cons_self) (spacious event List.mem_cons_self)
      obtain ⟨reached, further⟩ := ih stepped
        (fun other member => runs other (List.mem_cons_of_mem _ member))
        (fun other member => alike.spacious (spacious other (List.mem_cons_of_mem _ member)))
      exact ⟨reached, further.trans alike⟩

/-- The outbox is given nothing, and its worker has nothing to do. -/
def Rests (dispatch : Dispatch Handler) : Prop :=
  dispatch.outbox.flight = none ∧ dispatch.outbox.mailbox.queue = []

/-- The event lets the worker go on and submits nothing. -/
def Event.Silent (event : Event Handler) : Prop := event.runs = true ∧ event.messages = []

theorem Running.step_silent {dispatch : Dispatch Handler} (running : dispatch.Running)
    {event : Event Handler} (silent : event.Silent) : (dispatch.step event).Running := by
  refine (running.step silent.1 ?_).1
  rw [silent.2]
  exact spacious_nil dispatch.outbox

/-- A worker whose sends all end comes to rest. Each send takes a message at least, so the messages
that are still to come bound the sends. -/
theorem Running.exists_landed (bound : Nat) {dispatch : Dispatch Handler}
    (running : dispatch.Running)
    (busy : dispatch.Rests ∨
      dispatch.outbox.flight.isSome ∧ dispatch.outbox.unsent.length < bound) :
    ∃ events : List (Event Handler), (∀ event ∈ events, event.Silent) ∧
      (dispatch.run events).Rests := by
  induction bound generalizing dispatch with
  | zero =>
      rcases busy with rests | ⟨_, none⟩
      · exact ⟨[], by simp, rests⟩
      · omega
  | succ bound ih =>
      rcases busy with rests | ⟨flies, shorter⟩
      · exact ⟨[], by simp, rests⟩
      · obtain ⟨flight, aloft⟩ := Option.isSome_iff_exists.mp flies
        have silent : (.land (.ok 0) : Event Handler).Silent := ⟨rfl, rfl⟩
        obtain ⟨send, gone, last, turn, _, turned, advances⟩ := running.lands aloft (.ok 0)
        have reached : (dispatch.step (.land (.ok 0))).outbox = turn.1 := by
          rw [Dispatch.step, turned]
        have same : (dispatch.outbox.settled send.ending).mailbox = dispatch.outbox.mailbox := rfl
        have shortened := advances.shortens
        rw [← reached, same, ← unsent_of_aloft aloft] at shortened
        obtain ⟨events, silents, rests⟩ := ih (running.step_silent silent) (by
          rcases shortened with rests | ⟨flies, fewer⟩
          · exact Or.inl rests
          · exact Or.inr ⟨flies, by omega⟩)
        exact ⟨.land (.ok 0) :: events, List.forall_mem_cons.mpr ⟨silent, silents⟩, rests⟩

/-- A running outbox can always come to rest. -/
theorem Running.exists_rest {dispatch : Dispatch Handler} (running : dispatch.Running) :
    ∃ events : List (Event Handler), (∀ event ∈ events, event.Silent) ∧
      (dispatch.run events).Rests := by
  cases aloft : dispatch.outbox.flight with
  | some flight =>
      exact running.exists_landed _ (Or.inr ⟨by rw [aloft]; rfl, Nat.lt_succ_self _⟩)
  | none =>
      have silent : (.resume .worker (.ok 0) : Event Handler).Silent := ⟨rfl, rfl⟩
      obtain ⟨gone, last, advances⟩ := running.resumes aloft (.ok 0)
      have shortened := advances.shortens
      obtain ⟨events, silents, rests⟩ := (running.step_silent silent).exists_landed _ (by
        rcases shortened with rests | ⟨flies, fewer⟩
        · exact Or.inl rests
        · exact Or.inr ⟨flies, fewer⟩)
      exact ⟨.resume .worker (.ok 0) :: events, List.forall_mem_cons.mpr ⟨silent, silents⟩, rests⟩

end Dispatch

/-- A new outbox with batches has nothing to do, and its accounts are empty. -/
theorem create_running {settings : OutboxSettings} {maxFrame : Nat}
    (valid : settings.check = .ok ())
    (room : Memory.hasRoom settings.messagesPerPass Bytes.slotSize = true) :
    ∃ outbox : Outbox Handler, create settings maxFrame = .ok (.ok outbox) ∧
      Dispatch.Running { outbox } ∧ outbox.packageSize = settings.packageSize ∧
      outbox.batch = if settings.batched then some (Batch.withMaxSize maxFrame) else none := by
  have positive := ((OutboxSettings.check_ok_iff settings).mp valid).2.2
  have created : Mailbox.create settings.messagesPerPass Bytes.slotSize =
      .ok ({ limit := settings.messagesPerPass, limit_pos := positive } : Mailbox Bytes) := by
    rw [Mailbox.create, dif_pos positive, room]
  let outbox : Outbox Handler :=
    { mailbox := { limit := settings.messagesPerPass, limit_pos := positive }
      packageSize := settings.packageSize
      batch := if settings.batched then some (Batch.withMaxSize maxFrame) else none }
  have fresh (batch : Batch) (kept : batch ∈ outbox.batch) :
      batch = Batch.withMaxSize maxFrame := by
    simp only [outbox] at kept
    split at kept
    · exact (Option.some.inj kept).symm
    · cases kept
  have sized : outbox.Sized := by
    intro batch kept
    rw [fresh batch kept]
    exact ⟨rfl, Nat.min_le_right _ _⟩
  have emptied : outbox.Emptied := by
    intro batch kept
    rw [fresh batch kept]
    rfl
  have steady : outbox.Steady := by
    refine ⟨rfl, rfl, sized, ?_, fun _ => ⟨emptied, Or.inl rfl⟩⟩
    intro aloft
    cases aloft
  have accounts : Dispatch.Accounts { outbox } [] := by
    refine ⟨⟨[], rfl, rfl⟩, ?_, ⟨[], Or.inl ⟨rfl, rfl⟩, rfl, rfl⟩, ?_⟩
    · intro send member
      cases member
    · intro _ member
      cases member
  refine ⟨outbox, ?_, ⟨steady, rfl, accounts⟩, rfl, rfl⟩
  simp only [create, valid, created, bind, Except.bind, pure, Except.pure]
  rfl

end Outbox

end ReliableTransport
