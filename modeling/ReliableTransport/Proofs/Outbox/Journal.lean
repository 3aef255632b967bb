import Mathlib.Data.List.Basic
import ReliableTransport.Proofs.Outbox.Dispatch
/-!
This module keeps a journal of an outbox: the messages that it accepted, the sends that began and
ended, and what the handlers were told. While the outbox has its transport, the accepted messages go
with the sends or are refused, each once and in order, and nothing else is told to anybody.
-/

namespace ReliableTransport

namespace Outbox

open Mailbox (Role)

/-- What happens at an outbox. The handlers are those that are registered then. -/
inductive Deed (Handler : Type) where
  | begins (send : Send)
  /-- A send ends. The handlers are told if it failed. -/
  | ends (send : Send) (handlers : List Handler)
  /-- The handlers are told of a message that no batch takes. -/
  | refuses (message : Bytes) (handlers : List Handler)
  /-- The counts start again. -/
  | resets

variable {Handler : Type}

namespace Deed

/-- What a deed asks of the outside. -/
def orders : Deed Handler → List (Order Handler)
  | .begins send => [.send send.delivery]
  | .ends send handlers =>
    match send.ending with
    | .ok _ => []
    | .error failure => handlers.map fun handler => .report handler failure send.messages
  | .refuses message handlers =>
    handlers.map fun handler => .report handler (.invalidOperation .oversizeMessage) [message]
  | .resets => []

def ended? : Deed Handler → Option Send
  | .ends send _ => some send
  | _ => none

def refused? : Deed Handler → Option Bytes
  | .refuses message _ => some message
  | _ => none

/-- The sends that ended since the counts started, after a deed. -/
def count (counted : List Send) : Deed Handler → List Send
  | .ends send _ => counted ++ [send]
  | .resets => []
  | _ => counted

end Deed

namespace Dispatch

/-- The event starts the counts again. -/
def Event.restarts : Event Handler → Bool
  | .call _ .reset => true
  | _ => false

/-- The messages that the outbox takes with an event. A closed one takes none. -/
def accepts (dispatch : Dispatch Handler) (event : Event Handler) : List Bytes :=
  if dispatch.outbox.mailbox.closed || dispatch.outbox.mailbox.isOver then [] else event.messages

/-- The send that ends with an event. -/
def lands (dispatch : Dispatch Handler) : Event Handler → Option Send
  | .land _ => if dispatch.outbox.flight.isSome then dispatch.sends.getLast? else none
  | _ => none

/-- The messages that the worker comes to with an event. -/
def reaches (dispatch : Dispatch Handler) (event : Event Handler) : List Bytes :=
  dispatch.outbox.unsent.take
    (dispatch.outbox.unsent.length - (dispatch.turn event).1.unsent.length)

/-- What happens with an event. -/
def deeds (dispatch : Dispatch Handler) (event : Event Handler) : List (Deed Handler) :=
  let handlers := dispatch.outbox.handlers.handlers
  (dispatch.lands event).toList.map (.ends · handlers) ++
    ((dispatch.reaches event).filter fun message => !dispatch.outbox.admits message).map
      (.refuses · handlers) ++
    (dispatch.begun event).map .begins ++ if event.restarts then [.resets] else []

end Dispatch

/-- What a call puts into the queue of an outbox, closed or not. -/
theorem queue_eq (outbox : Outbox Handler) (messages : List Bytes) :
    outbox.queue messages =
      { outbox with
        mailbox :=
          { outbox.mailbox with
            queue := outbox.mailbox.queue ++
              if outbox.mailbox.closed || outbox.mailbox.isOver then [] else messages } } := by
  rw [queue]
  cases shut : outbox.mailbox.closed || outbox.mailbox.isOver with
  | true => simp [Mailbox.pushAll_of_shut shut]
  | false =>
      obtain ⟨isOpen, alive⟩ := Bool.or_eq_false_iff.mp shut
      simp [Mailbox.pushAll_of_open isOpen alive]

/-- A call that lets the outbox run queues its messages and asks nothing of the outside. -/
theorem start_of_runs (outbox : Outbox Handler) (task : Role) {made : Call Handler}
    (runs : made.runs = true) :
    ∃ handlers effects, outbox.start task made =
        ({ outbox with
          mailbox :=
            { outbox.mailbox with
              queue := outbox.mailbox.queue ++
                if outbox.mailbox.closed || outbox.mailbox.isOver then [] else made.messages }
          handlers }, effects) ∧
      Effect.orders effects = [] := by
  have quiet (mailbox : Mailbox Bytes) (reply : Reply) :
      Effect.orders (mailbox.wakeWorker ++ [.done task reply] :
        List (Effect Role (Order Handler) Reply)) = [] := by
    rw [Effect.orders_append, Mailbox.orders_wakeWorker]
    rfl
  cases made with
  | send messages =>
      refine ⟨outbox.handlers, (outbox.queue messages).mailbox.wakeWorker ++ [.done task .done],
        ?_, quiet _ _⟩
      rw [start, queue_eq]
      rfl
  | sendRange data offset length =>
      cases found : Word.range? data offset length with
      | none =>
          refine ⟨outbox.handlers,
            [.done task (.checked (.error (.invalidOperation .rangeOutsideBuffer)))], ?_, rfl⟩
          simp [start, found, Call.messages]
      | some message =>
          refine ⟨outbox.handlers,
            (outbox.queue [message]).mailbox.wakeWorker ++ [.done task (.checked (.ok ()))],
            ?_, quiet _ _⟩
          simp only [start, found, Call.messages, Option.toList_some]
          rw [queue_eq]
  | deliver delivery =>
      refine ⟨outbox.handlers, (outbox.queue [message delivery]).mailbox.wakeWorker ++
        [.done task (.length (message delivery).length)], ?_, quiet _ _⟩
      simp only [start, Call.messages]
      rw [queue_eq]
  | subscribe handler =>
      refine ⟨(outbox.handlers.subscribe handler).1,
        [.done task (.subscribed (outbox.handlers.subscribe handler).2)], ?_, rfl⟩
      simp [start, Call.messages]
  | unsubscribe id =>
      refine ⟨(outbox.handlers.unsubscribe id).1,
        [.done task (.unsubscribed (outbox.handlers.unsubscribe id).2)], ?_, rfl⟩
      simp [start, Call.messages]
  | reset | close | dispose => cases runs

/-- A run of an outbox, and what happened in it so far. -/
structure Journal (Handler : Type) where
  dispatch : Dispatch Handler
  accepted : List Bytes := []
  deeds : List (Deed Handler) := []

namespace Journal

open Dispatch (Event)

def step (journal : Journal Handler) (event : Event Handler) : Journal Handler where
  dispatch := journal.dispatch.step event
  accepted := journal.accepted ++ journal.dispatch.accepts event
  deeds := journal.deeds ++ journal.dispatch.deeds event

def run (journal : Journal Handler) (events : List (Event Handler)) : Journal Handler :=
  events.foldl step journal

/-- The sends that ended, in order. -/
def ended (journal : Journal Handler) : List Send := journal.deeds.filterMap Deed.ended?

/-- The messages that were refused, in order. -/
def refused (journal : Journal Handler) : List Bytes := journal.deeds.filterMap Deed.refused?

/-- The sends that ended since the counts started. -/
def counted (journal : Journal Handler) : List Send := journal.deeds.foldl Deed.count []

end Journal

section Orders

variable {Result : Type}

/-- The effects begin no send. -/
def Mute (effects : List (Effect Role (Order Handler) Result)) : Prop :=
  ∀ messages ending, Send.begun messages ending effects = []

theorem mute_of_orders {effects : List (Effect Role (Order Handler) Result)}
    (none : Effect.orders effects = []) : Mute effects := by
  intro messages ending
  rw [Send.begun, none]
  rfl

theorem Mute.append {front back : List (Effect Role (Order Handler) Result)} (first : Mute front)
    (second : Mute back) : Mute (front ++ back) := by
  intro messages ending
  rw [begun_append, first, second, List.append_nil]

theorem orders_reports (outbox : Outbox Handler) (failure : Failure) (payload : List Bytes) :
    Effect.orders
        (outbox.reports failure payload : List (Effect Role (Order Handler) Result)) =
      outbox.handlers.handlers.map fun handler => .report handler failure payload := by
  rw [reports]
  induction outbox.handlers.handlers with
  | nil => rfl
  | cons handler rest ih => simp [ih]

/-- Each refused message is told of once. -/
theorem orders_refusals (outbox : Outbox Handler) (admits : Bytes → Bool) (gone : List Bytes) :
    Effect.orders
        (outbox.refusals admits gone : List (Effect Role (Order Handler) Result)) =
      ((gone.filter fun message => !admits message).map
        (Deed.refuses · outbox.handlers.handlers)).flatMap Deed.orders := by
  rw [refusals]
  induction gone.filter fun message => !admits message with
  | nil => rfl
  | cons message rest ih =>
      rw [List.flatMap_cons, Effect.orders_append, orders_reports, ih]
      rfl

/-- A send that failed is told of once. -/
theorem orders_told (outbox : Outbox Handler) {send : Send}
    (carried : send.messages = outbox.carried) :
    Effect.orders
        (outbox.told send.ending : List (Effect Role (Order Handler) Result)) =
      (Deed.ends send outbox.handlers.handlers).orders := by
  cases ended : send.ending with
  | ok _ => simp [told, Deed.orders, ended, Effect.orders]
  | error failure => simp [told, Deed.orders, ended, orders_reports, carried]

/-- What a turn of the worker asks of the outside: the refusals, and the send that it ends with. -/
theorem Advances.begins {outbox : Outbox Handler} {ahead gone : List Bytes}
    {last : List (Effect Role (Order Handler) Result)}
    {turn : Turn (Outbox Handler) Role (Order Handler) Result}
    (advances : Advances outbox ahead gone last turn) (ending : Except Failure Nat) :
    ∃ sends, Send.begun turn.1.carried ending turn.2 = sends ∧
      sends.flatMap Send.messages = gone.filter outbox.admits ∧
      (∀ send ∈ sends, Carries outbox.batch.isSome send.delivery send.messages) ∧
      Effect.orders turn.2 = ((gone.filter fun message => !outbox.admits message).map
          (Deed.refuses · outbox.handlers.handlers)).flatMap Deed.orders ++
        (sends.map (Deed.begins : Send → Deed Handler)).flatMap Deed.orders ∧
      (turn.1.flight = none ∧ sends = [] ∨
        turn.1.flight.isSome ∧ ∃ send, sends = [send] ∧ send.messages = turn.1.carried) := by
  have begun : Send.begun turn.1.carried ending turn.2 =
      Send.begun turn.1.carried ending last := by
    rw [advances.effects, begun_append, begun_refusals, List.nil_append]
  have orders := congrArg Effect.orders advances.effects
  rw [Effect.orders_append, orders_refusals] at orders
  have stops := advances.stops
  rw [begun, orders, ← advances.content, ← advances.alike.batched]
  cases stops with
  | rests landed empty =>
      refine ⟨[], begun_wakeJoiner _ ending _, ?_, by simp, ?_, Or.inl ⟨landed, rfl⟩⟩
      · rw [carried, landed]
        rfl
      · rw [Mailbox.orders_wakeJoiner]
        rfl
  | @flies delivery aloft carries =>
      refine ⟨[{ delivery, messages := turn.1.carried, ending }], rfl, by simp, ?_, rfl,
        Or.inr ⟨aloft, _, rfl, rfl⟩⟩
      intro send member
      rw [List.mem_singleton.mp member]
      exact carries

end Orders

namespace Journal

open Dispatch (Event)

variable {journal : Journal Handler}

/-- The journal of an outbox whose worker has messages at hand. An accepted message went with a send
or was refused, is at hand, or is still to come. The outside was asked for what is written here and
for nothing else. -/
structure Entered (journal : Journal Handler) (ahead : List Bytes) : Prop where
  split : ∃ gone, journal.accepted = gone ++ (ahead ++ journal.dispatch.outbox.unsent) ∧
    journal.dispatch.sends.flatMap Send.messages =
      gone.filter journal.dispatch.outbox.admits ∧
    journal.refused = gone.filter fun message => !journal.dispatch.outbox.admits message
  carries : ∀ send ∈ journal.dispatch.sends,
    Carries journal.dispatch.outbox.batch.isSome send.delivery send.messages
  ended : journal.dispatch.Ended journal.ended
  told : Effect.orders journal.dispatch.effects = journal.deeds.flatMap Deed.orders
  messageCount : journal.dispatch.outbox.messageCount =
    UInt64.ofNat (Send.loads journal.counted).flatten.length
  packageCount : journal.dispatch.outbox.packageCount =
    UInt64.ofNat (Send.loads journal.counted).length

/-- The journal once the worker's send has ended. -/
def settled (journal : Journal Handler) (send : Send) : Journal Handler where
  dispatch :=
    { journal.dispatch with
      outbox := journal.dispatch.outbox.settled send.ending
      effects := journal.dispatch.effects ++ journal.dispatch.outbox.told send.ending }
  accepted := journal.accepted
  deeds := journal.deeds ++ [.ends send journal.dispatch.outbox.handlers.handlers]

/-- The journal after a turn of the worker in which messages were worked on. -/
def advanced (journal : Journal Handler) (gone : List Bytes)
    (turn : Turn (Outbox Handler) Role (Order Handler) Reply) (sends : List Send) :
    Journal Handler where
  dispatch :=
    { journal.dispatch with
      outbox := turn.1
      sends := journal.dispatch.sends ++ sends
      effects := journal.dispatch.effects ++ turn.2 }
  accepted := journal.accepted
  deeds := journal.deeds ++
    ((gone.filter fun message => !journal.dispatch.outbox.admits message).map
        (.refuses · journal.dispatch.outbox.handlers.handlers) ++ sends.map .begins)

theorem Entered.settle {flight : Flight} (entered : journal.Entered [])
    (aloft : journal.dispatch.outbox.flight = some flight) :
    ∃ send, journal.dispatch.sends.getLast? = some send ∧
      (journal.settled send).Entered flight.rest := by
  obtain ⟨landed, _⟩ | ⟨_, send, split, content⟩ := entered.ended
  · rw [landed] at aloft
    cases aloft
  · have alike := journal.dispatch.outbox.settled_alike send.ending
    have admits := admits_of_bounds alike.bounds
    have counted : (journal.settled send).counted = journal.counted ++ [send] := by
      rw [Journal.counted, settled, List.foldl_append]
      rfl
    refine ⟨send, by rw [split, List.getLast?_concat], ⟨?_, ?_, Or.inl ⟨rfl, ?_⟩, ?_, ?_, ?_⟩⟩
    · obtain ⟨gone, accepted, sent, refused⟩ := entered.split
      refine ⟨gone, ?_, ?_, ?_⟩
      · exact accepted.trans (by rw [unsent_of_aloft aloft]; rfl)
      · rw [settled, admits]
        exact sent
      · rw [settled, admits, Journal.refused, List.filterMap_append]
        exact (List.append_nil _).trans refused
    · intro other member
      rw [settled, alike.batched]
      exact entered.carries other member
    · rw [Journal.ended, settled, List.filterMap_append]
      exact split.symm
    · rw [settled, Effect.orders_append, entered.told, orders_told _ content, List.flatMap_append]
      simp
    · rw [counted, Send.loads_append, List.flatten_append, List.length_append, UInt64.ofNat_add,
        settled, settled_messageCount content, entered.messageCount]
    · rw [counted, Send.loads_append, List.length_append, UInt64.ofNat_add, settled,
        settled_packageCount, entered.packageCount]

/-- Refusals and beginnings end no send and leave the counts alone. -/
theorem fold_advanced (handlers : List Handler) (messages : List Bytes) (sends : List Send)
    (counted : List Send) :
    let more := messages.map (Deed.refuses · handlers) ++ sends.map Deed.begins
    more.filterMap Deed.ended? = [] ∧ more.filterMap Deed.refused? = messages ∧
      more.foldl Deed.count counted = counted := by
  intro more
  refine ⟨?_, ?_, ?_⟩
  · simp [more, Deed.ended?, Function.comp_def]
  · simp [more, Deed.refused?, Function.comp_def]
  · simp [more, Deed.count, List.foldl_map, List.foldl_fixed]

theorem Entered.advance {ahead gone : List Bytes}
    {last : List (Effect Role (Order Handler) Reply)}
    {turn : Turn (Outbox Handler) Role (Order Handler) Reply} (entered : journal.Entered ahead)
    (landed : journal.dispatch.outbox.flight = none)
    (advances : Advances journal.dispatch.outbox ahead gone last turn)
    (ending : Except Failure Nat) :
    (journal.advanced gone turn (Send.begun turn.1.carried ending turn.2)).Entered [] := by
  obtain ⟨before, accepted, sent, refused⟩ := entered.split
  obtain ⟨sends, begun, load, carries, orders, stops⟩ := advances.begins ending
  obtain ⟨noEnd, refusals, uncounted⟩ := fold_advanced journal.dispatch.outbox.handlers.handlers
    (gone.filter fun message => !journal.dispatch.outbox.admits message) sends journal.counted
  have admits := admits_of_bounds advances.bounds
  have counted : (journal.advanced gone turn sends).counted = journal.counted := by
    rw [Journal.counted, advanced, List.foldl_append]
    exact uncounted
  have ended : (journal.advanced gone turn sends).ended = journal.dispatch.sends := by
    rw [Journal.ended, advanced, List.filterMap_append, noEnd, List.append_nil]
    exact entered.ended.all landed
  rw [begun]
  refine ⟨⟨before ++ gone, ?_, ?_, ?_⟩, ?_, ?_, ?_, ?_, ?_⟩
  · rw [advanced, accepted, unsent_of_landed landed, advances.split, List.append_assoc,
      List.nil_append]
  · rw [advanced, List.flatMap_append, sent, load, admits, List.filter_append]
  · rw [Journal.refused, advanced, List.filterMap_append, refusals, List.filter_append, admits]
    exact congrArg (· ++ _) refused
  · intro send member
    rw [advanced, advances.alike.batched]
    rcases List.mem_append.mp member with earlier | latest
    · exact entered.carries send earlier
    · exact carries send latest
  · rw [Dispatch.Ended, ended]
    rcases stops with ⟨rests, rfl⟩ | ⟨aloft, send, rfl, content⟩
    · exact Or.inl ⟨rests, (List.append_nil _).symm⟩
    · exact Or.inr ⟨aloft, send, rfl, content⟩
  · rw [advanced, Effect.orders_append, entered.told, orders]
    simp only [List.flatMap_append]
  · rw [counted]
    exact (congrArg Outbox.messageCount advances.frame).trans entered.messageCount
  · rw [counted]
    exact (congrArg Outbox.packageCount advances.frame).trans entered.packageCount

/-- An event that gives the worker no turn enters the messages that the outbox takes with it. -/
theorem Entered.keep {event : Event Handler} {mailbox : Mailbox Bytes}
    {handlers : Registry Handler} {attached : Bool}
    {effects : List (Effect Role (Order Handler) Reply)} (entered : journal.Entered [])
    (turned : journal.dispatch.turn event =
      ({ journal.dispatch.outbox with mailbox, handlers, attached }, effects))
    (quiet : Effect.orders effects = [])
    (queue : mailbox.queue =
      journal.dispatch.outbox.mailbox.queue ++ journal.dispatch.accepts event)
    (lands : journal.dispatch.lands event = none) (restarts : event.restarts = false) :
    (journal.step event).Entered [] := by
  have unsent : (journal.dispatch.turn event).1.unsent =
      journal.dispatch.outbox.unsent ++ journal.dispatch.accepts event := by
    rw [turned, Outbox.unsent, Outbox.unsent, queue, List.append_assoc]
  have reaches : journal.dispatch.reaches event = [] := by
    rw [Dispatch.reaches, unsent, List.length_append, Nat.sub_eq_zero_of_le (Nat.le_add_right _ _),
      List.take_zero]
  have begun : journal.dispatch.begun event = [] := by
    rw [Dispatch.begun, turned]
    exact mute_of_orders quiet _ _
  have deeds : journal.dispatch.deeds event = [] := by
    simp [Dispatch.deeds, lands, reaches, begun, restarts]
  have stepped : journal.step event =
      { dispatch :=
          { outbox := { journal.dispatch.outbox with mailbox, handlers, attached }
            submitted := journal.dispatch.submitted ++ event.messages
            sends := journal.dispatch.sends
            effects := journal.dispatch.effects ++ effects }
        accepted := journal.accepted ++ journal.dispatch.accepts event
        deeds := journal.deeds } := by
    rw [step, deeds, List.append_nil, Dispatch.step, begun, List.append_nil, turned]
  obtain ⟨⟨gone, accepted, sent, refused⟩, carries, ended, told, messages, packages⟩ := entered
  rw [turned] at unsent
  rw [stepped]
  refine ⟨⟨gone, ?_, sent, refused⟩, carries, ended, ?_, messages, packages⟩
  · simp only [unsent, accepted, List.nil_append, List.append_assoc]
  · rw [Effect.orders_append, quiet, List.append_nil]
    exact told

/-- A reset starts the counts again and changes nothing else. -/
theorem Entered.restart {caller : Nat} (entered : journal.Entered []) :
    (journal.step (.call caller .reset)).Entered [] := by
  have turned : journal.dispatch.turn (.call caller .reset) =
      ({ journal.dispatch.outbox with messageCount := 0, packageCount := 0 },
        [.done (.caller caller) .done]) := rfl
  have reaches : journal.dispatch.reaches (.call caller .reset) = [] := by
    rw [Dispatch.reaches, turned]
    simp [Outbox.unsent]
  have begun : journal.dispatch.begun (.call caller .reset) = [] := rfl
  have accepts : journal.dispatch.accepts (.call caller .reset) = [] := ite_self _
  have deeds : journal.dispatch.deeds (.call caller .reset) = [.resets] := by
    simp [Dispatch.deeds, Dispatch.lands, reaches, begun, Event.restarts]
  obtain ⟨⟨gone, accepted, sent, refused⟩, carries, ended, told, _, _⟩ := entered
  refine ⟨⟨gone, ?_, ?_, ?_⟩, ?_, ?_, ?_, ?_, ?_⟩
  · rw [step, accepts, List.append_nil]
    exact accepted
  · rw [step, Dispatch.step, begun, List.append_nil]
    exact sent
  · rw [step, deeds, Journal.refused, List.filterMap_append]
    exact (List.append_nil _).trans refused
  · rw [step, Dispatch.step, begun, List.append_nil]
    exact carries
  · have same : (journal.step (.call caller .reset)).ended = journal.ended := by
      rw [step, deeds, Journal.ended, List.filterMap_append]
      exact List.append_nil _
    rw [same, step, Dispatch.step, begun, List.append_nil]
    exact ended
  · rw [step, deeds, Dispatch.step, turned, Effect.orders_append, told, List.flatMap_append]
    rfl
  · rw [step, deeds, Journal.counted, List.foldl_append]
    rfl
  · rw [step, deeds, Journal.counted, List.foldl_append]
    rfl

/-- A turn that the worker takes without a send having ended. -/
theorem step_advanced {event : Event Handler} {gone : List Bytes}
    (silent : event.messages = []) (lands : journal.dispatch.lands event = none)
    (restarts : event.restarts = false)
    (split : journal.dispatch.outbox.unsent =
      gone ++ (journal.dispatch.turn event).1.unsent) :
    journal.step event = journal.advanced gone (journal.dispatch.turn event)
      (journal.dispatch.begun event) := by
  have reaches : journal.dispatch.reaches event = gone := by
    rw [Dispatch.reaches, split, List.length_append, Nat.add_sub_cancel, List.take_left]
  have accepts : journal.dispatch.accepts event = [] := by
    rw [Dispatch.accepts, silent, ite_self]
  rw [step, advanced, Dispatch.step, silent, accepts, Dispatch.deeds, lands, reaches, restarts]
  simp

/-- A turn that the worker takes when its send has ended. -/
theorem step_settled {ending : Except Failure Nat} {send : Send} {gone : List Bytes}
    {turn : Turn (Outbox Handler) Role (Order Handler) Reply}
    (aloft : journal.dispatch.outbox.flight.isSome)
    (latest : journal.dispatch.sends.getLast? = some send)
    (turned : journal.dispatch.turn (.land ending) =
      (turn.1, journal.dispatch.outbox.told send.ending ++ turn.2))
    (split : journal.dispatch.outbox.unsent = gone ++ turn.1.unsent) :
    journal.step (.land ending) =
      (journal.settled send).advanced gone turn (Send.begun turn.1.carried ending turn.2) := by
  have lands : journal.dispatch.lands (.land ending) = some send := by
    rw [Dispatch.lands, if_pos aloft, latest]
  have reaches : journal.dispatch.reaches (.land ending) = gone := by
    rw [Dispatch.reaches, turned, split, List.length_append, Nat.add_sub_cancel, List.take_left]
  have accepts : journal.dispatch.accepts (.land ending) = [] := ite_self _
  have begun : journal.dispatch.begun (.land ending) =
      Send.begun turn.1.carried ending turn.2 := by
    rw [Dispatch.begun, turned, begun_append, begun_told, List.nil_append]
    rfl
  have admits : (journal.dispatch.outbox.settled send.ending).admits =
      journal.dispatch.outbox.admits :=
    admits_of_bounds (journal.dispatch.outbox.settled_alike send.ending).bounds
  have handlers : (journal.dispatch.outbox.settled send.ending).handlers =
      journal.dispatch.outbox.handlers := rfl
  rw [step, Dispatch.step, turned, begun, accepts, Dispatch.deeds, lands, reaches, begun]
  simp [advanced, settled, admits, handlers, Dispatch.Event.messages, Event.restarts]

end Journal

end Outbox

end ReliableTransport
