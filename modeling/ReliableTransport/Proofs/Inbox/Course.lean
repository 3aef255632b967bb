import ReliableTransport.Proofs.Inbox.Delivery
/-!
This module follows an inbox over time, with the worker's turns taken apart. The worker unpacks one
package, begins to deliver one message or calls one handler at a time. Before and after each of
these anything can happen: packages come in, handlers are registered and struck off, and the inbox
is reset, disposed of or closed, by the handler that is being called or by anybody else.
-/

namespace ReliableTransport

namespace Inbox

open Mailbox (Role)

deriving instance DecidableEq for Order

/-- What is left to do of the pass that the worker is busy with. -/
structure Pass (Handler : Type) where
  /-- The calls of the delivery that has begun. -/
  orders : List (Order Handler) := []
  /-- The messages of the package that was unpacked last. -/
  messages : List Package := []
  packages : List Package := []
  deriving DecidableEq

/-- What becomes of an inbox and of its packages. -/
inductive Deed (Handler : Type) where
  /-- The source has told a package to those who listened. -/
  | tells (package : Package)
  /-- Somebody registers a handler. -/
  | registers (handler : Handler)
  /-- Somebody strikes the handler of a number off. -/
  | strikes (id : Nat)
  | resets
  | closes (call : Nat)
  | disposes
  /-- The worker takes the messages out of a package. -/
  | opens (package : Package)
  /-- The worker drops a package that is no frame. -/
  | discards (package : Package)
  /-- The delivery of a message begins. -/
  | delivers (message : Package)
  | calls (order : Order Handler)

/-- What can happen to an inbox and to its source. -/
inductive Event (Handler Other : Type) where
  /-- Somebody calls the inbox, or has the source tell packages to those who listen. -/
  | call (call : Call Handler)
  /-- The worker goes on by one piece of work. -/
  | work
  /-- A call that may wait has a turn. -/
  | turn (call : Nat)
  | abandon (call : Nat)
  /-- The source begins to tell a package to those who listen now. -/
  | announce (package : Package)
  /-- The turn of the inbox has come among those who are told a package. -/
  | tell (position : Nat)
  /-- Somebody else subscribes at the source. -/
  | listen (other : Other)
  /-- Somebody else ends a subscription at the source. -/
  | unlisten (id : Nat)

/-- An inbox and what happened to it so far. -/
structure Course (Handler Other : Type) where
  inbox : Inbox Handler Other
  pass : Pass Handler := {}
  /-- The packages that the source is about to tell the inbox. -/
  underway : List Package := []
  /-- The number of the calls that were made. -/
  calls : Nat := 0
  log : List (Deed Handler) := []

variable {Handler Other Result : Type}

/-- What goes into the log with a call. -/
def Call.deeds (number : Nat) : Call Handler → List (Deed Handler)
  | .fire packages => packages.map .tells
  | .subscribe handler => [.registers handler]
  | .unsubscribe id => [.strikes id]
  | .reset => [.resets]
  | .close => [.closes number]
  | .dispose => [.disposes]

/-- A call that may wait for the worker's end has a turn. -/
def await (inbox : Inbox Handler Other) (caller : Role) :
    Turn (Inbox Handler Other) Role (Order Handler) Reply :=
  if inbox.mailbox.isOver && inbox.mailbox.joiner == some caller then
    ({ inbox with mailbox := inbox.mailbox.unjoin caller }, [.done caller .done])
  else (inbox, [])

/-- A package counts for the source as soon as it begins to tell it. -/
def count (inbox : Inbox Handler Other) (package : Package) : Inbox Handler Other :=
  { inbox with
    source := { inbox.source with
      bytesReceived := inbox.source.bytesReceived + UInt64.ofNat package.data.length } }

/-- A call that waits changes nothing but who waits. -/
theorem await_frame (inbox : Inbox Handler Other) (caller : Role) :
    ∃ joiner, (inbox.await caller).1 = { inbox with mailbox := { inbox.mailbox with joiner } } ∧
      (joiner = none ∨ joiner = inbox.mailbox.joiner) := by
  unfold await
  split
  · obtain ⟨joiner, same, who⟩ := inbox.mailbox.unjoin_eq caller
    exact ⟨joiner, by rw [same], who⟩
  · exact ⟨inbox.mailbox.joiner, rfl, .inr rfl⟩

/-- Only the queue and the source notice packages that come in. -/
theorem fireAll_frame (packages : List Package) (inbox : Inbox Handler Other) :
    ∃ bytesReceived queue, packages.foldl fire inbox =
      { inbox with
        source := { inbox.source with bytesReceived }
        mailbox := { inbox.mailbox with queue } } := by
  induction packages generalizing inbox with
  | nil => exact ⟨inbox.source.bytesReceived, inbox.mailbox.queue, rfl⟩
  | cons package rest ih =>
      obtain ⟨bytesReceived, queue, same⟩ := ih (inbox.fire package)
      obtain ⟨former, pushed⟩ :=
        inbox.mailbox.pushAll_frame (List.replicate (ears inbox.source) package)
      refine ⟨bytesReceived, queue, ?_⟩
      rw [List.foldl_cons, same, fire_mailbox, pushed]
      rfl

/-- An inbox that leaves its source changes nothing else. -/
theorem unsubscribeFromSource_frame (inbox : Inbox Handler Other) :
    ∃ source, inbox.unsubscribeFromSource = { inbox with source, subscription := none } := by
  unfold unsubscribeFromSource
  split
  next left => exact ⟨inbox.source, by rw [← left]⟩
  next => exact ⟨_, rfl⟩

namespace Course

/-- The worker goes on: it calls a handler, begins the next delivery, unpacks the next package, or
ends its pass and begins the next one. -/
def work (course : Course Handler Other) : Course Handler Other :=
  let inbox := course.inbox
  match course.pass with
  | { orders := order :: orders, messages, packages } =>
    { course with
      pass := { orders, messages, packages }
      log := course.log ++ [.calls order] }
  | { orders := [], messages := message :: messages, packages } =>
    { course with
      inbox := { inbox with messageCount := inbox.messageCount + 1 }
      pass := { orders := inbox.handlers.handlers.map (Order.mk · message), messages, packages }
      log := course.log ++ [.delivers message] }
  | { orders := [], messages := [], packages := package :: packages } =>
    match unpack inbox.batched package with
    | some messages =>
      { course with
        inbox := { inbox with packageCount := inbox.packageCount + 1 }
        pass := { messages, packages }
        log := course.log ++ [.opens package] }
    | none =>
      { course with
        pass := { packages }
        log := course.log ++ [.discards package] }
  | { orders := [], messages := [], packages := [] } =>
    if inbox.mailbox.worker = .busy then
      { course with inbox := { inbox with mailbox := inbox.mailbox.endPass } }
    else
      let (mailbox, packages) := inbox.mailbox.takePass
      { course with
        inbox := { inbox with mailbox }
        pass := { packages := packages.getD [] } }

/-- What the worker can do next. -/
inductive Works (course : Course Handler Other) : Course Handler Other → Prop where
  | calls {order : Order Handler} {orders : List (Order Handler)} {messages packages : List Package}
      (left : course.pass = { orders := order :: orders, messages, packages }) :
      Works course { course with
        pass := { orders, messages, packages }
        log := course.log ++ [.calls order] }
  | delivers {message : Package} {messages packages : List Package}
      (left : course.pass = { messages := message :: messages, packages }) :
      Works course { course with
        inbox := { course.inbox with messageCount := course.inbox.messageCount + 1 }
        pass :=
          { orders := course.inbox.handlers.handlers.map (Order.mk · message), messages, packages }
        log := course.log ++ [.delivers message] }
  | opens {package : Package} {packages messages : List Package}
      (left : course.pass = { packages := package :: packages })
      (found : unpack course.inbox.batched package = some messages) :
      Works course { course with
        inbox := { course.inbox with packageCount := course.inbox.packageCount + 1 }
        pass := { messages, packages }
        log := course.log ++ [.opens package] }
  | discards {package : Package} {packages : List Package}
      (left : course.pass = { packages := package :: packages })
      (missing : unpack course.inbox.batched package = none) :
      Works course { course with
        pass := { packages }
        log := course.log ++ [.discards package] }
  | ends (left : course.pass = {}) (busy : course.inbox.mailbox.worker = .busy) :
      Works course { course with
        inbox := { course.inbox with mailbox := course.inbox.mailbox.endPass } }
  | begins (left : course.pass = {}) (idle : course.inbox.mailbox.worker ≠ .busy) :
      Works course { course with
        inbox := { course.inbox with mailbox := course.inbox.mailbox.takePass.1 }
        pass := { packages := course.inbox.mailbox.takePass.2.getD [] } }

theorem works (course : Course Handler Other) : Works course course.work := by
  unfold work
  split
  next left => exact .calls left
  next left => exact .delivers left
  next left =>
    dsimp only
    split
    next found => exact .opens left found
    next missing => exact .discards left missing
  next left =>
    dsimp only
    split
    next busy => exact .ends left busy
    next idle => exact .begins left idle

/-- The turn that an event gives to a caller. -/
def turn (course : Course Handler Other) :
    Event Handler Other → Turn (Inbox Handler Other) Role (Order Handler) Reply
  | .call call => course.inbox.start (.caller course.calls) call
  | .turn number => course.inbox.await (.caller number)
  | _ => (course.inbox, [])

/-- Whoever closes an inbox takes it off its source and closes its mailbox. If somebody else could
wait for the worker's end before, nobody else does now. -/
theorem turn_close (course : Course Handler Other) :
    ∃ joiner, (course.turn (.call .close)).1 =
        { course.inbox.unsubscribeFromSource with
          mailbox := { course.inbox.mailbox with closed := true, joinable := false, joiner } } ∧
      (course.inbox.mailbox.joinable = false → joiner = course.inbox.mailbox.joiner) := by
  obtain ⟨source, gone⟩ := unsubscribeFromSource_frame course.inbox
  rw [turn, start, gone]
  by_cases taken : course.inbox.mailbox.joinable = false
  · refine ⟨course.inbox.mailbox.joiner, ?_, fun _ => rfl⟩
    simp only [Mailbox.join, Mailbox.close, taken, Bool.false_eq_true, if_false]
  · obtain ⟨joiner, joined⟩ := course.inbox.mailbox.join_eq (.caller course.calls)
    refine ⟨joiner, ?_, fun other => absurd other taken⟩
    rw [← joined]

/-- Whoever disposes of an inbox takes it off its source and closes its mailbox. -/
theorem turn_dispose (course : Course Handler Other) :
    (course.turn (.call .dispose)).1 =
      { course.inbox.unsubscribeFromSource with
        mailbox := { course.inbox.mailbox with closed := true } } := by
  obtain ⟨source, gone⟩ := unsubscribeFromSource_frame course.inbox
  rw [turn, start, gone]
  rfl

def step (course : Course Handler Other) : Event Handler Other → Course Handler Other
  | .call call =>
    { course with
      inbox := (course.turn (.call call)).1
      calls := course.calls + 1
      log := course.log ++ call.deeds course.calls }
  | .work => course.work
  | .turn number => { course with inbox := (course.turn (.turn number)).1 }
  | .abandon number =>
    { course with
      inbox := { course.inbox with mailbox := course.inbox.mailbox.unjoin (.caller number) } }
  | .announce package =>
    { course with
      inbox := course.inbox.count package
      underway := course.underway ++ List.replicate (ears course.inbox.source) package }
  | .tell position =>
    match course.underway[position]? with
    | none => course
    | some package =>
      { course with
        inbox := { course.inbox with mailbox := (course.inbox.mailbox.push package).1 }
        underway := course.underway.eraseIdx position
        log := course.log ++ [.tells package] }
  | .listen other =>
    { course with
      inbox := { course.inbox with
        source := { course.inbox.source with
          listeners := (course.inbox.source.listeners.subscribe (.other other)).1 } } }
  | .unlisten id =>
    -- Nobody else knows the number of the inbox's own subscription.
    if course.inbox.subscription = some id then course
    else
      { course with
        inbox := { course.inbox with
          source := { course.inbox.source with
            listeners := (course.inbox.source.listeners.unsubscribe id).1 } } }

def run (course : Course Handler Other) (events : List (Event Handler Other)) :
    Course Handler Other :=
  events.foldl step course

theorem run_append (course : Course Handler Other) (events more : List (Event Handler Other)) :
    course.run (events ++ more) = (course.run events).run more :=
  List.foldl_append

/-- An inbox that was just made. -/
def opened (inbox : Inbox Handler Other) : Course Handler Other := { inbox }

end Course

/-- The call that a worker made. -/
def Deed.order? : Deed Handler → Option (Order Handler)
  | .calls order => some order
  | _ => none

/-- The calls of handlers, in order. -/
def called (log : List (Deed Handler)) : List (Order Handler) := log.filterMap Deed.order?

/-- The worker goes on, or the handler that it calls changes the handlers of the inbox. -/
def Event.isInner : Event Handler Other → Bool
  | .work => true
  | .call (.subscribe _) => true
  | .call (.unsubscribe _) => true
  | _ => false

/-- The worker and the handlers that it calls lead from one state to another. -/
def Leads (first : Inbox Handler Other × Pass Handler) (orders : List (Order Handler))
    (last : Inbox Handler Other × Pass Handler) : Prop :=
  ∀ course : Course Handler Other, (course.inbox, course.pass) = first →
    ∃ events : List (Event Handler Other), (∀ event ∈ events, event.isInner = true) ∧
      ((course.run events).inbox, (course.run events).pass) = last ∧
      called (course.run events).log = called course.log ++ orders

namespace Leads

variable {first middle last : Inbox Handler Other × Pass Handler}
  {orders others : List (Order Handler)} {inbox : Inbox Handler Other} {pass : Pass Handler}
  {messages packages : List Package} {message package : Package}

theorem refl (first : Inbox Handler Other × Pass Handler) : Leads first [] first := by
  intro course here
  exact ⟨[], nofun, here, (List.append_nil _).symm⟩

theorem trans (leads : Leads first orders middle) (further : Leads middle others last) :
    Leads first (orders ++ others) last := by
  intro course here
  obtain ⟨events, inner, there, made⟩ := leads course here
  obtain ⟨more, innerToo, beyond, madeToo⟩ := further (course.run events) there
  refine ⟨events ++ more, ?_, ?_, ?_⟩
  · intro event among
    exact (List.mem_append.mp among).elim (inner event) (innerToo event)
  · rw [Course.run_append]
    exact beyond
  · rw [Course.run_append, madeToo, made, List.append_assoc]

/-- One event leads to where its step does. -/
theorem of_step (event : Event Handler Other) (inner : event.isInner = true)
    (leads : ∀ course : Course Handler Other, (course.inbox, course.pass) = first →
      ((course.step event).inbox, (course.step event).pass) = last ∧
        called (course.step event).log = called course.log ++ orders) :
    Leads first orders last := by
  intro course here
  obtain ⟨there, made⟩ := leads course here
  exact ⟨[event], by simpa using inner, there, made⟩

theorem call (inbox : Inbox Handler Other) (order : Order Handler) (rest : List (Order Handler))
    (messages packages : List Package) :
    Leads (inbox, { orders := order :: rest, messages, packages }) [order]
      (inbox, { orders := rest, messages, packages }) := by
  refine of_step .work rfl fun course here => ?_
  obtain ⟨rfl, same⟩ := Prod.mk.inj here
  simp [Course.step, Course.work, same, called, Deed.order?]

theorem delivery (inbox : Inbox Handler Other) (message : Package)
    (messages packages : List Package) :
    Leads (inbox, { messages := message :: messages, packages }) []
      ({ inbox with messageCount := inbox.messageCount + 1 },
        { orders := inbox.handlers.handlers.map (Order.mk · message), messages, packages }) := by
  refine of_step .work rfl fun course here => ?_
  obtain ⟨rfl, same⟩ := Prod.mk.inj here
  simp [Course.step, Course.work, same, called, Deed.order?]

theorem opening (packages : List Package) (found : unpack inbox.batched package = some messages) :
    Leads (inbox, { packages := package :: packages }) []
      ({ inbox with packageCount := inbox.packageCount + 1 }, { messages, packages }) := by
  refine of_step .work rfl fun course here => ?_
  obtain ⟨rfl, same⟩ := Prod.mk.inj here
  simp [Course.step, Course.work, same, found, called, Deed.order?]

theorem discard (missing : unpack inbox.batched package = none) :
    Leads (inbox, { packages := package :: packages }) [] (inbox, { packages }) := by
  refine of_step .work rfl fun course here => ?_
  obtain ⟨rfl, same⟩ := Prod.mk.inj here
  simp [Course.step, Course.work, same, missing, called, Deed.order?]

theorem beginning (idle : inbox.mailbox.worker ≠ .busy) :
    Leads (inbox, {}) []
      ({ inbox with mailbox := inbox.mailbox.takePass.1 },
        { packages := inbox.mailbox.takePass.2.getD [] }) := by
  refine of_step .work rfl fun course here => ?_
  obtain ⟨rfl, same⟩ := Prod.mk.inj here
  simp [Course.step, Course.work, same, idle]

theorem ending (busy : inbox.mailbox.worker = .busy) :
    Leads (inbox, {}) [] ({ inbox with mailbox := inbox.mailbox.endPass }, {}) := by
  refine of_step .work rfl fun course here => ?_
  obtain ⟨rfl, same⟩ := Prod.mk.inj here
  simp [Course.step, Course.work, same, busy]

/-- The changes of a handler are calls on the inbox. -/
theorem changes (changes : List (Change Handler)) (inbox : Inbox Handler Other) :
    Leads (inbox, pass) [] (inbox.change changes, pass) := by
  induction changes generalizing inbox with
  | nil => exact refl _
  | cons change rest ih =>
      have one : Leads (inbox, pass) [] (inbox.change [change], pass) := by
        cases change with
        | subscribe handler =>
            refine of_step (.call (.subscribe handler)) rfl fun course here => ?_
            obtain ⟨rfl, rfl⟩ := Prod.mk.inj here
            simp [Course.step, Course.turn, start, Inbox.change, Call.deeds, called, Deed.order?]
        | unsubscribe id =>
            refine of_step (.call (.unsubscribe id)) rfl fun course here => ?_
            obtain ⟨rfl, rfl⟩ := Prod.mk.inj here
            simp [Course.step, Course.turn, start, Inbox.change, Call.deeds, called, Deed.order?]
      exact one.trans (ih _)

variable (react : Handler → Package → List (Change Handler))

theorem callEach (handlers : List Handler) (inbox : Inbox Handler Other) :
    Leads (inbox, { orders := handlers.map (Order.mk · message), messages, packages })
      (handlers.map (Order.mk · message))
      ({ inbox with handlers := stirred react message handlers inbox.handlers },
        { messages, packages }) := by
  induction handlers generalizing inbox with
  | nil => exact refl _
  | cons handler rest ih =>
      have called := call inbox ⟨handler, message⟩ (rest.map (Order.mk · message)) messages packages
      exact (called.trans (changes (react handler message) inbox)).trans (ih _)

theorem deliverEach (messages : List Package) (inbox : Inbox Handler Other) :
    Leads (inbox, { messages, packages }) (distribute react messages inbox.handlers).2
      ({ inbox with
          handlers := (distribute react messages inbox.handlers).1
          messageCount := inbox.messageCount + UInt64.ofNat messages.length },
        { packages }) := by
  induction messages generalizing inbox with
  | nil => simpa [distribute] using refl (inbox, ({ packages } : Pass Handler))
  | cons message rest ih =>
      have begun := delivery inbox message rest packages
      have told := begun.trans (callEach react inbox.handlers.handlers _)
      rw [distribute, count_cons]
      exact told.trans (ih _)

theorem workOn (packages : List Package) (inbox : Inbox Handler Other) :
    Leads (inbox, { packages }) (processed react inbox packages).2
      ((processed react inbox packages).1, {}) := by
  induction packages generalizing inbox with
  | nil => simpa [processed, unpacked, distribute] using refl (inbox, ({} : Pass Handler))
  | cons package rest ih =>
      cases found : unpack inbox.batched package with
      | none =>
          rw [processed_discard react found]
          exact (discard found).trans (ih inbox)
      | some messages =>
          rw [processed_open react found]
          have opened := opening rest found
          exact (opened.trans (deliverEach react messages _)).trans (ih _)

theorem makePasses (passes : Nat) (inbox : Inbox Handler Other)
    (idle : inbox.mailbox.worker ≠ .busy) :
    let turn : Turn (Inbox Handler Other) Role (Order Handler) Result :=
      Inbox.makePasses react passes inbox
    Leads (inbox, {}) (Effect.orders turn.2) (turn.1, {}) := by
  induction passes generalizing inbox with
  | zero => exact refl _
  | succ passes ih =>
      intro turn
      have begun := beginning idle
      simp only [turn, Inbox.makePasses]
      split
      next mailbox taken =>
        rw [taken] at begun
        rw [Mailbox.orders_wakeJoiner]
        exact begun
      next mailbox packages taken =>
        rw [taken] at begun
        have busy : mailbox.worker = .busy := Mailbox.worker_of_takePass taken
        have worked := begun.trans (workOn react packages _)
        have ended := worked.trans (ending busy)
        rw [List.append_nil] at ended
        have further := ended.trans (ih _ Mailbox.Worker.noConfusion)
        simp only [Inbox.workOn_eq, Effect.orders_append, orders_calls]
        exact further

end Leads

/-- A turn of the worker is nothing but its work, one piece after the other, and the changes that
the called handlers make, however many passes the worker makes before it lets others run. -/
theorem Course.turn_leads (react : Handler → Package → List (Change Handler)) (passes : Nat)
    (course : Course Handler Other) (rests : course.pass = {})
    (idle : course.inbox.mailbox.worker ≠ .busy) :
    let turn : Turn (Inbox Handler Other) Role (Order Handler) Result :=
      makePasses react passes course.inbox
    ∃ events : List (Event Handler Other), (∀ event ∈ events, event.isInner = true) ∧
      (course.run events).inbox = turn.1 ∧ (course.run events).pass = {} ∧
      called (course.run events).log = called course.log ++ Effect.orders turn.2 := by
  intro turn
  have here : (course.inbox, course.pass) = (course.inbox, {}) := by rw [rests]
  obtain ⟨events, inner, there, made⟩ :=
    Leads.makePasses react passes course.inbox idle course here
  obtain ⟨state, pass⟩ := Prod.mk.inj there
  exact ⟨events, inner, state, pass, made⟩

end Inbox

end ReliableTransport
