import ReliableTransport.Proofs.Inbox.Delivery
import ReliableTransport.Proofs.Outbox.Dispatch
/-!
This module joins an outbox with batches to an inbox that unpacks them. The link between them keeps
the order: every send that succeeds arrives as one package, at any time after the send began. What
the handlers of the inbox are given is what the outbox was given, as far as its sends succeed.
-/

namespace ReliableTransport

open Mailbox (Role)
open Outbox (Dispatch Send)

/-- An outbox and an inbox with a link between them. -/
structure Line (Handler Watcher Other : Type) where
  dispatch : Dispatch Handler
  inbox : Inbox Watcher Other
  /-- The frames on their way to the inbox, the oldest first. -/
  link : List Bytes := []
  /-- What the inbox handed to its handlers. -/
  delivered : List (Inbox.Order Watcher) := []

namespace Line

variable {Handler Watcher Other : Type}

/-- What can happen on a line. -/
inductive Event (Handler Watcher : Type) where
  | outgoing (event : Dispatch.Event Handler)
  /-- The oldest frame on the link reaches the inbox. -/
  | arrive
  /-- A task of the inbox has a turn. -/
  | wake (task : Role)
  | incoming (caller : Nat) (made : Inbox.Call Watcher)

/-- The messages that an event submits. -/
def Event.messages : Event Handler Watcher → List Bytes
  | .outgoing event => event.messages
  | _ => []

/-- The event keeps both ends running and leaves the watcher's registration alone. The package size
leaves room for each message that it submits. -/
def Event.Plain (packageSize id : Nat) (watcher : Watcher) : Event Handler Watcher → Prop
  | .outgoing event =>
    event.runs = true ∧ ∀ message ∈ event.messages,
      packageSize + Frame.lengthLength + message.length < Bytes.wordValues
  | .incoming _ (.subscribe handler) => handler ≠ watcher
  | .incoming _ (.unsubscribe other) => other ≠ id
  | .incoming _ _ => False
  | _ => True

/-- A line whose inbox is watched, behind others that listen to the same source. -/
def create (outgoing : OutboxSettings) (incoming : InboxSettings) (others : Registry Other)
    (watchers : List Watcher) :
    Except SettingsFault (Except Defect (Line Handler Watcher Other)) := do
  let listeners : Registry (Inbox.Listener Other) :=
    { others with entries := others.entries.map fun entry => (entry.1, .other entry.2) }
  let inbox ← Inbox.create incoming { listeners }
  let outbox ← Outbox.create outgoing Bytes.maxWord
  pure do
    let inbox ← inbox
    let outbox ← outbox
    pure
      { dispatch := { outbox }
        inbox := watchers.foldl
          (fun inbox watcher => (inbox.start (.caller 0) (.subscribe watcher)).1) inbox }

/-- Takes over a turn of the inbox. -/
def take (line : Line Handler Watcher Other)
    (turn : Turn (Inbox Watcher Other) Role (Inbox.Order Watcher) Inbox.Reply) :
    Line Handler Watcher Other :=
  { line with inbox := turn.1, delivered := line.delivered ++ Effect.orders turn.2 }

variable (react : Watcher → Package → List (Inbox.Change Watcher)) (remote : Address)

def step (line : Line Handler Watcher Other) : Event Handler Watcher → Line Handler Watcher Other
  | .outgoing event =>
    let sent := (line.dispatch.begun event).filter Send.succeeds
    { line with
      dispatch := line.dispatch.step event
      link := line.link ++ sent.map fun send => send.delivery.data }
  | .arrive =>
    match line.link with
    | [] => line
    | data :: rest =>
      { line with link := rest }.take
        ((Inbox.component react).start 0 (.caller 0) (.fire [{ remote, data }]) line.inbox)
  | .wake task => line.take ((Inbox.component react).resume 0 task line.inbox)
  | .incoming caller made =>
    line.take ((Inbox.component react).start 0 (.caller caller) made line.inbox)

def run (line : Line Handler Watcher Other) (events : List (Event Handler Watcher)) :
    Line Handler Watcher Other :=
  events.foldl (step react remote) line

/-- Nothing is queued at either end, no send is open, and the link is empty. -/
def Idle (line : Line Handler Watcher Other) : Prop :=
  line.dispatch.Rests ∧ line.link = [] ∧ line.inbox.mailbox.queue = []

instance (line : Line Handler Watcher Other) : Decidable line.Idle := by
  unfold Idle Dispatch.Rests
  infer_instance

/-- What a handler was given. -/
def received [DecidableEq Watcher] (line : Line Handler Watcher Other) (watcher : Watcher) :
    List Package :=
  (line.delivered.filter fun order => order.handler = watcher).map Inbox.Order.package

/-- The package that brings messages to the inbox. -/
def parcel (messages : List Bytes) : Package := { remote, data := Frame.layout messages }

/-- Every send that succeeded is on the link, queued at the inbox or delivered, in this order from
the latest to the oldest. The inbox's counts are those of the delivered ones. -/
structure Arrives [DecidableEq Watcher] (id : Nat) (watcher : Watcher) (loads : List (List Bytes))
    (line : Line Handler Watcher Other) : Prop where
  waits : line.inbox.mailbox.worker = .waiting
  room : line.inbox.mailbox.hasRoom = true
  isOpen : line.inbox.mailbox.closed = false
  batched : line.inbox.batched = true
  listens : Inbox.ears line.inbox.source = 1
  watches : line.inbox.handlers.Watches id watcher
  account : ∃ done waiting travelling, loads = done ++ (waiting ++ travelling) ∧
    line.link = travelling.map Frame.layout ∧
    line.inbox.mailbox.queue = waiting.map (parcel remote) ∧
    line.received watcher = done.flatten.map (fun data => { remote, data }) ∧
    line.inbox.messageCount = UInt64.ofNat done.flatten.length ∧
    line.inbox.packageCount = UInt64.ofNat done.length

/-- What comes out of the parcels is what went into them. -/
theorem unpacked_parcels {loads : List (List Bytes)} (fits : ∀ load ∈ loads, Frame.Fits load) :
    Inbox.unpacked true (loads.map (parcel remote)) =
      loads.map fun load => load.map fun data => { remote, data } := by
  induction loads with
  | nil => rfl
  | cons load rest ih =>
      have read := Batch.ofBytes_layout (fits load List.mem_cons_self)
      have opened : Inbox.unpack true (parcel remote load) =
          some (load.map fun data => { remote, data }) := by
        simp only [Inbox.unpack, parcel, if_true, read]
      rw [List.map_cons, Inbox.unpacked, List.filterMap_cons_some opened, ← Inbox.unpacked,
        ih fun other member => fits other (List.mem_cons_of_mem _ member)]
      rfl

section Arrives

variable [DecidableEq Watcher] {react remote} {id : Nat} {watcher : Watcher} {loads : List (List Bytes)}
  {line : Line Handler Watcher Other}

/-- The worker of a running inbox delivers everything that is queued. -/
theorem Arrives.work (arrives : line.Arrives remote id watcher loads)
    (fits : ∀ load ∈ loads, Frame.Fits load)
    (spared : Inbox.Spared react id watcher) :
    (line.take (line.inbox.work react)).Arrives remote id watcher loads := by
  obtain ⟨waits, room, isOpen, batched, listens, watches, account⟩ := arrives
  obtain ⟨done, waiting, travelling, split, link, queue, received, messages, packages⟩ := account
  have among (load : List Bytes) (member : load ∈ waiting) : Frame.Fits load := by
    apply fits load
    rw [split]
    exact List.mem_append_right _ (List.mem_append_left _ member)
  have opened : Inbox.unpacked line.inbox.batched line.inbox.mailbox.queue =
      waiting.map fun load => load.map fun data => { remote, data } := by
    rw [batched, queue]
    exact unpacked_parcels remote among
  have worked : (Inbox.processed react line.inbox line.inbox.mailbox.queue) =
      let told := Inbox.distribute react (waiting.flatten.map fun data => { remote, data })
        line.inbox.handlers
      ({ line.inbox with
          handlers := told.1
          messageCount := line.inbox.messageCount + UInt64.ofNat waiting.flatten.length
          packageCount := line.inbox.packageCount + UInt64.ofNat waiting.length }, told.2) := by
    simp only [Inbox.processed, opened, ← List.map_flatten, List.length_map]
  obtain ⟨stays, told⟩ := Inbox.distribute_watched spared
    (waiting.flatten.map fun data => { remote, data }) watches
  have worker : (Inbox.drained line.inbox.mailbox).worker = .waiting := by
    rw [Inbox.drained, isOpen]
    rfl
  rw [Inbox.work_eq react waits room, worked]
  refine ⟨worker, room, isOpen, batched, listens, stays, done ++ waiting, [], travelling, ?_, link,
    rfl, ?_, ?_, ?_⟩
  · rw [split, List.nil_append, List.append_assoc]
  · rw [Line.received, take, Effect.orders_append, Inbox.orders_calls, Mailbox.orders_wakeJoiner,
      List.append_nil, List.filter_append, told, List.map_append, ← Line.received, received,
      List.flatten_append, List.map_append, List.map_map, List.map_map]
    rfl
  · rw [List.flatten_append, List.length_append, UInt64.ofNat_add, ← messages]
    rfl
  · rw [List.length_append, UInt64.ofNat_add, ← packages]
    rfl

theorem Arrives.goesOn (arrives : line.Arrives remote id watcher loads) :
    line.inbox.mailbox.isOver = false := by
  unfold Mailbox.isOver
  rw [arrives.waits]
  rfl

/-- A frame that reaches the inbox is queued once. -/
theorem Arrives.arrive (arrives : line.Arrives remote id watcher loads) :
    (line.step react remote .arrive).Arrives remote id watcher loads := by
  have goesOn := arrives.goesOn
  obtain ⟨waits, room, isOpen, batched, listens, watches, account⟩ := arrives
  obtain ⟨done, waiting, travelling, split, link, queue, received, messages, packages⟩ := account
  cases travelling with
  | nil =>
      rw [step, link]
      exact ⟨waits, room, isOpen, batched, listens, watches, done, waiting, [], split, link, queue,
        received, messages, packages⟩
  | cons load rest =>
      have queued : (line.inbox.fire (parcel remote load)).mailbox =
          { line.inbox.mailbox with
            queue := line.inbox.mailbox.queue ++ [parcel remote load] } := by
        rw [Inbox.fire_mailbox, listens]
        exact Mailbox.pushAll_of_open isOpen goesOn _
      have turned : (Inbox.component react).start 0 (.caller 0) (.fire [parcel remote load])
          line.inbox = (line.inbox.fire (parcel remote load),
            (line.inbox.fire (parcel remote load)).mailbox.wakeWorker ++
              [.done (.caller 0) .done]) := rfl
      have quiet (inbox : Inbox Watcher Other) : Effect.orders
          (inbox.mailbox.wakeWorker ++ [.done (.caller 0) .done] :
            List (Effect Role (Inbox.Order Watcher) Inbox.Reply)) = [] := by
        rw [Effect.orders_append, Mailbox.orders_wakeWorker]
        rfl
      rw [step, link, List.map_cons]
      simp only
      rw [← parcel, turned, take, quiet, List.append_nil, Inbox.fire_frame, queued]
      refine ⟨waits, room, isOpen, batched, listens, watches, done, waiting ++ [load], rest, ?_,
        rfl, ?_, received, messages, packages⟩
      · rw [split, List.append_assoc]
        rfl
      · rw [queue, List.map_append]
        rfl

/-- A turn that hands nothing out and leaves the watcher's registration alone. -/
theorem Arrives.undelivered (arrives : line.Arrives remote id watcher loads)
    {turn : Turn (Inbox Watcher Other) Role (Inbox.Order Watcher) Inbox.Reply}
    {handlers : Registry Watcher} (reached : turn.1 = { line.inbox with handlers })
    (quiet : Effect.orders turn.2 = []) (watches : handlers.Watches id watcher) :
    (line.take turn).Arrives remote id watcher loads := by
  obtain ⟨waits, room, isOpen, batched, listens, _, account⟩ := arrives
  have same : line.take turn = { line with inbox := { line.inbox with handlers } } := by
    rw [take, reached, quiet, List.append_nil]
  rw [same]
  exact ⟨waits, room, isOpen, batched, listens, watches, account⟩

theorem Arrives.incoming (arrives : line.Arrives remote id watcher loads) {packageSize caller : Nat}
    {made : Inbox.Call Watcher}
    (plain : (.incoming caller made : Event Handler Watcher).Plain packageSize id watcher) :
    (line.step react remote (.incoming caller made)).Arrives remote id watcher loads := by
  cases made with
  | subscribe handler => exact arrives.undelivered rfl rfl (arrives.watches.subscribe plain)
  | unsubscribe id => exact arrives.undelivered rfl rfl (arrives.watches.unsubscribe plain)
  | fire | reset | close | dispose => exact plain.elim

theorem Arrives.wake (arrives : line.Arrives remote id watcher loads)
    (fits : ∀ load ∈ loads, Frame.Fits load)
    (spared : Inbox.Spared react id watcher)
    (task : Role) : (line.step react remote (.wake task)).Arrives remote id watcher loads := by
  cases task with
  | worker => exact arrives.work fits spared
  | caller number =>
      have turned : (Inbox.component react).resume 0 (.caller number) line.inbox =
          (line.inbox, []) := by
        simp [Inbox.component, arrives.goesOn]
      rw [step, turned]
      exact arrives.undelivered rfl rfl arrives.watches

/-- A send that succeeds puts its frame on the link. -/
theorem Arrives.outgoing (arrives : line.Arrives remote id watcher (Send.loads line.dispatch.sends))
    {event : Dispatch.Event Handler}
    (carries : ∀ send ∈ (line.dispatch.step event).sends,
      Outbox.Carries true send.delivery send.messages) :
    (line.step react remote (.outgoing event)).Arrives remote id watcher
      (Send.loads (line.dispatch.step event).sends) := by
  obtain ⟨waits, room, isOpen, batched, listens, watches, account⟩ := arrives
  obtain ⟨done, waiting, travelling, split, link, queue, received, messages, packages⟩ := account
  refine ⟨waits, room, isOpen, batched, listens, watches, done, waiting,
    travelling ++ Send.loads (line.dispatch.begun event), ?_, ?_, queue, received, messages,
    packages⟩
  · rw [Dispatch.step, Send.loads_append, split, List.append_assoc, List.append_assoc]
  · have frames : ((line.dispatch.begun event).filter Send.succeeds).map
        (fun send => send.delivery.data) =
        (Send.loads (line.dispatch.begun event)).map Frame.layout := by
      rw [Send.loads, List.map_map]
      apply List.map_congr_left
      intro send member
      exact (carries send (List.mem_append_right _ (List.mem_filter.mp member).1)).frame.2
    rw [List.map_append, ← link, ← frames]
    rfl

end Arrives

/-- A line that runs. Its outbox fills frames as far as the format allows, and the package size
leaves room for every message. -/
structure Joined [DecidableEq Watcher] (packageSize id : Nat) (watcher : Watcher)
    (line : Line Handler Watcher Other) : Prop where
  running : line.dispatch.Running
  size : line.dispatch.outbox.packageSize = packageSize
  bounds : line.dispatch.outbox.batch.map Batch.maxSize = some Bytes.maxWord
  small : ∀ message ∈ line.dispatch.submitted,
    packageSize + Frame.lengthLength + message.length < Bytes.wordValues
  arrives : line.Arrives remote id watcher (Send.loads line.dispatch.sends)

/-- What is submitted over a line are the messages of the calls, in order. -/
theorem submitted_step (line : Line Handler Watcher Other) (event : Event Handler Watcher) :
    (line.step react remote event).dispatch.submitted =
      line.dispatch.submitted ++ event.messages := by
  cases event with
  | outgoing event => rfl
  | arrive =>
      rw [step]
      split <;> simp [take, Event.messages]
  | wake task => simp [step, take, Event.messages]
  | incoming caller made => simp [step, take, Event.messages]

theorem run_append (line : Line Handler Watcher Other) (front back : List (Event Handler Watcher)) :
    line.run react remote (front ++ back) =
      (line.run react remote front).run react remote back :=
  List.foldl_append

theorem run_outgoing (line : Line Handler Watcher Other) (events : List (Dispatch.Event Handler)) :
    (line.run react remote (events.map .outgoing)).dispatch = line.dispatch.run events := by
  induction events generalizing line with
  | nil => rfl
  | cons event rest ih => exact ih _

/-- As many arrivals as there are frames empty the link. -/
theorem run_arrivals (line : Line Handler Watcher Other) :
    let reached := line.run react remote (List.replicate line.link.length .arrive)
    reached.link = [] ∧ reached.dispatch = line.dispatch := by
  induction link : line.link generalizing line with
  | nil => exact ⟨link, rfl⟩
  | cons data rest ih =>
      have stepped : (line.step react remote .arrive).link = rest := by
        rw [step, link]
        rfl
      have same : (line.step react remote .arrive).dispatch = line.dispatch := by
        rw [step, link]
        rfl
      obtain ⟨empty, kept⟩ := ih (line.step react remote .arrive) stepped
      exact ⟨empty, kept.trans same⟩

section Joined

variable [DecidableEq Watcher] {react remote} {packageSize id : Nat} {watcher : Watcher}
  {line : Line Handler Watcher Other}

theorem Joined.carries (joined : line.Joined remote packageSize id watcher) :
    ∀ send ∈ line.dispatch.sends, Outbox.Carries true send.delivery send.messages := by
  have batched : line.dispatch.outbox.batch.isSome = true := by
    simpa using congrArg Option.isSome joined.bounds
  rw [← batched]
  exact joined.running.accounts.carries

theorem Joined.step (joined : line.Joined remote packageSize id watcher)
    (spared : Inbox.Spared react id watcher)
    {event : Event Handler Watcher} (plain : event.Plain packageSize id watcher) :
    (line.step react remote event).Joined remote packageSize id watcher := by
  have carries := joined.carries
  obtain ⟨running, size, bounds, small, arrives⟩ := joined
  have fits (load : List Bytes) (member : load ∈ Send.loads line.dispatch.sends) :
      Frame.Fits load := by
    obtain ⟨send, sent, rfl⟩ := List.mem_map.mp member
    exact (carries send (List.mem_filter.mp sent).1).frame.1
  cases event with
  | outgoing event =>
      obtain ⟨runs, room⟩ := plain
      have spacious : line.dispatch.outbox.Spacious event.messages := by
        intro _ member
        rw [size]
        exact room [] member
      obtain ⟨stepped, alike⟩ := running.step runs spacious
      have stepBounds : (line.dispatch.step event).outbox.batch.map Batch.maxSize =
          some Bytes.maxWord := alike.bounds.trans bounds
      have batched : (line.dispatch.step event).outbox.batch.isSome = true := by
        simpa using congrArg Option.isSome stepBounds
      have stepCarries := stepped.accounts.carries
      rw [batched] at stepCarries
      refine ⟨stepped, alike.packageSize.trans size, stepBounds, ?_, arrives.outgoing stepCarries⟩
      intro message member
      rcases List.mem_append.mp member with earlier | latest
      · exact small message earlier
      · exact room message latest
  | arrive =>
      have same : (line.step react remote .arrive).dispatch = line.dispatch := by
        rw [Line.step]
        split <;> rfl
      have stepped : (line.step react remote .arrive).Arrives remote id watcher
          (Send.loads line.dispatch.sends) := arrives.arrive
      rw [← same] at running size bounds small stepped
      exact ⟨running, size, bounds, small, stepped⟩
  | wake task => exact ⟨running, size, bounds, small, arrives.wake fits spared task⟩
  | incoming caller made => exact ⟨running, size, bounds, small, arrives.incoming plain⟩

theorem Joined.run {events : List (Event Handler Watcher)}
    (joined : line.Joined remote packageSize id watcher)
    (spared : Inbox.Spared react id watcher)
    (plain : ∀ event ∈ events, event.Plain packageSize id watcher) :
    (line.run react remote events).Joined remote packageSize id watcher ∧
      (line.run react remote events).dispatch.submitted =
        line.dispatch.submitted ++ events.flatMap Event.messages := by
  induction events generalizing line with
  | nil => exact ⟨joined, by simp [Line.run]⟩
  | cons event rest ih =>
      obtain ⟨reached, submitted⟩ := ih (joined.step spared (plain event List.mem_cons_self))
        fun other member => plain other (List.mem_cons_of_mem _ member)
      refine ⟨reached, ?_⟩
      rw [submitted_step, List.append_assoc] at submitted
      rw [List.flatMap_cons]
      exact submitted

/-- Once nothing is on its way, every message was sent, and the inbox was given the messages of the
sends that succeeded. -/
theorem Joined.idle (joined : line.Joined remote packageSize id watcher) (valid : 8 < packageSize)
    (idle : line.Idle) :
    line.dispatch.sends.flatMap Send.messages = line.dispatch.submitted ∧
      line.received watcher =
        (Send.loads line.dispatch.sends).flatten.map (fun data => { remote, data }) ∧
      line.inbox.messageCount = UInt64.ofNat (Send.loads line.dispatch.sends).flatten.length ∧
      line.dispatch.outbox.messageCount =
        UInt64.ofNat (Send.loads line.dispatch.sends).flatten.length ∧
      line.inbox.packageCount = UInt64.ofNat (Send.loads line.dispatch.sends).length ∧
      line.dispatch.outbox.packageCount = UInt64.ofNat (Send.loads line.dispatch.sends).length := by
  obtain ⟨⟨landed, queue⟩, link, taken⟩ := idle
  obtain ⟨ended, isEnded, messageCount, packageCount⟩ := joined.running.accounts.counted
  have all := isEnded.all landed
  obtain ⟨done, waiting, travelling, split, onLink, queued, received, messages, packages⟩ :=
    joined.arrives.account
  have nothingTravels : travelling = [] := List.map_eq_nil_iff.mp (onLink.symm.trans link)
  have nothingWaits : waiting = [] := List.map_eq_nil_iff.mp (queued.symm.trans taken)
  rw [nothingTravels, nothingWaits, List.append_nil, List.append_nil] at split
  rw [messageCount, packageCount, all, split]
  refine ⟨?_, received, messages, rfl, packages, rfl⟩
  obtain ⟨gone, submitted, sent⟩ := joined.running.accounts.split
  have rest : line.dispatch.outbox.unsent = [] :=
    (Outbox.unsent_of_landed landed).trans queue
  rw [rest, List.append_nil, List.append_nil] at submitted
  rw [sent, submitted, List.filter_eq_self]
  intro message member
  have room := joined.small message (submitted ▸ member)
  obtain ⟨batch, kept, bound⟩ := Option.map_eq_some_iff.mp joined.bounds
  rw [Outbox.admits, kept, Option.all_some, Batch.admits_iff, bound]
  simp only [Bytes.wordValues, Bytes.maxWord, Frame.headerLength, Frame.lengthLength] at room ⊢
  omega

/-- Once the outbox rests and the link is empty, one turn of the inbox is left. -/
theorem Joined.idle_wake (joined : line.Joined remote packageSize id watcher)
    (rests : line.dispatch.Rests) (empty : line.link = []) :
    (line.step react remote (.wake .worker)).Idle := by
  refine ⟨rests, empty, ?_⟩
  show (line.inbox.work react).1.mailbox.queue = []
  rw [Inbox.work_eq react joined.arrives.waits joined.arrives.room]
  rfl

/-- A line that runs can always become idle without another message: its outbox comes to rest, the
frames arrive, and the inbox works. -/
theorem Joined.exists_idle (joined : line.Joined remote packageSize id watcher)
    (spared : Inbox.Spared react id watcher) :
    ∃ events : List (Event Handler Watcher),
      (∀ event ∈ events, event.messages = [] ∧ event.Plain packageSize id watcher) ∧
        (line.run react remote events).Idle := by
  obtain ⟨outgoing, silents, rests⟩ := joined.running.exists_rest
  have sends : ∀ event ∈ (outgoing.map .outgoing : List (Event Handler Watcher)),
      event.messages = [] ∧ event.Plain packageSize id watcher := by
    intro event member
    obtain ⟨inner, among, rfl⟩ := List.mem_map.mp member
    obtain ⟨runs, none⟩ := silents inner among
    refine ⟨none, runs, ?_⟩
    rw [none]
    intro message member
    cases member
  have sent := (joined.run spared fun event member => (sends event member).2).1
  rw [← run_outgoing react remote] at rests
  generalize ran : line.run react remote (outgoing.map .outgoing) = first at sent rests
  have arrivals : ∀ event ∈
      (List.replicate first.link.length .arrive : List (Event Handler Watcher)),
      event.messages = [] ∧ event.Plain packageSize id watcher := by
    intro event member
    rw [List.eq_of_mem_replicate member]
    exact ⟨rfl, trivial⟩
  have brought := (sent.run spared fun event member => (arrivals event member).2).1
  obtain ⟨empty, kept⟩ := run_arrivals react remote first
  rw [← kept] at rests
  have wakes : ∀ event ∈ ([.wake .worker] : List (Event Handler Watcher)),
      event.messages = [] ∧ event.Plain packageSize id watcher := by
    intro event member
    rw [List.mem_singleton.mp member]
    exact ⟨rfl, trivial⟩
  refine ⟨_, List.forall_mem_append.mpr ⟨sends, List.forall_mem_append.mpr ⟨arrivals, wakes⟩⟩, ?_⟩
  rw [run_append, ran, run_append]
  exact brought.idle_wake rests empty

/-- A new line is ready if memory has room for the passes of both ends. -/
theorem create_joined {outgoing : OutboxSettings} {incoming : InboxSettings}
    (outBatched : outgoing.batched = true) (inBatched : incoming.batched = true)
    (outValid : outgoing.check = .ok ()) (inValid : incoming.check = .ok ())
    (outRoom : Memory.hasRoom outgoing.messagesPerPass Bytes.slotSize = true)
    (inRoom : Memory.hasRoom incoming.packagesPerPass Package.slotSize = true)
    (others : Registry Other) {watchers : List Watcher} (distinct : watchers.Nodup)
    (place : watchers[id]? = some watcher) :
    ∃ line : Line Handler Watcher Other, create outgoing incoming others watchers = .ok (.ok line) ∧
      line.Joined remote outgoing.packageSize id watcher ∧ line.dispatch.submitted = [] := by
  obtain ⟨outbox, outMade, running, size, batch⟩ :
      ∃ outbox : Outbox Handler, Outbox.create outgoing Bytes.maxWord = .ok (.ok outbox) ∧ _ :=
    Outbox.create_running outValid outRoom
  let source : Source Other :=
    { listeners :=
        { others with entries := others.entries.map fun entry => (entry.1, .other entry.2) } }
  obtain ⟨limit_pos, inMade⟩ := Inbox.create_eq inValid inRoom source
  let inbox : Inbox Watcher Other :=
    { source := { source with listeners := (source.listeners.subscribe .inbox).1 }
      subscription := some source.listeners.nextId
      mailbox := { limit := incoming.packagesPerPass, limit_pos }
      batched := incoming.batched }
  let line : Line Handler Watcher Other :=
    { dispatch := { outbox }
      inbox := { inbox with handlers := inbox.handlers.subscribeAll watchers } }
  have made : create outgoing incoming others watchers = .ok (.ok line) := by
    simp only [create, bind, Except.bind, pure, Except.pure]
    rw [inMade, outMade]
    simp only [Inbox.subscribe_each, line, inbox]
  have listens : Inbox.ears inbox.source = 1 := by
    rw [Inbox.ears_subscribe, Inbox.ears_others]
  have watches : line.inbox.handlers.Watches (0 + id) watcher :=
    Registry.Watches.of_subscribeAll rfl distinct place
  rw [Nat.zero_add] at watches
  have arrives : line.Arrives remote id watcher [] :=
    ⟨rfl, rfl, rfl, inBatched, listens, watches, [], [], [], rfl, rfl, rfl, rfl, rfl, rfl⟩
  refine ⟨line, made, ⟨running, size, ?_, ?_, arrives⟩, rfl⟩
  · rw [batch, if_pos outBatched]
    rfl
  · intro message member
    cases member

end Joined

/-- Two ends with valid settings for batches, whose passes memory has room for, are joined by a link
that keeps the order. Whatever is sent, however the sends end, and however the messages and packages
are split into passes, every frame can be read, and what is on its way can always come to its end.
Once nothing is on its way, every submitted message was sent, and every watcher that stays
registered was given the messages of the sends that succeeded, each once and in order. Both ends
count the same then. If all sends succeeded, these are all submitted messages. -/
theorem run_delivers [DecidableEq Watcher] {outgoing : OutboxSettings} {incoming : InboxSettings}
    (outBatched : outgoing.batched = true) (inBatched : incoming.batched = true)
    (outValid : outgoing.check = .ok ()) (inValid : incoming.check = .ok ())
    (outRoom : Memory.hasRoom outgoing.messagesPerPass Bytes.slotSize = true)
    (inRoom : Memory.hasRoom incoming.packagesPerPass Package.slotSize = true)
    (others : Registry Other) {watchers : List Watcher} (distinct : watchers.Nodup)
    {id : Nat} {watcher : Watcher} (place : watchers[id]? = some watcher)
    (spared : Inbox.Spared react id watcher)
    {events : List (Event Handler Watcher)}
    (plain : ∀ event ∈ events, event.Plain outgoing.packageSize id watcher) :
    ∃ start : Line Handler Watcher Other,
      create outgoing incoming others watchers = .ok (.ok start) ∧
      let line := start.run react remote events
      let submitted := events.flatMap Event.messages
      (∀ send ∈ line.dispatch.sends,
        ∃ batch, Batch.ofBytes send.delivery.data = .ok batch ∧ batch.messages = send.messages) ∧
      (∃ more : List (Event Handler Watcher),
        (∀ event ∈ more, event.messages = [] ∧ event.Plain outgoing.packageSize id watcher) ∧
          (line.run react remote more).Idle) ∧
      (line.Idle →
        line.dispatch.sends.flatMap Send.messages = submitted ∧
        line.received watcher =
          (Send.loads line.dispatch.sends).flatten.map (fun data => { remote, data }) ∧
        line.inbox.messageCount = line.dispatch.outbox.messageCount ∧
        line.inbox.packageCount = line.dispatch.outbox.packageCount ∧
        ((∀ send ∈ line.dispatch.sends, send.succeeds = true) →
          line.received watcher = submitted.map (fun data => { remote, data }) ∧
          line.inbox.messageCount = UInt64.ofNat submitted.length ∧
          line.inbox.packageCount = UInt64.ofNat line.dispatch.sends.length)) := by
  obtain ⟨start, made, joined, fresh⟩ : ∃ start : Line Handler Watcher Other,
      create outgoing incoming others watchers = .ok (.ok start) ∧
        start.Joined remote outgoing.packageSize id watcher ∧ start.dispatch.submitted = [] :=
    create_joined outBatched inBatched outValid inValid outRoom inRoom others distinct place
  obtain ⟨reached, submitted⟩ := joined.run spared plain
  rw [fresh, List.nil_append] at submitted
  refine ⟨start, made, ?_, reached.exists_idle spared, ?_⟩
  · intro send member
    obtain ⟨fits, written⟩ := (reached.carries send member).frame
    rw [written]
    exact ⟨_, Batch.ofBytes_layout fits, rfl⟩
  · intro idle
    have valid := ((OutboxSettings.check_ok_iff outgoing).mp outValid).1
    obtain ⟨sent, received, inMessages, outMessages, inPackages, outPackages⟩ :=
      reached.idle valid idle
    rw [submitted] at sent
    refine ⟨sent, received, inMessages.trans outMessages.symm, inPackages.trans outPackages.symm, ?_⟩
    intro succeeded
    have loads : Send.loads (start.run react remote events).dispatch.sends =
        (start.run react remote events).dispatch.sends.map Send.messages := by
      rw [Send.loads, List.filter_eq_self.mpr succeeded]
    rw [loads] at received inMessages inPackages
    rw [← List.flatMap_def, sent] at received inMessages
    rw [List.length_map] at inPackages
    exact ⟨received, inMessages, inPackages⟩

/-- Two passes of the outbox are received in one turn of the inbox, whose handlers make others
listen. -/
theorem run_delivers_twoPasses :
    let outgoing : OutboxSettings := { batched := true, packageSize := 64, messagesPerPass := 2 }
    let incoming : InboxSettings := { batched := true, packagesPerPass := 1 }
    let events : List (Event Unit Bool) :=
      [.outgoing (.call 0 (.send [[1], [], [2, 3]])), .outgoing (.resume .worker (.ok 0)),
        .outgoing (.land (.ok 0)), .arrive, .outgoing (.land (.ok 0)), .arrive, .wake .worker]
    ∃ start : Line Unit Bool Unit, create outgoing incoming {} [false, true] = .ok (.ok start) ∧
      let line := start.run (fun _ _ => [.subscribe false]) (.loopback 1000) events
      line.Idle ∧ line.dispatch.sends.length = 2 ∧
        line.received true =
          [[1], [], [2, 3]].map (fun data => { remote := .loopback 1000, data }) ∧
        line.inbox.messageCount = 3 ∧ line.inbox.packageCount = 2 := by
  intro outgoing incoming events
  have outValid : outgoing.check = .ok () := rfl
  have inValid : incoming.check = .ok () := rfl
  have distinct : [false, true].Nodup := by decide
  have place : [false, true][1]? = some true := rfl
  have plain : ∀ event ∈ events, event.Plain outgoing.packageSize 1 true := by
    simp [events, outgoing, Event.Plain, Dispatch.Event.runs, Outbox.Call.runs,
      Dispatch.Event.messages, Outbox.Call.messages, Frame.lengthLength, Bytes.wordValues]
  have spared : Inbox.Spared (fun _ _ => [.subscribe false]) 1 true := by
    simp [Inbox.Spared, Inbox.Change.Spares]
  obtain ⟨start, made, _, _, delivered⟩ :=
    run_delivers (fun _ _ => [.subscribe false]) (.loopback 1000) rfl rfl outValid inValid rfl rfl
      ({} : Registry Unit) distinct place spared plain
  have reached : let line := start.run (fun _ _ => [.subscribe false]) (.loopback 1000) events
      line.Idle ∧ line.dispatch.sends.length = 2 ∧
        ∀ send ∈ line.dispatch.sends, send.succeeds = true := by
    cases made
    decide
  obtain ⟨idle, count, succeeded⟩ := reached
  obtain ⟨_, _, _, _, all⟩ := delivered idle
  obtain ⟨received, messages, packages⟩ := all succeeded
  rw [count] at packages
  exact ⟨start, made, idle, count, received, messages, packages⟩

/-- Without room for a pass nothing is sent, and a send that fails takes its messages with it. -/
theorem run_loses :
    (let outgoing : OutboxSettings :=
      { batched := true, messagesPerPass := 18446744073709551615 }
    let events : List (Event Unit Unit) :=
      [.outgoing (.resume .worker (.ok 0)), .outgoing (.call 0 (.send [[97]])),
        .outgoing (.resume .worker (.ok 0)), .wake .worker]
    ∃ start : Line Unit Unit Unit,
      create outgoing { batched := true } {} [()] = .ok (.ok start) ∧
        (∀ event ∈ events, event.Plain outgoing.packageSize 0 ()) ∧
        let line := start.run (fun _ _ => []) (.loopback 1000) events
        line.Idle ∧ line.received () = [] ∧ line.dispatch.sends.length = 0 ∧
          line.dispatch.outbox.messageCount = 0) ∧
    let outgoing : OutboxSettings := { batched := true }
    let events : List (Event Unit Unit) :=
      [.outgoing (.call 0 (.send [[97]])),
        .outgoing (.resume .worker (.error (.io .brokenPipe))), .outgoing (.land (.ok 0)),
        .wake .worker]
    ∃ start : Line Unit Unit Unit,
      create outgoing { batched := true } {} [()] = .ok (.ok start) ∧
        (∀ event ∈ events, event.Plain outgoing.packageSize 0 ()) ∧
        let line := start.run (fun _ _ => []) (.loopback 1000) events
        line.Idle ∧ line.received () = [] ∧ line.dispatch.sends.length = 1 ∧
          line.dispatch.outbox.messageCount = 0 := by
  constructor
  · intro outgoing events
    refine ⟨_, rfl, ?_, ?_⟩
    · simp [events, outgoing, Event.Plain, Dispatch.Event.runs, Outbox.Call.runs,
        Dispatch.Event.messages, Outbox.Call.messages, Frame.lengthLength, Bytes.wordValues]
    · decide
  · intro outgoing events
    refine ⟨_, rfl, ?_, ?_⟩
    · simp [events, outgoing, Event.Plain, Dispatch.Event.runs, Outbox.Call.runs,
        Dispatch.Event.messages, Outbox.Call.messages, Frame.lengthLength, Bytes.wordValues]
    · decide

end Line

end ReliableTransport
