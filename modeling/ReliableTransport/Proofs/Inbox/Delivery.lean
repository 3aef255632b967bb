import ReliableTransport.Inbox
import ReliableTransport.Proofs.Mailbox
import ReliableTransport.Proofs.Settings
/-!
This module says what an inbox delivers, and to whom. The messages of all packages go one after the
other to the handlers that are registered at that time. How the packages are split into passes makes
no difference.
-/

namespace ReliableTransport

/-- Registers handlers one behind the other. -/
def Registry.subscribeAll {Handler : Type} (registry : Registry Handler) (handlers : List Handler) :
    Registry Handler :=
  handlers.foldl (fun registry handler => (registry.subscribe handler).1) registry

namespace Inbox

open Mailbox (Role)

variable {Handler Other Result : Type}

/-- The registry after the changes that a handler makes. -/
def adjusted (handlers : Registry Handler) (changes : List (Change Handler)) : Registry Handler :=
  changes.foldl (fun handlers change =>
    match change with
    | .subscribe handler => (handlers.subscribe handler).1
    | .unsubscribe id => (handlers.unsubscribe id).1) handlers

variable (react : Handler → Package → List (Change Handler))

/-- The registry after handlers were called with a package. -/
def stirred (package : Package) (called : List Handler) (handlers : Registry Handler) :
    Registry Handler :=
  called.foldl (fun handlers handler => adjusted handlers (react handler package)) handlers

/-- The registry after messages were delivered, and what was handed to whom. -/
def distribute : List Package → Registry Handler → Registry Handler × List (Order Handler)
  | [], handlers => (handlers, [])
  | package :: rest, handlers =>
    let later := distribute rest (stirred react package handlers.handlers handlers)
    (later.1, handlers.handlers.map (fun handler => { handler, package }) ++ later.2)

/-- The messages of each package that can be unpacked. -/
def unpacked (batched : Bool) (packages : List Package) : List (List Package) :=
  packages.filterMap (unpack batched)

/-- The inbox after it worked on packages, and what was handed to whom. -/
def processed (inbox : Inbox Handler Other) (packages : List Package) :
    Inbox Handler Other × List (Order Handler) :=
  let loads := unpacked inbox.batched packages
  let told := distribute react loads.flatten inbox.handlers
  ({ inbox with
      handlers := told.1
      messageCount := inbox.messageCount + UInt64.ofNat loads.flatten.length
      packageCount := inbox.packageCount + UInt64.ofNat loads.length }, told.2)

/-- What a turn asks of the outside when it calls handlers. -/
def calls (orders : List (Order Handler)) : List (Effect Role (Order Handler) Result) :=
  orders.map fun order => .order .worker order

theorem orders_calls (orders : List (Order Handler)) :
    Effect.orders (calls orders : List (Effect Role (Order Handler) Result)) = orders := by
  induction orders with
  | nil => rfl
  | cons order rest ih => exact congrArg (order :: ·) ih

theorem distribute_append (front back : List Package) (handlers : Registry Handler) :
    distribute react (front ++ back) handlers =
      let first := distribute react front handlers
      let second := distribute react back first.1
      (second.1, first.2 ++ second.2) := by
  induction front generalizing handlers with
  | nil => rfl
  | cons package rest ih =>
      rw [List.cons_append, distribute, ih]
      simp only [distribute, List.append_assoc]

theorem callEach_eq (package : Package) (called : List Handler) (inbox : Inbox Handler Other) :
    (callEach react package called inbox :
        Inbox Handler Other × List (Effect Role (Order Handler) Result)) =
      ({ inbox with handlers := stirred react package called inbox.handlers },
        calls (called.map fun handler => { handler, package })) := by
  induction called generalizing inbox with
  | nil => rfl
  | cons handler rest ih =>
      rw [callEach, ih]
      rfl

theorem count_cons (count : UInt64) (message : Package) (rest : List Package) :
    count + UInt64.ofNat (message :: rest).length = count + 1 + UInt64.ofNat rest.length := by
  rw [List.length_cons, Nat.add_comm, UInt64.ofNat_add, UInt64.add_assoc]
  rfl

theorem deliverEach_eq (packages : List Package) (inbox : Inbox Handler Other) :
    (deliverEach react packages inbox :
        Inbox Handler Other × List (Effect Role (Order Handler) Result)) =
      let told := distribute react packages inbox.handlers
      ({ inbox with
          handlers := told.1
          messageCount := inbox.messageCount + UInt64.ofNat packages.length },
        calls told.2) := by
  induction packages generalizing inbox with
  | nil => simp [deliverEach, distribute, calls]
  | cons package rest ih =>
      simp only [deliverEach, deliver, callEach_eq, ih, distribute, calls, List.map_append,
        count_cons]

theorem unpacked_append (batched : Bool) (front back : List Package) :
    unpacked batched (front ++ back) = unpacked batched front ++ unpacked batched back :=
  List.filterMap_append

/-- Packages in two lots are worked on as if they came in one. -/
theorem processed_append (inbox : Inbox Handler Other) (front back : List Package) :
    processed react inbox (front ++ back) =
      let first := processed react inbox front
      let second := processed react first.1 back
      (second.1, first.2 ++ second.2) := by
  simp only [processed, unpacked_append, List.flatten_append, distribute_append, List.length_append,
    UInt64.ofNat_add, UInt64.add_assoc]

/-- A package that can not be unpacked is passed over. -/
theorem processed_discard {inbox : Inbox Handler Other} {package : Package}
    (found : unpack inbox.batched package = none) (rest : List Package) :
    processed react inbox (package :: rest) = processed react inbox rest := by
  simp [processed, unpacked, found]

/-- The messages of one package are delivered before the next package is worked on. -/
theorem processed_open {inbox : Inbox Handler Other} {package : Package}
    {messages : List Package} (found : unpack inbox.batched package = some messages)
    (rest : List Package) :
    processed react inbox (package :: rest) =
      let told := distribute react messages inbox.handlers
      let later := processed react { inbox with
        handlers := told.1
        messageCount := inbox.messageCount + UInt64.ofNat messages.length
        packageCount := inbox.packageCount + 1 } rest
      (later.1, told.2 ++ later.2) := by
  have first : processed react inbox [package] =
      ({ inbox with
          handlers := (distribute react messages inbox.handlers).1
          messageCount := inbox.messageCount + UInt64.ofNat messages.length
          packageCount := inbox.packageCount + 1 },
        (distribute react messages inbox.handlers).2) := by
    simp [processed, unpacked, found]
  have lots := processed_append react inbox [package] rest
  rwa [List.singleton_append, first] at lots

theorem workOn_eq (packages : List Package) (inbox : Inbox Handler Other) :
    (workOn react packages inbox :
        Inbox Handler Other × List (Effect Role (Order Handler) Result)) =
      ((processed react inbox packages).1, calls (processed react inbox packages).2) := by
  induction packages generalizing inbox with
  | nil => simp [workOn, processed, unpacked, distribute, calls]
  | cons package rest ih =>
      rw [workOn]
      cases found : unpack inbox.batched package with
      | none =>
          rw [processed_discard react found]
          exact ih inbox
      | some messages =>
          rw [processed_open react found]
          simp only [deliverEach_eq, ih, calls, List.map_append]

/-- Working on packages is no matter of the mailbox. -/
theorem processed_mailbox (inbox : Inbox Handler Other) (mailbox : Mailbox Package)
    (packages : List Package) :
    processed react { inbox with mailbox } packages =
      ({ (processed react inbox packages).1 with mailbox }, (processed react inbox packages).2) :=
  rfl

/-- The mailbox of a worker that found no further item. -/
def drained (mailbox : Mailbox Package) : Mailbox Package :=
  { mailbox with queue := [], worker := if mailbox.closed then .ended else .waiting }

/-- A worker that waits takes passes until nothing is queued. The passes together work on the whole
queue. -/
theorem makePasses_eq (passes : Nat) {inbox : Inbox Handler Other}
    (waits : inbox.mailbox.worker = .waiting) (room : inbox.mailbox.hasRoom = true)
    (enough : inbox.mailbox.queue.length < passes) :
    (makePasses react passes inbox : Turn (Inbox Handler Other) Role (Order Handler) Result) =
      let worked := processed react inbox inbox.mailbox.queue
      ({ worked.1 with mailbox := drained inbox.mailbox },
        calls worked.2 ++ (drained inbox.mailbox).wakeJoiner) := by
  induction passes generalizing inbox with
  | zero => omega
  | succ passes ih =>
      by_cases empty : inbox.mailbox.queue = []
      · have nothing : processed react inbox inbox.mailbox.queue = (inbox, []) := by
          simp [empty, processed, unpacked, distribute]
        have same : drained inbox.mailbox =
            { inbox.mailbox with worker := if inbox.mailbox.closed then .ended else .waiting } := by
          rw [drained, ← empty]
        rw [makePasses, Mailbox.takePass_of_empty waits room empty]
        simp only [nothing, same]
        rfl
      · have shorter : (inbox.mailbox.queue.drop inbox.mailbox.limit).length < passes := by
          have positive := inbox.mailbox.limit_pos
          have queued := List.length_pos_iff.mpr empty
          rw [List.length_drop]
          omega
        have lots := processed_append react inbox (inbox.mailbox.queue.take inbox.mailbox.limit)
          (inbox.mailbox.queue.drop inbox.mailbox.limit)
        rw [List.take_append_drop] at lots
        have further (started : Inbox Handler Other) := @ih
          { started with
            mailbox :=
              { inbox.mailbox with
                queue := inbox.mailbox.queue.drop inbox.mailbox.limit
                worker := .waiting } }
          rfl room shorter
        rw [makePasses, Mailbox.takePass_of_queued waits room empty]
        simp only [workOn_eq, processed_mailbox, lots, Mailbox.endPass, further, calls,
          List.map_append, List.append_assoc]
        rfl

theorem work_eq {inbox : Inbox Handler Other} (waits : inbox.mailbox.worker = .waiting)
    (room : inbox.mailbox.hasRoom = true) :
    (work react inbox : Turn (Inbox Handler Other) Role (Order Handler) Result) =
      let worked := processed react inbox inbox.mailbox.queue
      ({ worked.1 with mailbox := drained inbox.mailbox },
        calls worked.2 ++ (drained inbox.mailbox).wakeJoiner) :=
  makePasses_eq react _ waits room (Nat.lt_succ_self _)

/-- How often an inbox is registered at a source. -/
def ears (source : Source Other) : Nat :=
  source.listeners.handlers.countP fun listener =>
    match listener with
    | .inbox => true
    | .other _ => false

/-- A new inbox is registered once more than before. -/
theorem ears_subscribe (source : Source Other) :
    ears { source with listeners := (source.listeners.subscribe .inbox).1 } = ears source + 1 := by
  rw [ears, Registry.handlers, Registry.subscribe, List.map_append, List.countP_append]
  rfl

/-- Nobody else is counted as the inbox. -/
theorem ears_others (nextId : Nat) (others : List (Nat × Other)) :
    ears { listeners := { nextId, entries := others.map fun entry => (entry.1, .other entry.2) } } =
      0 := by
  rw [ears, List.countP_eq_zero]
  intro listener member
  simp only [Registry.handlers, List.map_map, List.mem_map] at member
  obtain ⟨entry, _, rfl⟩ := member
  exact Bool.false_ne_true

/-- A new inbox has nothing to do. -/
theorem create_eq {settings : InboxSettings} (valid : settings.check = .ok ())
    (room : Memory.hasRoom settings.packagesPerPass Package.slotSize = true)
    (source : Source Other) :
    ∃ limit_pos : 0 < settings.packagesPerPass,
      create settings source = .ok (.ok
        ({ source := { source with listeners := (source.listeners.subscribe .inbox).1 }
           subscription := some source.listeners.nextId
           mailbox := { limit := settings.packagesPerPass, limit_pos }
           batched := settings.batched } : Inbox Handler Other)) := by
  have limit_pos := (InboxSettings.check_ok_iff settings).mp valid
  have mailbox : Mailbox.create settings.packagesPerPass Package.slotSize =
      .ok ({ limit := settings.packagesPerPass, limit_pos } : Mailbox Package) := by
    rw [Mailbox.create, dif_pos limit_pos, room]
  refine ⟨limit_pos, ?_⟩
  simp only [create, valid, mailbox, bind, Except.bind, pure, Except.pure]
  rfl

/-- Those who subscribe at an inbox are registered one behind the other. -/
theorem subscribe_each (watchers : List Handler) (inbox : Inbox Handler Other) :
    watchers.foldl (fun inbox watcher => (inbox.start (.caller 0) (.subscribe watcher)).1) inbox =
      { inbox with handlers := inbox.handlers.subscribeAll watchers } := by
  induction watchers generalizing inbox with
  | nil => rfl
  | cons watcher rest ih => exact ih _

/-- An inbox hears of a package as often as it is registered at the source. -/
theorem fire_mailbox (inbox : Inbox Handler Other) (package : Package) :
    (inbox.fire package).mailbox =
      (inbox.mailbox.pushAll (List.replicate (ears inbox.source) package)).1 := by
  have told (listeners : List (Listener Other)) :
      (listeners.filterMap fun listener =>
        match listener with
        | .inbox => some package
        | .other _ => none) =
        List.replicate
          (listeners.countP fun listener =>
            match listener with
            | .inbox => true
            | .other _ => false) package := by
    induction listeners with
    | nil => rfl
    | cons listener rest ih =>
        cases listener with
        | inbox => simpa [List.replicate_succ] using ih
        | other _ => simpa using ih
  rw [ears, ← told]
  rfl

/-- Only the mailbox and the source notice a package that comes in. -/
theorem fire_frame (inbox : Inbox Handler Other) (package : Package) :
    inbox.fire package =
      { inbox with
        source :=
          { inbox.source with
            bytesReceived :=
              inbox.source.bytesReceived + UInt64.ofNat package.data.length }
        mailbox := (inbox.fire package).mailbox } := rfl

end Inbox

/-- A handler is registered once, with a number. -/
def Registry.Watches {Handler : Type} [DecidableEq Handler] (registry : Registry Handler) (id : Nat)
    (watcher : Handler) : Prop :=
  registry.entries.filter (fun entry => entry.2 = watcher) = [(id, watcher)]

namespace Registry.Watches

variable {Handler : Type} [DecidableEq Handler] {registry : Registry Handler} {id : Nat}
  {watcher : Handler}

theorem subscribe (watches : registry.Watches id watcher) {handler : Handler}
    (different : handler ≠ watcher) : (registry.subscribe handler).1.Watches id watcher := by
  rw [Watches, Registry.subscribe, List.filter_append, watches]
  simp [different]

theorem unsubscribe (watches : registry.Watches id watcher) {other : Nat} (different : other ≠ id) :
    (registry.unsubscribe other).1.Watches id watcher := by
  have swapped : (registry.entries.filter fun entry => entry.1 != other).filter
      (fun entry => entry.2 = watcher) =
      (registry.entries.filter fun entry => entry.2 = watcher).filter
        (fun entry => entry.1 != other) := by
    rw [List.filter_filter, List.filter_filter]
    simp only [Bool.and_comm]
  rw [Watches, Registry.unsubscribe, swapped, watches]
  simp [different.symm]

/-- Subscriptions of others leave the watcher's alone. -/
theorem subscribeAll {handlers : List Handler} (watches : registry.Watches id watcher)
    (absent : watcher ∉ handlers) : (registry.subscribeAll handlers).Watches id watcher := by
  induction handlers generalizing registry with
  | nil => exact watches
  | cons handler rest ih =>
      obtain ⟨different, later⟩ := not_or.mp (mt List.mem_cons.mpr absent)
      exact ih (watches.subscribe (Ne.symm different)) later

/-- A handler is registered with its place among those that subscribe. -/
theorem of_subscribeAll {handlers : List Handler}
    (unknown : registry.entries.filter (fun entry => entry.2 = watcher) = [])
    (distinct : handlers.Nodup) (place : handlers[id]? = some watcher) :
    (registry.subscribeAll handlers).Watches (registry.nextId + id) watcher := by
  induction handlers generalizing registry id with
  | nil => cases place
  | cons handler rest ih =>
      obtain ⟨absent, others⟩ := List.nodup_cons.mp distinct
      cases id with
      | zero =>
          obtain rfl : handler = watcher := Option.some.inj place
          have watches : (registry.subscribe handler).1.Watches registry.nextId handler := by
            rw [Watches, Registry.subscribe, List.filter_append, unknown]
            simp
          exact watches.subscribeAll absent
      | succ id =>
          have later : rest[id]? = some watcher := place
          have different : handler ≠ watcher := by
            rintro rfl
            exact absent (List.mem_of_getElem? later)
          have stillUnknown : (registry.subscribe handler).1.entries.filter
              (fun entry => entry.2 = watcher) = [] := by
            rw [Registry.subscribe, List.filter_append, unknown]
            simp [different]
          have watches := ih stillUnknown others later
          rw [← Nat.succ_add_eq_add_succ]
          exact watches

/-- Of all registered handlers a notification finds the watcher once. -/
theorem handlers (watches : registry.Watches id watcher) :
    registry.handlers.filter (fun handler => handler = watcher) = [watcher] := by
  have only : registry.entries.filter ((fun handler => decide (handler = watcher)) ∘ Prod.snd) =
      [(id, watcher)] := watches
  rw [Registry.handlers, List.filter_map, only]
  rfl

end Registry.Watches

namespace Inbox

/-- The change leaves a handler's registration alone. -/
def Change.Spares {Handler : Type} (id : Nat) (watcher : Handler) : Change Handler → Prop
  | .subscribe handler => handler ≠ watcher
  | .unsubscribe other => other ≠ id

/-- No handler touches another one's registration when it is called. -/
def Spared {Handler : Type} (react : Handler → Package → List (Change Handler)) (id : Nat)
    (watcher : Handler) : Prop :=
  ∀ handler package, ∀ change ∈ react handler package, change.Spares id watcher

section Watched

variable {Handler : Type} [DecidableEq Handler] {id : Nat} {watcher : Handler}

theorem watches_adjusted {handlers : Registry Handler} (watches : handlers.Watches id watcher)
    {changes : List (Change Handler)} (spared : ∀ change ∈ changes, change.Spares id watcher) :
    (adjusted handlers changes).Watches id watcher := by
  induction changes generalizing handlers with
  | nil => exact watches
  | cons change rest ih =>
      have spares := spared change List.mem_cons_self
      have others := fun other member => spared other (List.mem_cons_of_mem _ member)
      cases change with
      | subscribe handler => exact ih (watches.subscribe spares) others
      | unsubscribe other => exact ih (watches.unsubscribe spares) others

variable {react : Handler → Package → List (Change Handler)}

theorem watches_stirred (spared : Spared react id watcher) (package : Package)
    (called : List Handler) {handlers : Registry Handler} (watches : handlers.Watches id watcher) :
    (stirred react package called handlers).Watches id watcher := by
  induction called generalizing handlers with
  | nil => exact watches
  | cons handler rest ih => exact ih (watches_adjusted watches (spared handler package))

/-- A handler that stays registered is given every message once and in order. -/
theorem distribute_watched (spared : Spared react id watcher) (packages : List Package)
    {handlers : Registry Handler} (watches : handlers.Watches id watcher) :
    (distribute react packages handlers).1.Watches id watcher ∧
      (distribute react packages handlers).2.filter (fun order => order.handler = watcher) =
        packages.map fun package => { handler := watcher, package } := by
  induction packages generalizing handlers with
  | nil => exact ⟨watches, rfl⟩
  | cons package rest ih =>
      obtain ⟨stays, later⟩ := ih (watches_stirred spared package handlers.handlers watches)
      refine ⟨stays, ?_⟩
      have now : (handlers.handlers.map (Order.mk · package)).filter
          (fun order => order.handler = watcher) = [{ handler := watcher, package }] := by
        have only : handlers.handlers.filter
            ((fun order => decide (order.handler = watcher)) ∘ (Order.mk · package)) = [watcher] :=
          watches.handlers
        rw [List.filter_map, only]
        rfl
      rw [distribute, List.filter_append, now, later]
      rfl

end Watched

end Inbox

end ReliableTransport
