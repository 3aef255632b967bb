import ReliableTransport.Proofs.Inbox.Course
/-!
This module says what the worker of an inbox makes of the packages that it takes. Every message of
every frame is delivered once and in order, to the handlers that are registered when its delivery
begins, and the counters count what has been delivered.
-/

namespace ReliableTransport

namespace Inbox

variable {Handler Other : Type}

namespace Deed

/-- The package that the worker is done with as a whole or has unpacked. -/
def worked? : Deed Handler → Option Package
  | .opens package => some package
  | .discards package => some package
  | _ => none

def opened? : Deed Handler → Option Package
  | .opens package => some package
  | _ => none

def message? : Deed Handler → Option Package
  | .delivers message => some message
  | _ => none

def isReset : Deed Handler → Bool
  | .resets => true
  | _ => false

/-- The worker begins a delivery or calls a handler. -/
def isAct : Deed Handler → Bool
  | .delivers _ => true
  | .calls _ => true
  | _ => false

/-- Something happens that is neither work of the worker nor a reset. -/
def isQuiet : Deed Handler → Bool
  | .tells _ | .registers _ | .strikes _ | .closes _ | .disposes => true
  | _ => false

/-- The registered handlers after a deed. -/
def applied (handlers : Registry Handler) : Deed Handler → Registry Handler
  | .registers handler => (handlers.subscribe handler).1
  | .strikes id => (handlers.unsubscribe id).1
  | _ => handlers

/-- What a delivery comes to: its beginning, and a call of each handler that is registered then. -/
def comesTo (handlers : Registry Handler) : Deed Handler → List (Deed Handler)
  | .delivers message =>
    .delivers message :: handlers.handlers.map fun handler => .calls { handler, package := message }
  | _ => []

theorem silent {deed : Deed Handler} (quiet : deed.isQuiet = true) :
    deed.worked? = none ∧ deed.opened? = none ∧ deed.message? = none ∧ deed.isAct = false ∧
      deed.isReset = false ∧ ∀ handlers, deed.comesTo handlers = [] := by
  cases deed <;> first | exact ⟨rfl, rfl, rfl, rfl, rfl, fun _ => rfl⟩ | cases quiet

end Deed

/-- The packages that the worker unpacked or dropped, in order. -/
def worked (log : List (Deed Handler)) : List Package := log.filterMap Deed.worked?

/-- The packages that the worker unpacked. -/
def openings (log : List (Deed Handler)) : List Package := log.filterMap Deed.opened?

/-- The messages whose delivery began, in order. -/
def delivered (log : List (Deed Handler)) : List Package := log.filterMap Deed.message?

/-- The deliveries and the calls of handlers, in order. -/
def acts (log : List (Deed Handler)) : List (Deed Handler) := log.filter Deed.isAct

/-- The handlers that are registered after all that happened. -/
def registered (log : List (Deed Handler)) : Registry Handler := log.foldl Deed.applied {}

/-- What the deliveries in a log come to, if handlers are registered when it begins. -/
def due (handlers : Registry Handler) : List (Deed Handler) → List (Deed Handler)
  | [] => []
  | deed :: rest => deed.comesTo handlers ++ due (deed.applied handlers) rest

/-- How often something happened since the last reset. -/
def tally (counts : Deed Handler → Bool) (log : List (Deed Handler)) : Nat :=
  (log.reverse.takeWhile fun deed => !deed.isReset).countP counts

/-- Messages can be taken out of the package. -/
def legible (batched : Bool) (package : Package) : Bool := (unpack batched package).isSome

theorem unpacked_concat (batched : Bool) (packages : List Package) (package : Package) :
    unpacked batched (packages ++ [package]) =
      unpacked batched packages ++ (unpack batched package).toList := by
  cases found : unpack batched package <;> simp [unpacked, found]

section Log

variable (log : List (Deed Handler)) (deed : Deed Handler)

@[simp] theorem worked_concat : worked (log ++ [deed]) = worked log ++ deed.worked?.toList := by
  cases found : deed.worked? <;> simp [worked, found]

@[simp] theorem openings_concat :
    openings (log ++ [deed]) = openings log ++ deed.opened?.toList := by
  cases found : deed.opened? <;> simp [openings, found]

@[simp] theorem delivered_concat :
    delivered (log ++ [deed]) = delivered log ++ deed.message?.toList := by
  cases found : deed.message? <;> simp [delivered, found]

@[simp] theorem acts_concat :
    acts (log ++ [deed]) = acts log ++ if deed.isAct then [deed] else [] := by
  cases found : deed.isAct <;> simp [acts, found]

@[simp] theorem registered_concat : registered (log ++ [deed]) = deed.applied (registered log) := by
  rw [registered, List.foldl_append]
  rfl

@[simp] theorem due_concat :
    due {} (log ++ [deed]) = due {} log ++ deed.comesTo (registered log) := by
  have grown (handlers : Registry Handler) : due handlers (log ++ [deed]) =
      due handlers log ++ deed.comesTo (log.foldl Deed.applied handlers) := by
    induction log generalizing handlers with
    | nil => exact List.append_nil _
    | cons first rest ih => rw [List.cons_append, due, ih, due, List.append_assoc, List.foldl_cons]
  exact grown {}

@[simp] theorem tally_concat (counts : Deed Handler → Bool) :
    tally counts (log ++ [deed]) =
      if deed.isReset then 0 else tally counts log + (counts deed).toNat := by
  cases resets : deed.isReset with
  | true => simp [tally, resets]
  | false =>
      rw [tally, List.reverse_concat, List.takeWhile_cons_of_pos (by simp [resets]),
        List.countP_cons]
      cases counts deed <;> rfl

end Log

namespace Course

/-- What holds of the worker's deliveries, whatever happens. -/
structure Exact (batched : Bool) (course : Course Handler Other) : Prop where
  kept : course.inbox.batched = batched
  handlers : course.inbox.handlers = registered course.log
  /-- Every delivery goes on until each handler that was registered when it began was called. -/
  acted : acts course.log ++ course.pass.orders.map .calls = due {} course.log
  /-- The messages of the packages are delivered one after the other. -/
  delivered : Inbox.delivered course.log ++ course.pass.messages =
    (unpacked batched (worked course.log)).flatten
  opened : openings course.log = (worked course.log).filter (legible batched)
  messageCount : course.inbox.messageCount =
    UInt64.ofNat (tally (fun deed => deed.message?.isSome) course.log)
  packageCount : course.inbox.packageCount =
    UInt64.ofNat (tally (fun deed => deed.opened?.isSome) course.log)

namespace Exact

variable {batched : Bool} {course : Course Handler Other}

/-- The mailbox, the source and the number of the calls are nothing to what was delivered. -/
theorem beside (exact : Exact batched course) (mailbox : Mailbox Package) (source : Source Other)
    (subscription : Option Nat) (underway : List Package) (calls : Nat) :
    Exact batched { course with
      inbox := { course.inbox with mailbox, source, subscription }
      underway
      calls } :=
  { exact with }

/-- What is no work of the worker is nothing to what was delivered, but may concern the handlers. -/
theorem note (exact : Exact batched course) (deed : Deed Handler) (quiet : deed.isQuiet = true) :
    Exact batched { course with
      inbox := { course.inbox with handlers := deed.applied course.inbox.handlers }
      log := course.log ++ [deed] } := by
  obtain ⟨worked, opened, message, act, reset, nothing⟩ := Deed.silent quiet
  exact {
    kept := exact.kept
    handlers := by rw [registered_concat, exact.handlers]
    acted := by simpa [act, nothing] using exact.acted
    delivered := by simpa [message, worked] using exact.delivered
    opened := by simpa [opened, worked] using exact.opened
    messageCount := by simpa [reset, message] using exact.messageCount
    packageCount := by simpa [reset, opened] using exact.packageCount }

/-- Packages of the source are nothing to the worker until it takes them. -/
theorem tells (exact : Exact batched course) (packages : List Package) :
    Exact batched { course with log := course.log ++ packages.map .tells } := by
  induction packages generalizing course with
  | nil =>
      rw [List.map_nil, List.append_nil]
      exact exact
  | cons package rest ih =>
      have noted : Exact batched { course with log := course.log ++ [.tells package] } :=
        exact.note (.tells package) rfl
      rw [List.map_cons, List.append_cons]
      exact ih noted

theorem reset (exact : Exact batched course) :
    Exact batched { course with
      inbox := { course.inbox with messageCount := 0, packageCount := 0 }
      log := course.log ++ [.resets] } where
  kept := exact.kept
  handlers := by simpa [Deed.applied] using exact.handlers
  acted := by simpa [Deed.isAct, Deed.comesTo] using exact.acted
  delivered := by simpa [Deed.message?, Deed.worked?] using exact.delivered
  opened := by simpa [Deed.opened?, Deed.worked?] using exact.opened
  messageCount := by simp [Deed.isReset, Deed.message?]
  packageCount := by simp [Deed.isReset, Deed.opened?]

theorem work (exact : Exact batched course) : Exact batched course.work := by
  obtain ⟨kept, handlers, acted, delivered, opened, messageCount, packageCount⟩ := exact
  generalize next : course.work = after
  cases next ▸ works course with
  | calls left =>
      rw [left] at acted delivered
      exact {
        kept
        handlers := by simpa [Deed.applied] using handlers
        acted := by simp [Deed.isAct, Deed.comesTo, ← acted]
        delivered := by simpa [Deed.message?, Deed.worked?] using delivered
        opened := by simpa [Deed.opened?, Deed.worked?] using opened
        messageCount := by simpa [Deed.isReset, Deed.message?] using messageCount
        packageCount := by simpa [Deed.isReset, Deed.opened?] using packageCount }
  | delivers left =>
      rw [left] at acted delivered
      exact {
        kept
        handlers := by simpa [Deed.applied] using handlers
        acted := by simp [Deed.isAct, Deed.comesTo, ← acted, handlers, Function.comp_def]
        delivered := by simpa [Deed.message?, Deed.worked?] using delivered
        opened := by simpa [Deed.opened?, Deed.worked?] using opened
        messageCount := by simp [Deed.isReset, Deed.message?, messageCount, UInt64.ofNat_add]
        packageCount := by simpa [Deed.isReset, Deed.opened?] using packageCount }
  | opens left found =>
      rw [left] at acted delivered
      rw [kept] at found
      exact {
        kept
        handlers := by simpa [Deed.applied] using handlers
        acted := by simpa [Deed.isAct, Deed.comesTo] using acted
        delivered := by
          have before := delivered
          rw [List.append_nil] at before
          simp [Deed.message?, Deed.worked?, unpacked_concat, found, before]
        opened := by simp [Deed.opened?, Deed.worked?, opened, legible, found]
        messageCount := by simpa [Deed.isReset, Deed.message?] using messageCount
        packageCount := by simp [Deed.isReset, Deed.opened?, packageCount, UInt64.ofNat_add] }
  | discards left missing =>
      rw [left] at acted delivered
      rw [kept] at missing
      exact {
        kept
        handlers := by simpa [Deed.applied] using handlers
        acted := by simpa [Deed.isAct, Deed.comesTo] using acted
        delivered := by
          simpa [Deed.message?, Deed.worked?, unpacked_concat, missing] using delivered
        opened := by simp [Deed.opened?, Deed.worked?, opened, legible, missing]
        messageCount := by simpa [Deed.isReset, Deed.message?] using messageCount
        packageCount := by simpa [Deed.isReset, Deed.opened?] using packageCount }
  | ends => exact { kept, handlers, acted, delivered, opened, messageCount, packageCount }
  | begins left =>
      rw [left] at acted delivered
      exact { kept, handlers, acted, delivered, opened, messageCount, packageCount }

theorem step (exact : Exact batched course) (event : Event Handler Other) :
    Exact batched (course.step event) := by
  cases event with
  | call call =>
      cases call with
      | fire packages =>
          obtain ⟨bytesReceived, queue, fired⟩ := fireAll_frame packages course.inbox
          rw [Course.step, turn, start, fired]
          exact { exact.tells packages with }
      | subscribe handler => exact { exact.note (.registers handler) rfl with }
      | unsubscribe id => exact { exact.note (.strikes id) rfl with }
      | reset => exact { exact.reset with }
      | close =>
          obtain ⟨source, gone⟩ := unsubscribeFromSource_frame course.inbox
          rw [Course.step, turn, start, gone]
          exact { exact.note (.closes course.calls) rfl with }
      | dispose =>
          obtain ⟨source, gone⟩ := unsubscribeFromSource_frame course.inbox
          rw [Course.step, turn, start, gone]
          exact { exact.note .disposes rfl with }
  | work => exact exact.work
  | turn number =>
      obtain ⟨joiner, same, _⟩ := await_frame course.inbox (.caller number)
      rw [Course.step, turn, same]
      exact { exact with }
  | abandon number => exact { exact with }
  | announce package => exact { exact with }
  | tell position =>
      rw [Course.step]
      split
      · exact exact
      next package _ => exact { exact.tells [package] with }
  | listen other => exact { exact with }
  | unlisten id =>
      rw [Course.step]
      split
      · exact exact
      · exact { exact with }

theorem run (exact : Exact batched course) (events : List (Event Handler Other)) :
    Exact batched (course.run events) := by
  induction events generalizing course with
  | nil => exact exact
  | cons event rest ih => exact ih (exact.step event)

end Exact

end Course

end Inbox

end ReliableTransport
