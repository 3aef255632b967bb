import ReliableTransport.Proofs.Mailbox
/-!
This module follows a mailbox over time. Callers put items in and close it, the worker has its turns,
and its passes end or break down, all in any order and after any time.
-/

namespace ReliableTransport

namespace Mailbox

/-- What the worker does. -/
inductive Mark (Item : Type) where
  | begins (items : List Item)
  | ends (ending : PassEnd)

namespace Mark

variable {Item : Type}

def pass? : Mark Item → Option (List Item)
  | .begins items => some items
  | .ends _ => none

def isEnd : Mark Item → Bool
  | .begins _ => false
  | .ends _ => true

/-- The passes that began, in order. -/
def passes (marks : List (Mark Item)) : List (List Item) := marks.filterMap pass?

/-- The number of the passes that are over. -/
def finished (marks : List (Mark Item)) : Nat := marks.countP isEnd

@[simp] theorem passes_begins (marks : List (Mark Item)) (items : List Item) :
    passes (marks ++ [.begins items]) = passes marks ++ [items] := by
  simp [passes, pass?]

@[simp] theorem passes_ends (marks : List (Mark Item)) (ending : PassEnd) :
    passes (marks ++ [.ends ending]) = passes marks := by
  simp [passes, pass?]

@[simp] theorem finished_begins (marks : List (Mark Item)) (items : List Item) :
    finished (marks ++ [.begins items]) = finished marks := by
  simp [finished, isEnd]

@[simp] theorem finished_ends (marks : List (Mark Item)) (ending : PassEnd) :
    finished (marks ++ [.ends ending]) = finished marks + 1 := by
  simp [finished, isEnd]

end Mark

/-- The items among those put in that are said to be taken. -/
def granted {Item : Type} (items : List Item) (flags : List Bool) : List Item :=
  ((items.zip flags).filter Prod.snd).map Prod.fst

theorem granted_true {Item : Type} (items : List Item) :
    granted items (items.map fun _ => true) = items := by
  induction items with
  | nil => rfl
  | cons item rest ih => exact congrArg (item :: ·) ih

theorem granted_false {Item : Type} (items : List Item) :
    granted items (items.map fun _ => false) = [] := by
  induction items with
  | nil => rfl
  | cons item rest ih => exact ih

/-- What can happen to a mailbox. Only a pass that began has an end. Whoever lets go of a mailbox
closes it. -/
inductive Event (Item : Type) where
  | call (call : Call Item)
  | turn (role : Role)
  | answer (ending : PassEnd)
  | abandon (role : Role)

def Event.isCall {Item : Type} : Event Item → Bool
  | .call _ => true
  | _ => false

/-- A mailbox and what happened to it so far. -/
structure Course (Item : Type) where
  mailbox : Mailbox Item
  /-- The number of the calls that were made. -/
  calls : Nat := 0
  /-- The items whose callers were told that they were taken. -/
  accepted : List Item := []
  marks : List (Mark Item) := []

namespace Course

variable {Item : Type}

/-- The turn that an event gives to a task. -/
def turn (course : Course Item) : Event Item → Turn (Mailbox Item) Role (List Item) Reply
  | .call call => component.start 0 (.caller course.calls) call course.mailbox
  | .turn role => component.resume 0 role course.mailbox
  | .answer ending =>
    if course.mailbox.worker = .busy then component.answer 0 .worker ending course.mailbox
    else (course.mailbox, [])
  | .abandon role => component.abandon role course.mailbox

/-- The items that a call is told were taken. -/
def takes (course : Course Item) : Event Item → List Item
  | .call (.push items) => granted items (course.mailbox.pushAll items).2
  | _ => []

/-- The pass that ends with an event. -/
def lands (course : Course Item) : Event Item → List (Mark Item)
  | .answer ending => if course.mailbox.worker = .busy then [.ends ending] else []
  | _ => []

/-- Takes over what a turn did. -/
def took (course : Course Item) (turn : Turn (Mailbox Item) Role (List Item) Reply) :
    Course Item :=
  { course with
    mailbox := turn.1
    marks := course.marks ++ (Effect.orders turn.2).map .begins }

def step (course : Course Item) (event : Event Item) : Course Item :=
  { course with
    calls := if event.isCall then course.calls + 1 else course.calls
    accepted := course.accepted ++ course.takes event
    marks := course.marks ++ course.lands event }.took (course.turn event)

def run (course : Course Item) (events : List (Event Item)) : Course Item :=
  events.foldl step course

theorem run_append (course : Course Item) (events more : List (Event Item)) :
    course.run (events ++ more) = (course.run events).run more :=
  List.foldl_append

/-- A call has its first turn. -/
def called (course : Course Item) : Course Item := { course with calls := course.calls + 1 }

/-- Items come into the queue. -/
def put (course : Course Item) (items : List Item) : Course Item :=
  { course with
    mailbox := { course.mailbox with queue := course.mailbox.queue ++ items }
    accepted := course.accepted ++ items }

/-- The mailbox is closed. -/
def shut (course : Course Item) (joinable : Bool) (joiner : Option Role) : Course Item :=
  { course with mailbox := { course.mailbox with closed := true, joinable, joiner } }

/-- The worker begins a pass with the oldest items. -/
def beginPass (course : Course Item) : Course Item :=
  { course with
    mailbox :=
      { course.mailbox with
        queue := course.mailbox.queue.drop course.mailbox.limit, worker := .busy }
    marks := course.marks ++ [.begins (course.mailbox.queue.take course.mailbox.limit)] }

/-- A pass is over. -/
def land (course : Course Item) : Course Item :=
  { course with
    mailbox := course.mailbox.endPass
    marks := course.marks ++ [.ends .complete] }

/-- A pass breaks down, and the worker with it. -/
def fail (course : Course Item) : Course Item :=
  { course with
    mailbox := course.mailbox.breakDown
    marks := course.marks ++ [.ends .brokeDown] }

/-- The worker ends. -/
def finish (course : Course Item) : Course Item :=
  { course with mailbox := { course.mailbox with worker := .ended } }

/-- What a worker that waits does in its turn. -/
inductive Works (course : Course Item) : Course Item → Prop where
  | begins (queued : course.mailbox.queue ≠ []) : Works course course.beginPass
  | rests (empty : course.mailbox.queue = []) (isOpen : course.mailbox.closed = false) :
      Works course course
  | finishes (empty : course.mailbox.queue = []) (closed : course.mailbox.closed = true) :
      Works course course.finish

/-- The worker comes to something with the event: it has a turn while it waits, or its pass ends. -/
def acts (course : Course Item) : Event Item → Bool
  | .turn .worker => course.mailbox.worker == .waiting
  | .answer _ => course.mailbox.worker == .busy
  | _ => false

/-- What can happen, event by event. -/
inductive Happens (course : Course Item) : Event Item → Course Item → Prop where
  | accepts {items : List Item} (isOpen : course.mailbox.closed = false)
      (alive : course.mailbox.isOver = false) :
      Happens course (.call (.push items)) (course.called.put items)
  | refuses {items : List Item}
      (unwilling : (course.mailbox.closed || course.mailbox.isOver) = true) :
      Happens course (.call (.push items)) course.called
  | closes {call : Call Item} {joinable : Bool} {joiner : Option Role}
      (ends : ∀ items, call ≠ .push items) :
      Happens course (.call call) (course.called.shut joinable joiner)
  | works {after : Course Item} (waits : course.mailbox.worker = .waiting)
      (works : course.Works after) : Happens course (.turn .worker) after
  | goesOn {after : Course Item} (busy : course.mailbox.worker = .busy)
      (works : course.land.Works after) : Happens course (.answer .complete) after
  | breaks (busy : course.mailbox.worker = .busy) :
      Happens course (.answer .brokeDown) course.fail
  /-- Nobody comes to anything. A caller may give up to wait for the worker's end. -/
  | idles {event : Event Item} {joiner : Option Role} (calls : event.isCall = false)
      (idle : course.acts event = false) :
      Happens course event { course with mailbox := { course.mailbox with joiner } }

variable {course after : Course Item} {event : Event Item}

/-- An open mailbox whose worker goes on takes what is put in. -/
theorem step_accepts (isOpen : course.mailbox.closed = false)
    (alive : course.mailbox.isOver = false) (items : List Item) :
    course.step (.call (.push items)) = course.called.put items := by
  have takes : course.takes (.call (.push items)) = items := by
    rw [takes, pushAll_flags_of_open isOpen alive, granted_true]
  have turn : course.turn (.call (.push items)) =
      ((course.mailbox.pushAll items).1, (course.mailbox.pushAll items).1.wakeWorker ++
        [.done (.caller course.calls) (.taken (course.mailbox.pushAll items).2)]) := rfl
  rw [step, takes, turn, pushAll_of_open isOpen alive]
  simp [took, put, called, lands, Event.isCall, orders_wakeWorker]

/-- A mailbox that is closed or whose worker is over takes nothing. -/
theorem step_refuses (unwilling : (course.mailbox.closed || course.mailbox.isOver) = true)
    (items : List Item) : course.step (.call (.push items)) = course.called := by
  have takes : course.takes (.call (.push items)) = [] := by
    rw [takes, pushAll_flags_of_shut unwilling, granted_false]
  have turn : course.turn (.call (.push items)) =
      ((course.mailbox.pushAll items).1, (course.mailbox.pushAll items).1.wakeWorker ++
        [.done (.caller course.calls) (.taken (course.mailbox.pushAll items).2)]) := rfl
  rw [step, takes, turn, pushAll_of_shut unwilling]
  simp [took, called, lands, Event.isCall, orders_wakeWorker]

theorem happens_call (course : Course Item) (call : Call Item) :
    Happens course (.call call) (course.step (.call call)) := by
  cases call with
  | push items =>
      cases unwilling : course.mailbox.closed || course.mailbox.isOver with
      | true =>
          rw [step_refuses unwilling]
          exact .refuses unwilling
      | false =>
          obtain ⟨isOpen, alive⟩ := Bool.or_eq_false_iff.mp unwilling
          rw [step_accepts isOpen alive]
          exact .accepts isOpen alive
  | close =>
      have closes : course.step (.call .close) =
          course.called.shut course.mailbox.joinable course.mailbox.joiner := by
        simp [step, took, Course.turn, component, takes, lands, shut, called, close, Event.isCall,
          orders_wakeWorker]
      rw [closes]
      apply Happens.closes
      intro items is
      cases is
  | closeAndWait =>
      obtain ⟨joiner, joined⟩ := join_eq course.mailbox (.caller course.calls)
      have closes : course.step (.call .closeAndWait) = course.called.shut false joiner := by
        have quiet (waits : Bool) : Effect.orders (if waits then []
            else [.done (.caller course.calls) .closed] : List (Effect Role (List Item) Reply)) =
              [] := by
          cases waits <;> rfl
        simp [step, took, Course.turn, component, takes, lands, shut, called, Event.isCall,
          orders_wakeWorker, joined, quiet]
      rw [closes]
      apply Happens.closes
      intro items is
      cases is

/-- A worker that waits begins a pass if something is queued, and ends if the mailbox is closed. -/
theorem works_work (waits : course.mailbox.worker = .waiting)
    (room : course.mailbox.hasRoom = true) : Works course (course.took course.mailbox.work) := by
  by_cases empty : course.mailbox.queue = []
  · have rests : course.took course.mailbox.work =
        { course with
          mailbox := { course.mailbox with
            worker := if course.mailbox.closed then .ended else .waiting } } := by
      rw [work, takePass_of_empty waits room empty]
      simp [took, orders_wakeJoiner]
    rw [rests]
    cases closed : course.mailbox.closed with
    | true => exact .finishes empty closed
    | false =>
        have same : course.took course.mailbox.work = course := by
          rw [rests, closed, if_neg Bool.false_ne_true, ← waits]
        rw [← closed, ← rests, same]
        exact .rests empty closed
  · have begins : course.took course.mailbox.work = course.beginPass := by
      rw [work, takePass_of_queued waits room empty]
      rfl
    rw [begins]
    exact .begins empty

theorem took_nothing (course : Course Item) : course.took (course.mailbox, []) = course := by
  simp [took, Effect.orders]

theorem happens_turn (room : course.mailbox.hasRoom = true) (role : Role) :
    Happens course (.turn role) (course.step (.turn role)) := by
  have same : ({ course with
      calls := if (Event.turn role : Event Item).isCall then course.calls + 1 else course.calls
      accepted := course.accepted ++ course.takes (.turn role)
      marks := course.marks ++ course.lands (.turn role) } : Course Item) = course := by
    simp [takes, lands, Event.isCall]
  rw [step, same]
  cases role with
  | worker =>
      by_cases waits : course.mailbox.worker = .waiting
      · exact .works waits (works_work waits room)
      · have rests : course.took (course.turn (.turn .worker)) = course := by
          have turn : course.turn (.turn .worker) = course.mailbox.work := rfl
          rw [turn, work, takePass_of_not_waiting waits]
          simp [took, orders_wakeJoiner]
        rw [rests]
        exact .idles rfl (beq_eq_false_iff_ne.mpr waits)
  | caller number =>
      have rests : course.took (course.turn (.turn (.caller number))) = course := by
        simp only [Course.turn, component]
        cases course.mailbox.isOver <;> simp [took, Effect.orders]
      rw [rests]
      exact .idles rfl rfl

theorem happens_answer (room : course.mailbox.hasRoom = true) (ending : PassEnd) :
    Happens course (.answer ending) (course.step (.answer ending)) := by
  by_cases busy : course.mailbox.worker = .busy
  · cases ending with
    | complete =>
        have lands : course.step (.answer .complete) = course.land.took course.land.mailbox.work := by
          simp [step, takes, Course.lands, busy, Event.isCall, took, Course.turn, component, land]
        rw [lands]
        exact .goesOn busy (works_work rfl room)
    | brokeDown =>
        have fails : course.step (.answer .brokeDown) = course.fail := by
          simp [step, takes, Course.lands, busy, Event.isCall, took, Course.turn, component, fail,
            orders_wakeJoiner]
        rw [fails]
        exact .breaks busy
  · have rests : course.step (.answer ending) = course := by
      simp [step, takes, lands, busy, Event.isCall, took, Course.turn, Effect.orders]
    rw [rests]
    exact .idles rfl (beq_eq_false_iff_ne.mpr busy)

theorem happens (room : course.mailbox.hasRoom = true) (event : Event Item) :
    Happens course event (course.step event) := by
  cases event with
  | call call => exact course.happens_call call
  | turn role => exact happens_turn room role
  | answer ending => exact happens_answer room ending
  | abandon role =>
      have gives : course.step (.abandon role) = { course with
          mailbox := { course.mailbox with joiner := (course.mailbox.unjoin role).joiner } } := by
        simp only [step, takes, lands, Event.isCall, took, Course.turn, component, unjoin]
        split <;> simp [Effect.orders]
      rw [gives]
      exact .idles rfl rfl

end Course

end Mailbox

end ReliableTransport
