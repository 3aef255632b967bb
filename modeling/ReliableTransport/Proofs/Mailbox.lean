import ReliableTransport.Mailbox
/-!
This module holds the laws of mailboxes: what a push adds to the queue, what a pass takes from it,
and what a close leaves of it.
-/

namespace ReliableTransport

namespace Mailbox

variable {Item : Type}

/-- An open mailbox whose worker goes on takes every item. -/
theorem pushAll_of_open {mailbox : Mailbox Item} (isOpen : mailbox.closed = false)
    (alive : mailbox.isOver = false) (items : List Item) :
    (mailbox.pushAll items).1 = { mailbox with queue := mailbox.queue ++ items } := by
  induction items generalizing mailbox with
  | nil => simp [pushAll]
  | cons item rest ih =>
      have pushed : mailbox.push item =
          ({ mailbox with queue := mailbox.queue ++ [item] }, true) := by
        simp [push, isOpen, alive]
      have others :
          (({ mailbox with queue := mailbox.queue ++ [item] } : Mailbox Item).pushAll rest).1 =
          { mailbox with queue := mailbox.queue ++ [item] ++ rest } := ih isOpen alive
      simp only [pushAll, pushed, others, List.append_assoc, List.singleton_append]

/-- A mailbox that is closed or whose worker is over takes no item. -/
theorem pushAll_of_shut {mailbox : Mailbox Item}
    (shut : (mailbox.closed || mailbox.isOver) = true) (items : List Item) :
    (mailbox.pushAll items).1 = mailbox := by
  induction items with
  | nil => rfl
  | cons item rest ih => rw [pushAll, push, if_pos shut, ih]

/-- Items that are put in change nothing but the queue. -/
theorem pushAll_frame (mailbox : Mailbox Item) (items : List Item) :
    ∃ queue, (mailbox.pushAll items).1 = { mailbox with queue } := by
  cases shut : mailbox.closed || mailbox.isOver with
  | true => exact ⟨mailbox.queue, pushAll_of_shut shut items⟩
  | false =>
      obtain ⟨isOpen, alive⟩ := Bool.or_eq_false_iff.mp shut
      exact ⟨mailbox.queue ++ items, pushAll_of_open isOpen alive items⟩

/-- Every item that is put into an open mailbox is said to be taken. -/
theorem pushAll_flags_of_open {mailbox : Mailbox Item} (isOpen : mailbox.closed = false)
    (alive : mailbox.isOver = false) (items : List Item) :
    (mailbox.pushAll items).2 = items.map fun _ => true := by
  induction items generalizing mailbox with
  | nil => rfl
  | cons item rest ih =>
      have pushed : mailbox.push item =
          ({ mailbox with queue := mailbox.queue ++ [item] }, true) := by
        simp [push, isOpen, alive]
      have others :
          (({ mailbox with queue := mailbox.queue ++ [item] } : Mailbox Item).pushAll rest).2 =
          rest.map fun _ => true := ih isOpen alive
      simp only [pushAll, pushed, others, List.map_cons]

/-- Every item is said to be refused by a mailbox that is closed or whose worker is over. -/
theorem pushAll_flags_of_shut {mailbox : Mailbox Item}
    (shut : (mailbox.closed || mailbox.isOver) = true) (items : List Item) :
    (mailbox.pushAll items).2 = items.map fun _ => false := by
  induction items with
  | nil => rfl
  | cons item rest ih => simp only [pushAll, push, if_pos shut, ih, List.map_cons]

/-- A worker that waits takes as many of the oldest items as a pass holds. -/
theorem takePass_of_queued {mailbox : Mailbox Item} (waits : mailbox.worker = .waiting)
    (room : mailbox.hasRoom = true) (queued : mailbox.queue ≠ []) :
    mailbox.takePass =
      ({ mailbox with queue := mailbox.queue.drop mailbox.limit, worker := .busy },
        some (mailbox.queue.take mailbox.limit)) := by
  simp [takePass, waits, room, queued]

theorem takePass_of_empty {mailbox : Mailbox Item} (waits : mailbox.worker = .waiting)
    (room : mailbox.hasRoom = true) (empty : mailbox.queue = []) :
    mailbox.takePass =
      ({ mailbox with worker := if mailbox.closed then .ended else .waiting }, none) := by
  obtain ⟨limit, limit_pos, hasRoom, queue, closed, worker, joinable, joiner⟩ := mailbox
  simp only at waits room empty
  subst waits room empty
  cases closed <;> rfl

theorem takePass_of_not_waiting {mailbox : Mailbox Item} (busy : mailbox.worker ≠ .waiting) :
    mailbox.takePass = (mailbox, none) := by
  simp [takePass, busy]

/-- A worker that waits breaks down if memory has no room for a pass. -/
theorem takePass_of_roomless {mailbox : Mailbox Item} (waits : mailbox.worker = .waiting)
    (roomless : mailbox.hasRoom = false) : mailbox.takePass = (mailbox.breakDown, none) := by
  simp [takePass, waits, roomless]

/-- A worker that has taken a pass is busy with it. -/
theorem worker_of_takePass {mailbox after : Mailbox Item} {items : List Item}
    (taken : mailbox.takePass = (after, some items)) : after.worker = .busy := by
  unfold takePass at taken
  split at taken
  · cases taken
  · split at taken
    · cases taken
    · split at taken
      · cases taken
      · cases taken
        rfl

/-- Whether or not a pass begins, items leave the queue from the front only. -/
theorem takePass_frame (mailbox : Mailbox Item) :
    ∃ queue worker, mailbox.takePass.1 = { mailbox with queue, worker } ∧
      queue <:+ mailbox.queue := by
  unfold takePass
  split
  · exact ⟨_, _, rfl, List.suffix_refl _⟩
  · split
    · exact ⟨[], .broken, rfl, List.nil_suffix⟩
    · split
      · split
        · exact ⟨_, .ended, rfl, List.suffix_refl _⟩
        · exact ⟨_, _, rfl, List.suffix_refl _⟩
      · exact ⟨_, .busy, rfl, List.drop_suffix mailbox.limit mailbox.queue⟩

/-- Whoever asks to wait for the worker's end closes the mailbox and leaves its items alone. Nobody
else can wait then. -/
theorem join_eq (mailbox : Mailbox Item) (caller : Role) :
    ∃ joiner,
      (mailbox.join caller).1 = { mailbox with closed := true, joinable := false, joiner } := by
  simp only [join]
  split
  · split
    · exact ⟨mailbox.joiner, rfl⟩
    · exact ⟨some caller, rfl⟩
  next taken =>
    refine ⟨mailbox.joiner, ?_⟩
    rw [close, ← Bool.eq_false_iff.mpr taken]

/-- Whoever gives up to wait changes nothing else. -/
theorem unjoin_eq (mailbox : Mailbox Item) (caller : Role) :
    ∃ joiner, mailbox.unjoin caller = { mailbox with joiner } ∧
      (joiner = none ∨ joiner = mailbox.joiner) := by
  unfold unjoin
  split
  · exact ⟨none, rfl, .inl rfl⟩
  · exact ⟨mailbox.joiner, rfl, .inr rfl⟩

variable {Order Result : Type}

/-- Waking a task asks nothing of the outside. -/
theorem orders_wakeWorker (mailbox : Mailbox Item) :
    Effect.orders (mailbox.wakeWorker : List (Effect Role Order Result)) = [] := by
  unfold wakeWorker
  split <;> rfl

/-- Waking a task ends no call. -/
theorem results_wakeWorker (mailbox : Mailbox Item) :
    Effect.results (mailbox.wakeWorker : List (Effect Role Order Result)) = [] := by
  unfold wakeWorker
  split <;> rfl

theorem orders_wakeJoiner (mailbox : Mailbox Item) :
    Effect.orders (mailbox.wakeJoiner : List (Effect Role Order Result)) = [] := by
  unfold wakeJoiner
  split
  · cases mailbox.joiner <;> rfl
  · rfl

end Mailbox

end ReliableTransport
