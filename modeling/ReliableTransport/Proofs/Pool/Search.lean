import ReliableTransport.Pool
import ReliableTransport.Proofs.Queue.Turns
/-!
This module says how a call on a pool looks for a sender. Sends and closes do so in the same way: a
call gets the sender that has been free for longest, or waits, or has waited for too long.
-/

namespace ReliableTransport

namespace Pool

open BoundedQueue (Call.Yields Look Looks Shifts Sound Waiter)

/-- What callers ask of a pool that is filled. -/
inductive Request where
  | send (data : Bytes)
  | close
  deriving DecidableEq

namespace Request

def call : Request → Call
  | .send data => .send data
  | .close => .close

/-- The point at which the call waits for a sender. -/
def waiting : Request → Stage
  | .send data => .waiting data
  | .close => .draining

theorem eq_close {request : Request} (drains : request.waiting = .draining) :
    request = .close := by
  cases request with
  | send data => cases drains
  | close => rfl

/-- The point at which the call has a sender. -/
def having (sender : Nat) : Request → Stage
  | .send _ => .sending sender
  | .close => .closing sender

/-- What the call asks of its sender. -/
def order (sender : Nat) : Request → Order
  | .send data => .send sender data
  | .close => .close sender

/-- What the call answers when it found no sender. -/
def late (failure : Failure) : Request → Result
  | .send _ => .sent (.error failure)
  | .close => .closed (.error failure)

end Request

/-- The failure of a call that waited for a sender for too long. -/
def lateFailure (timeout : Nat) : Failure := .timeout (.ofMillis timeout) "dequeue"

/-- How a look for a sender ends, and which senders are free after it. -/
inductive Finds (timeout : Nat) (free : List Nat) :
    Option (BoundedQueue.Outcome Nat) → List Nat → Prop where
  | sender {sender : Nat} {rest : List Nat} (first : free = sender :: rest) :
      Finds timeout free (some (.popped sender)) rest
  | nothing : Finds timeout free none free
  | late : Finds timeout free (some (.timedOut (lateFailure timeout))) free

/-- The calls that wait at a queue all take, and have the same patience. -/
def Poppers (now timeout : Nat) (queue : BoundedQueue Nat Nat) : Prop :=
  ∀ waiter ∈ queue.waiters,
    waiter.demand = .pop ∧ waiter.timeout = timeout ∧ waiter.deadline ≤ now + timeout

/-- A look of a call for a sender. The call may have waited for it, and waits after it if it has not
ended. -/
structure Search (now timeout number : Nat) (waited : List Nat) (queue : BoundedQueue Nat Nat)
    (look : Look Nat Nat) : Prop where
  sound : look.queue.Sound
  capacity : look.queue.capacity = queue.capacity
  finds : Finds timeout queue.items look.outcome look.queue.items
  poppers : Poppers now timeout look.queue
  waiters : ∀ others, (queue.waiters.map Waiter.task).Perm (waited ++ others) →
    (look.queue.waiters.map Waiter.task).Perm
      ((if look.outcome.isSome then [] else [number]) ++ others)
  /-- A call that just came gets no sender only if none is free. -/
  eager : waited = [] → (∀ sender, look.outcome ≠ some (.popped sender)) → queue.items = []
  /-- A call that waited does not wait beyond its deadline. -/
  punctual : ∀ waiter ∈ queue.waiters, waiter.task = number → waiter.deadline ≤ now →
    look.outcome.isSome

theorem finds_of_yields {timeout : Nat} {free rest : List Nat}
    {outcome : Option (BoundedQueue.Outcome Nat)} (shifts : Shifts outcome free rest)
    (yields : ∀ ended ∈ outcome, (BoundedQueue.Call.dequeue timeout).Yields ended) :
    Finds timeout free outcome rest := by
  rw [Shifts] at shifts
  cases outcome with
  | none =>
      obtain rfl : rest = free := by simpa using shifts
      exact .nothing
  | some outcome =>
      cases yields outcome rfl with
      | dequeued sender =>
          have first : free = sender :: rest := by
            simpa [BoundedQueue.Outcome.taken?, BoundedQueue.Outcome.added?] using shifts.symm
          exact .sender first
      | dequeuedLate =>
          obtain rfl : rest = free := by
            simpa [BoundedQueue.Outcome.taken?, BoundedQueue.Outcome.added?] using shifts
          exact .late

theorem call_of_popper {timeout : Nat} {waiter : Waiter Nat Nat}
    (pops : waiter.demand = .pop) (patience : waiter.timeout = timeout) :
    waiter.call = .dequeue timeout := by
  obtain ⟨task, demand, patience, deadline⟩ := waiter
  obtain rfl := pops
  obtain rfl := patience
  rfl

variable {now timeout number : Nat} {queue : BoundedQueue Nat Nat}

theorem Poppers.later (poppers : Poppers now timeout queue) (millis : Nat) :
    Poppers (now + millis) timeout queue := by
  intro waiter among
  obtain ⟨pops, patience, due⟩ := poppers waiter among
  exact ⟨pops, patience, by omega⟩

theorem looks_eager {waiter : Waiter Nat Nat} {look : Look Nat Nat}
    (pops : waiter.demand = .pop) (looks : Looks now waiter queue look)
    (unmet : ∀ sender, look.outcome ≠ some (.popped sender)) : queue.items = [] := by
  obtain ⟨task, demand, patience, deadline⟩ := waiter
  obtain rfl := pops
  cases looks with
  | meets met =>
      cases met with
      | takes first => exact absurd rfl (unmet _)
  | waits short _ | fails short _ => exact List.length_eq_zero_iff.mp short

/-- The first look of a call. -/
theorem search_start (sound : queue.Sound) (poppers : Poppers now timeout queue)
    (fresh : number ∉ queue.waiters.map Waiter.task) :
    Search now timeout number [] queue (queue.start now number .pop timeout) := by
  let waiter : Waiter Nat Nat :=
    { task := number, demand := .pop, timeout, deadline := now + timeout }
  have looks : Looks now waiter queue (queue.start now number .pop timeout) :=
    BoundedQueue.look_looks now waiter queue
  have waiters := looks.waiters fresh
  refine ⟨looks.sound sound.bounded sound.listed (sound.spare _) fresh, looks.capacity,
    finds_of_yields looks.shifts looks.yields, ?_, ?_, fun _ => looks_eager rfl looks,
    fun waiter among own => absurd (own ▸ List.mem_map_of_mem among) fresh⟩
  · intro other among
    rw [waiters] at among
    split at among
    · exact poppers other among
    · rcases List.mem_append.mp among with earlier | latest
      · exact poppers other earlier
      · obtain rfl := List.mem_singleton.mp latest
        exact ⟨rfl, rfl, Nat.le_refl _⟩
  · intro others listed
    rw [waiters]
    split
    · exact listed
    · rw [List.map_append]
      exact (List.perm_append_comm).trans (listed.append_left [number])

/-- Another look of a call that waits. -/
theorem search_resume (sound : queue.Sound) (poppers : Poppers now timeout queue)
    (waits : number ∈ queue.waiters.map Waiter.task) :
    Search now timeout number [number] queue (queue.resume now number) := by
  have resumes := BoundedQueue.resume_resumes now number queue
  have remain := resumes.waiters sound.listed
  have finds : Shifts _ _ _ := resumes.shifts
  have stays := sound.resume resumes
  have capacity := resumes.capacity
  have punctual : ∀ waiter ∈ queue.waiters, waiter.task = number → waiter.deadline ≤ now →
      (queue.resume now number).outcome.isSome := by
    rintro waiter among rfl late
    exact resumes.over sound.listed among late
  generalize queue.resume now number = look at remain finds stays capacity punctual
  cases ended : look.outcome with
  | none =>
      rw [ended] at remain finds
      refine ⟨stays, capacity, ?_, fun other among => poppers other (remain.subset among), ?_,
        (fun impossible => by cases impossible), punctual⟩
      · rw [ended]
        exact finds_of_yields finds (fun _ impossible => by cases impossible)
      · intro others listed
        rw [ended]
        exact (remain.map Waiter.task).trans listed
  | some outcome =>
      rw [ended] at remain finds
      obtain ⟨waiter, remain, rfl, yields⟩ := remain
      obtain ⟨pops, patience, _⟩ := poppers waiter (remain.subset List.mem_cons_self)
      rw [call_of_popper pops patience] at yields
      refine ⟨stays, capacity, ?_, ?_, ?_, (fun impossible => by cases impossible), punctual⟩
      · rw [ended]
        exact finds_of_yields finds (fun _ same => Option.some.inj same ▸ yields)
      · exact fun other among => poppers other (remain.subset (List.mem_cons_of_mem _ among))
      · intro others listed
        rw [ended]
        exact ((remain.map Waiter.task).trans listed).cons_inv

end Pool

end ReliableTransport
