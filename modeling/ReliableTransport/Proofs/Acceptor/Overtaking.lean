import Mathlib.Data.List.Induction
import ReliableTransport.Proofs.Acceptor.Ownership
/-!
This module says which starts of an acceptor come too late. A start is overtaken when the acceptor is
stopped before its socket is bound, and what becomes of the socket then changes nothing. Any other
start makes its socket the active one as soon as it is bound.
-/

namespace ReliableTransport

namespace Acceptor

/-- The call with a number was a start, and this is what happened since. -/
def Began (events : List Event) (number : Nat) (later : List Event) : Prop :=
  ∃ before, events = before ++ .call .start :: later ∧ before.countP Event.isCall = number

/-- The acceptor was not stopped since the start with a number. -/
def Unstopped (events : List Event) (number : Nat) : Prop :=
  ∃ later, Began events number later ∧ ∀ event ∈ later, ¬event.Stops

/-- The acceptor was stopped since the start with a number. -/
def Overtaken (events : List Event) (number : Nat) : Prop :=
  ∃ later, Began events number later ∧ ∃ event ∈ later, event.Stops

variable {events later other : List Event} {number : Nat}

theorem Began.append (began : Began events number later) (more : List Event) :
    Began (events ++ more) number (later ++ more) := by
  obtain ⟨before, rfl, counted⟩ := began
  exact ⟨before, by simp, counted⟩

/-- As many calls stand before no two calls. -/
theorem split_unique {before front : List Event} {call again : Call}
    (same : before ++ .call call :: later = front ++ .call again :: other)
    (counted : before.countP Event.isCall = front.countP Event.isCall) : later = other := by
  induction before generalizing front with
  | nil =>
      cases front with
      | nil => exact (List.cons.inj same).2
      | cons event front =>
          obtain ⟨rfl, _⟩ := List.cons.inj same
          rw [List.countP_cons_of_pos rfl] at counted
          exact absurd counted (Nat.succ_ne_zero _).symm
  | cons event before ih =>
      cases front with
      | nil =>
          obtain ⟨rfl, _⟩ := List.cons.inj same
          rw [List.countP_cons_of_pos rfl] at counted
          exact absurd counted (Nat.succ_ne_zero _)
      | cons _ front =>
          obtain ⟨rfl, rest⟩ := List.cons.inj same
          rw [List.countP_cons, List.countP_cons] at counted
          exact ih rest (Nat.add_right_cancel counted)

/-- A call has one number, and happened once. -/
theorem Began.unique (first : Began events number later) (second : Began events number other) :
    later = other := by
  obtain ⟨before, rfl, counted⟩ := first
  obtain ⟨front, same, again⟩ := second
  exact split_unique same (counted.trans again.symm)

theorem Began.unstopped_iff (began : Began events number later) :
    Unstopped events number ↔ ∀ event ∈ later, ¬event.Stops := by
  constructor
  · rintro ⟨other, again, goesOn⟩
    rwa [began.unique again]
  · exact fun goesOn => ⟨later, began, goesOn⟩

theorem Unstopped.append (unstopped : Unstopped events number) {more : List Event}
    (goesOn : ∀ event ∈ more, ¬event.Stops) : Unstopped (events ++ more) number := by
  obtain ⟨later, began, before⟩ := unstopped
  refine ⟨later ++ more, began.append more, fun event among => ?_⟩
  rcases List.mem_append.mp among with since | last
  · exact before event since
  · exact goesOn event last

theorem Began.overtaken_iff (began : Began events number later) :
    Overtaken events number ↔ ∃ event ∈ later, event.Stops := by
  constructor
  · rintro ⟨other, again, stopped⟩
    rwa [began.unique again]
  · exact fun stopped => ⟨later, began, stopped⟩

namespace History

variable {history after : History} {event : Event} {role : Role} {start : Start}

/-- What an event does to the starts that wait or were given up, and to the generation. -/
inductive Leads (history : History) : Event → History → Prop where
  | begins {after : History} (stopped : history.acceptor.phase = .stopped)
      (more : after.acceptor.generation = history.acceptor.generation + 1)
      (entries : ∀ entry ∈ after.entries,
        entry ∈ history.entries ∨ entry.1 = history.next ∧ after.Current entry.2) :
      Leads history (.call .start) after
  | stops {event : Event} {after : History} (stops : event.Stops)
      (more : after.acceptor.generation = history.acceptor.generation + 1)
      (entries : ∀ entry ∈ after.entries, entry ∈ history.entries) : Leads history event after
  | keeps {event : Event} {after : History} (goesOn : ¬event.Stops)
      (same : after.acceptor.generation = history.acceptor.generation)
      (entries : ∀ entry ∈ after.entries, entry ∈ history.entries) : Leads history event after

theorem entries_forget (history : History) (role : Role) :
    ∀ entry ∈ (history.forget role).entries, entry ∈ history.entries := by
  intro entry among
  rcases List.mem_append.mp among with waits | gone
  · exact List.mem_append_left _ (List.mem_filter.mp waits).1
  · exact List.mem_append_right _ gone

theorem Happens.leads (happens : Happens history event after) (orderly : Orderly history) :
    Leads history event after := by
  cases happens with
  | begins stopped =>
      refine .begins stopped rfl fun entry among => ?_
      rcases List.mem_append.mp among with waits | gone
      · rcases List.mem_append.mp waits with before | new
        · exact .inl (List.mem_append_left _ before)
        · rw [List.mem_singleton.mp new]
          exact .inr ⟨rfl, rfl⟩
      · exact .inl (List.mem_append_right _ gone)
  | refuses busy => exact .keeps id rfl fun _ among => among
  | stops => exact .stops trivial rfl fun _ among => among
  | installs found starting current => exact .keeps id rfl (entries_forget history _)
  | discards found overtaken => exact .keeps id rfl (entries_forget history _)
  | fails found current => exact .keeps id rfl (entries_forget history _)
  | misses found overtaken => exact .keeps id rfl (entries_forget history _)
  | @leaves role start found =>
      refine .keeps id rfl fun entry among => ?_
      rcases List.mem_append.mp among with waits | gone
      · exact List.mem_append_left _ (List.mem_filter.mp waits).1
      · rcases List.mem_append.mp gone with before | new
        · exact List.mem_append_right _ before
        · rw [List.mem_singleton.mp new]
          exact orderly.mem_entries found
  | works answers goesOn works =>
      cases works
      exact .keeps goesOn rfl fun _ among => among
  | halts works =>
      cases works
      exact .stops trivial rfl fun _ among => among

/-- The number of a call counts the calls before it. -/
theorem Happens.calls (happens : Happens history event after) :
    after.calls.length = history.calls.length + if event.isCall then 1 else 0 := by
  cases happens with
  | begins | refuses | stops => exact List.length_append
  | installs | discards | fails | misses | leaves => rfl
  | works answers goesOn works =>
      cases works
      simp [answers, History.work]
  | halts works =>
      cases works
      rfl

/-- Every start that waits, or was given up while it did, has begun with one of the events, and it is
the current one exactly if the acceptor was not stopped since. -/
def Traced (history : History) (events : List Event) : Prop :=
  ∀ entry ∈ history.entries, ∃ number later, entry.1 = .caller number ∧
    Began events number later ∧ (history.Current entry.2 ↔ ∀ event ∈ later, ¬event.Stops)

theorem Leads.traced (leads : Leads history event after) (orderly : Orderly history)
    (counted : history.calls.length = events.countP Event.isCall)
    (traced : Traced history events) : Traced after (events ++ [event]) := by
  -- Behind a new generation no former start is the current one.
  have former (more : after.acceptor.generation = history.acceptor.generation + 1)
      {entry : Role × Start} (before : entry ∈ history.entries) : ¬after.Current entry.2 := by
    rw [Current, more]
    exact orderly.overtaken before
  intro entry among
  cases leads with
  | begins stopped more entries =>
      rcases entries entry among with before | ⟨new, current⟩
      · obtain ⟨number, later, is, began, goesOn⟩ := traced entry before
        refine ⟨number, later ++ [.call .start], is, began.append _, ?_⟩
        -- The acceptor was found stopped, so that something has stopped it since.
        have none : ¬history.Current entry.2 := fun current => by
          have starting := orderly.starting.mpr ⟨entry, before, current⟩
          rw [stopped] at starting
          cases starting
        refine iff_of_false (former more before) fun unstopped => none (goesOn.mpr ?_)
        exact fun event member => unstopped event (List.mem_append_left _ member)
      · exact ⟨history.calls.length, [], new, ⟨events, rfl, counted.symm⟩,
          iff_of_true current (by simp)⟩
  | stops stops more entries =>
      have before := entries entry among
      obtain ⟨number, later, is, began, _⟩ := traced entry before
      refine ⟨number, later ++ [event], is, began.append _, ?_⟩
      refine iff_of_false (former more before) fun unstopped => ?_
      exact unstopped event (List.mem_append_right _ (List.mem_singleton_self _)) stops
  | keeps continues same entries =>
      obtain ⟨number, later, is, began, goesOn⟩ := traced entry (entries entry among)
      refine ⟨number, later ++ [event], is, began.append _, ?_⟩
      rw [Current, same, ← Current, goesOn]
      constructor
      · intro unstopped other member
        rcases List.mem_append.mp member with since | last
        · exact unstopped other since
        · exact List.mem_singleton.mp last ▸ continues
      · exact fun unstopped other member => unstopped other (List.mem_append_left _ member)

section Run

variable (bindAddress : Address) (limits : ReceiveLimits)

theorem run_calls (events : List Event) :
    ((opened bindAddress limits).run events).calls.length = events.countP Event.isCall := by
  induction events using List.reverseRecOn with
  | nil => rfl
  | append_singleton rest event ih =>
      rw [run_append, List.countP_append, ← ih, List.countP_singleton]
      exact (happens _ event).calls

theorem run_orderly (events : List Event) : Orderly ((opened bindAddress limits).run events) :=
  (opened_orderly bindAddress limits).run events

theorem run_traced (events : List Event) :
    Traced ((opened bindAddress limits).run events) events := by
  induction events using List.reverseRecOn with
  | nil => exact fun _ among => nomatch among
  | append_singleton rest event ih =>
      have orderly := run_orderly bindAddress limits rest
      rw [run_append]
      exact ((happens _ event).leads orderly).traced orderly (run_calls bindAddress limits rest) ih

/-- A start that waits is the current one exactly if it was not overtaken. -/
theorem run_current_iff {events : List Event} {number : Nat} {start : Start}
    (waits : ((opened bindAddress limits).run events).start? (.caller number) = some start) :
    (((opened bindAddress limits).run events).Current start ↔ Unstopped events number) ∧
      (¬((opened bindAddress limits).run events).Current start ↔ Overtaken events number) := by
  have among := (run_orderly bindAddress limits events).mem_entries waits
  obtain ⟨_, later, is, began, current⟩ := run_traced bindAddress limits events _ among
  obtain rfl := Role.caller.inj is
  rw [began.unstopped_iff, began.overtaken_iff, current]
  exact ⟨Iff.rfl, by simp⟩

end Run

/-- A start succeeds when its socket is bound and nothing has overtaken it. -/
theorem Happens.started (happens : Happens history event after)
    (ended : (role, .started (.ok ())) ∈ after.endings) :
    (role, .started (.ok ())) ∈ history.endings ∨
      ∃ number start, role = .caller number ∧
        event = .answer (.caller number) (.bound (.ok ())) ∧
        history.start? (.caller number) = some start ∧ history.Current start ∧
        after.acceptor.active = some start.socket := by
  have concluded {other : History} {ender : Role} {result : Result}
      (kept : other.endings = history.endings) (fails : result ≠ .started (.ok ()))
      (ended : (role, .started (.ok ())) ∈ (other.conclude ender result).endings) :
      (role, .started (.ok ())) ∈ history.endings := by
    rcases List.mem_append.mp ended with before | new
    · exact kept ▸ before
    · exact absurd (Prod.mk.inj (List.mem_singleton.mp new)).2.symm fails
  cases happens with
  | begins stopped => exact .inl ended
  | refuses busy => exact .inl (concluded rfl (by simp) ended)
  | stops => exact .inl (concluded rfl (by simp) ended)
  | @installs number start found starting current =>
      rcases List.mem_append.mp ended with before | new
      · exact .inl before
      · obtain ⟨own, _⟩ := Prod.mk.inj (List.mem_singleton.mp new)
        exact .inr ⟨number, start, own, rfl, found, current, rfl⟩
  | discards found overtaken => exact .inl (concluded rfl (by simp) ended)
  | fails found current => exact .inl (concluded rfl (by simp) ended)
  | misses found overtaken => exact .inl (concluded rfl (by simp) ended)
  | leaves found => exact .inl ended
  | works answers goesOn works =>
      cases works
      exact .inl ended
  | halts works =>
      cases works
      exact .inl ended

/-- What becomes of a start that goes on when its socket is bound or not to be had. -/
def Settles (history next : History) (number : Nat) (start : Start) :
    Except Failure Unit → Prop
  | .ok _ =>
    next.acceptor.phase = .running ∧ next.acceptor.active = some start.socket ∧
      next.endings = history.endings ++ [(.caller number, .started (.ok ()))]
  | .error failure =>
    next.acceptor.phase = .stopped ∧ next.acceptor.active = none ∧
      next.endings = history.endings ++ [(.caller number, .started (.error failure))]

/-- A start fails, and the acceptor is as it was. -/
def Passes (history next : History) (number : Nat) : Prop :=
  next.acceptor.phase = history.acceptor.phase ∧
    next.acceptor.active = history.acceptor.active ∧
    ∃ failure, next.endings = history.endings ++ [(.caller number, .started (.error failure))]

variable {number : Nat}

theorem Orderly.settles (orderly : Orderly history)
    (found : history.start? (.caller number) = some start) (current : history.Current start)
    (result : Except Failure Unit) :
    Settles history (history.step (.answer (.caller number) (.bound result))) number start
      result := by
  have starting := orderly.starting.mpr ⟨_, orderly.mem_entries found, current⟩
  cases result with
  | ok =>
      rw [step_installs found starting current]
      exact ⟨rfl, rfl, rfl⟩
  | error failure =>
      rw [step_fails found current]
      exact ⟨rfl, orderly.idle (by simp [starting]), rfl⟩

theorem passes_of_overtaken (found : history.start? (.caller number) = some start)
    (overtaken : ¬history.Current start) (result : Except Failure Unit) :
    Passes history (history.step (.answer (.caller number) (.bound result))) number := by
  cases result with
  | ok =>
      rw [step_discards found fun _ => overtaken]
      exact ⟨rfl, rfl, _, rfl⟩
  | error failure =>
      rw [step_misses found overtaken]
      exact ⟨rfl, rfl, _, rfl⟩

section Run

variable (bindAddress : Address) (limits : ReceiveLimits)

theorem run_started {events : List Event} {number : Nat}
    (ended : (.caller number, .started (.ok ())) ∈
      ((opened bindAddress limits).run events).endings) :
    ∃ before later start,
      events = before ++ .answer (.caller number) (.bound (.ok ())) :: later ∧
        Unstopped before number ∧
        ((opened bindAddress limits).run before).start? (.caller number) = some start ∧
        (((opened bindAddress limits).run before).step
          (.answer (.caller number) (.bound (.ok ())))).acceptor.active = some start.socket := by
  induction events using List.reverseRecOn with
  | nil => cases ended
  | append_singleton rest event ih =>
      rw [run_append] at ended
      rcases (happens _ event).started ended with
        before | ⟨other, start, own, rfl, found, current, active⟩
      · obtain ⟨front, later, start, rfl, succeeds⟩ := ih before
        exact ⟨front, later ++ [event], start, by simp, succeeds⟩
      · obtain rfl := Role.caller.inj own
        have unstopped := (run_current_iff bindAddress limits found).1.mp current
        exact ⟨rest, [], start, rfl, unstopped, found, active⟩

/-- Starts and stops come in any order, and starts may be given up. The acceptor is running exactly
while it has an active socket. A start succeeds only if nothing has stopped the acceptor since it
began, and makes its socket the active one then. A start that finds the acceptor stopped waits for a
socket, and it does succeed if the socket is bound before anything stops the acceptor. If something
does, the start fails whatever becomes of its socket, and nothing else changes. Every bound socket
that came to its start is closed once if it is not the active one, and otherwise it is not. At most
one loop goes on. -/
theorem run_coherent (events : List Event) :
    let after := (opened bindAddress limits).run events
    (after.acceptor.phase = .running ↔ after.acceptor.active.isSome) ∧
      (∀ number, (.caller number, .started (.ok ())) ∈ after.endings →
        ∃ before later start,
          events = before ++ .answer (.caller number) (.bound (.ok ())) :: later ∧
            Unstopped before number ∧
            ((opened bindAddress limits).run before).start? (.caller number) = some start ∧
            (((opened bindAddress limits).run before).step
              (.answer (.caller number) (.bound (.ok ())))).acceptor.active =
                some start.socket) ∧
      (after.acceptor.phase = .stopped →
        ∃ start, (after.step (.call .start)).start? after.next = some start) ∧
      (∀ number start, after.start? (.caller number) = some start → ∀ result,
        let next := after.step (.answer (.caller number) (.bound result))
        (Unstopped events number → Settles after next number start result) ∧
          (Overtaken events number → Passes after next number)) ∧
      (∀ socket, after.orders.count (.close socket) =
        if socket ∈ after.reached ∧ after.acceptor.active ≠ some socket then 1 else 0) ∧
      (after.acceptor.loops.filter fun loop => !loop.stopped).length ≤ 1 := by
  intro after
  have orderly : Orderly after := run_orderly bindAddress limits events
  refine ⟨orderly.running, fun number ended => run_started bindAddress limits ended,
    orderly.begins, ?_, orderly.owned.closed, orderly.owned.alone⟩
  intro number start found result next
  obtain ⟨unstopped, overtaken⟩ := run_current_iff bindAddress limits found
  exact ⟨fun goesOn => orderly.settles found (unstopped.mpr goesOn) result,
    fun stopped => passes_of_overtaken found (overtaken.mpr stopped) result⟩

end Run

end History

end Acceptor

end ReliableTransport
