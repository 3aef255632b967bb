import ReliableTransport.Proofs.Acceptor.Overtaking
/-!
This module says when an acceptor is starting. It is while a start waits for its socket that was not
overtaken. A start that is given up then leaves it so, and nobody can start it before it is stopped.
-/

namespace ReliableTransport

namespace Acceptor

namespace History

/-- The start with a number waits for its socket. -/
def Binding (history : History) (number : Nat) : Prop :=
  ∃ start, history.start? (.caller number) = some start

/-- The start with a number was given up while it waited for its socket. -/
def GivenUp (history : History) (number : Nat) : Prop :=
  ∃ start, (.caller number, start) ∈ history.dropped

variable {history after : History} {event : Event} {number : Nat} {start : Start}

/-- What was given up stays so. -/
theorem Happens.dropped (happens : Happens history event after) :
    ∀ entry ∈ history.dropped, entry ∈ after.dropped := by
  intro entry among
  cases happens with
  | begins | refuses | stops | installs | discards | fails | misses => exact among
  | leaves found => exact List.mem_append_left _ among
  | works answers goesOn works =>
      cases works
      exact among
  | halts works =>
      cases works
      exact among

theorem GivenUp.run (gone : history.GivenUp number) (events : List Event) :
    (history.run events).GivenUp number := by
  induction events generalizing history with
  | nil => exact gone
  | cons event events ih =>
      obtain ⟨start, among⟩ := gone
      exact ih ⟨start, (history.happens event).dropped _ among⟩

section Run

variable (bindAddress : Address) (limits : ReceiveLimits)

theorem run_starting (events : List Event) :
    ((opened bindAddress limits).run events).acceptor.phase = .starting ↔
      ∃ number, (((opened bindAddress limits).run events).Binding number ∨
        ((opened bindAddress limits).run events).GivenUp number) ∧ Unstopped events number := by
  have orderly := run_orderly bindAddress limits events
  have traced := run_traced bindAddress limits events
  generalize (opened bindAddress limits).run events = after at *
  rw [orderly.starting]
  constructor
  · rintro ⟨⟨role, start⟩, among, current⟩
    obtain ⟨number, later, rfl, began, goesOn⟩ := traced _ among
    refine ⟨number, ?_, began.unstopped_iff.mpr (goesOn.mp current)⟩
    rcases List.mem_append.mp among with waits | gone
    · exact .inl ⟨start, lookup_of_mem orderly.distinct waits⟩
    · exact .inr ⟨start, gone⟩
  · rintro ⟨number, stands, unstopped⟩
    have found : ∃ start, (.caller number, start) ∈ after.entries := by
      rcases stands with ⟨start, waits⟩ | ⟨start, gone⟩
      · exact ⟨start, orderly.mem_entries waits⟩
      · exact ⟨start, List.mem_append_right _ gone⟩
    obtain ⟨start, among⟩ := found
    obtain ⟨other, later, own, began, goesOn⟩ := traced _ among
    obtain rfl := Role.caller.inj own
    exact ⟨_, among, goesOn.mpr (began.unstopped_iff.mp unstopped)⟩

/-- Starts and stops come in any order, and starts may be given up. The acceptor is starting exactly
while a start waits for its socket, or was given up while it did, and nothing has stopped the
acceptor since. A start that waits leaves it stopped if the socket is not to be had. One that is
given up leaves it starting. Until somebody stops it, it stays so, and every start is refused. -/
theorem run_strands (events : List Event) :
    let after := (opened bindAddress limits).run events
    (after.acceptor.phase = .starting ↔
      ∃ number, (after.Binding number ∨ after.GivenUp number) ∧ Unstopped events number) ∧
      (∀ number, after.Binding number → Unstopped events number →
        (∀ failure, (after.step
          (.answer (.caller number) (.bound (.error failure)))).acceptor.phase = .stopped) ∧
        (after.step (.abandon (.caller number))).GivenUp number ∧
        (after.step (.abandon (.caller number))).acceptor.phase = .starting) ∧
      ∀ number, after.GivenUp number → Unstopped events number →
        ∀ more, (∀ event ∈ more, ¬event.Stops) →
          let last := (opened bindAddress limits).run (events ++ more)
          last.acceptor.phase = .starting ∧
            (last.step (.call .start)).endings =
              last.endings ++ [(last.next, .started (.error last.acceptor.refusal))] ∧
            (last.step (.call .stop)).acceptor.phase = .stopped := by
  intro after
  have starting := run_starting bindAddress limits events
  refine ⟨starting, ?_, ?_⟩
  · rintro number ⟨start, found⟩ unstopped
    have current := (run_current_iff bindAddress limits found).1.mpr unstopped
    have settles := (run_orderly bindAddress limits events).settles found current
    rw [step_leaves found]
    refine ⟨fun failure => (settles (.error failure)).1, ⟨start, ?_⟩, ?_⟩
    · exact List.mem_append_right _ (List.mem_singleton_self _)
    · exact starting.mpr ⟨number, .inl ⟨start, found⟩, unstopped⟩
  · intro number gone unstopped more goesOn last
    have later : last.GivenUp number := by
      have same : last = after.run more := run_append _ events more
      rw [same]
      exact gone.run more
    have stands : last.acceptor.phase = .starting :=
      (run_starting bindAddress limits (events ++ more)).mpr
        ⟨number, .inr later, unstopped.append goesOn⟩
    have refused : last.step (.call .start) =
        (last.accept .start).conclude last.next (.started (.error last.acceptor.refusal)) :=
      took_begin_of_busy (last.accept .start) last.next
        (by simp [History.accept, stands])
    have stopped : last.step (.call .stop) = (last.accept .stop).halt.conclude last.next .stopped :=
      took_begin_stop (last.accept .stop) last.next
    rw [refused, stopped]
    exact ⟨stands, rfl, rfl⟩

end Run

/-- A start is given up, and then no call is in progress. -/
theorem given_up_start_strands :
    let address : Address := { host := .dotted 127 0 0 1, port := 4530 }
    let after := (opened address {}).run [.call .start, .abandon (.caller 0)]
    after.calls = [.start] ∧ after.acceptor.starts = [] ∧ after.acceptor.loops = [] ∧
      after.acceptor.phase = .starting := by
  decide

end History

end Acceptor

end ReliableTransport
