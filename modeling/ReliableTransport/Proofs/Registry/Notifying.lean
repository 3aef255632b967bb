import Mathlib.Algebra.GroupWithZero.Nat
import ReliableTransport.Proofs.Registry.History
import ReliableTransport.Rehearsal.Registries
/-!
This module says whom a notification calls: those who were registered when it began, each once and
in order, whatever the called handlers and others do to the registry before it is over.
-/

namespace ReliableTransport

namespace Registry

namespace History

section Rehearsed

open Rehearsal.Registries (State Change)

variable {state : State} {second : Bool} {history : History Rehearsal.Registries.Handler}

theorem registry_withRegistry (state : State) (other second : Bool)
    (registry : Registry Rehearsal.Registries.Handler) :
    (state.withRegistry other registry).registry second =
      if other = second then registry else state.registry second := by
  cases other <;> cases second <;> rfl

/-- A change is made in one registry and leaves the other one alone. -/
theorem make_follows (same : history.registry = state.registry second) (change : Change) :
    ∃ events : List (Event Rehearsal.Registries.Handler), (∀ event ∈ events, event.changes = true) ∧
      (history.run events).registry = (state.make change).1.registry second := by
  cases change with
  | subscribe other name reactions =>
      by_cases own : other = second
      · subst own
        refine ⟨[.subscribe { name, reactions }], by simp [Event.changes], ?_⟩
        rw [State.make]
        refine Eq.trans ?_ (registry_withRegistry state other other _).symm
        simp [step, same]
      · refine ⟨[], by simp, ?_⟩
        rw [State.make]
        refine Eq.trans same (Eq.trans ?_ (registry_withRegistry state other second _).symm)
        rw [if_neg own]
  | unsubscribe other subscription =>
      rw [State.make]
      cases state.ids[subscription]? with
      | none => exact ⟨[], by simp, same⟩
      | some id =>
          by_cases own : other = second
          · subst own
            refine ⟨[.unsubscribe id], by simp [Event.changes], ?_⟩
            refine Eq.trans ?_ (registry_withRegistry state other other _).symm
            simp [step, same]
          · refine ⟨[], by simp, Eq.trans same ?_⟩
            exact (registry_withRegistry state other second _).symm ▸ (if_neg own).symm

theorem makeAll_follows (same : history.registry = state.registry second)
    (changes : List Change) :
    ∃ events : List (Event Rehearsal.Registries.Handler), (∀ event ∈ events, event.changes = true) ∧
      (history.run events).registry = (state.makeAll changes).1.registry second := by
  induction changes generalizing state history with
  | nil => exact ⟨[], by simp, same⟩
  | cons change rest ih =>
      obtain ⟨first, changes, made⟩ := make_follows same change
      obtain ⟨others, alike, reached⟩ := ih made
      refine ⟨first ++ others, fun event among => ?_, ?_⟩
      · exact (List.mem_append.mp among).elim (changes event) (alike event)
      · rw [run_append]
        exact reached

/-- Changes call no handler. -/
theorem countP_calls_of_changes {Handler : Type} {events : List (Event Handler)}
    (changes : ∀ event ∈ events, event.changes = true) (round : Nat) :
    events.countP (Event.calls round) = 0 := by
  refine List.countP_eq_zero.mpr fun event among calls => ?_
  have change := changes event among
  cases event with
  | subscribe | unsubscribe | notify => cases calls
  | call => cases change

/-- Handlers that make changes while they are called are called one after the other. -/
theorem call_follows (same : history.registry = state.registry second) {round : Nat}
    {handlers : List Rehearsal.Registries.Handler}
    (left : history.rounds[round]? = some handlers) :
    ∃ events : List (Event Rehearsal.Registries.Handler),
      events.countP (Event.calls round) = handlers.length ∧
        (history.run events).registry = (state.call handlers).1.registry second ∧
        (state.call handlers).2.map Prod.fst = handlers.map fun handler => handler.name := by
  induction handlers generalizing state history with
  | nil => exact ⟨[], rfl, same, rfl⟩
  | cons handler rest ih =>
      have called : (history.step (.call round)).registry = state.registry second := by
        rw [step_call left]
        exact same
      obtain ⟨changes, silent, made⟩ := makeAll_follows called handler.reactions
      have waits := (run_round (step_round left (.call round)).1 changes).1
      rw [countP_calls_of_changes silent] at waits
      simp only [Event.calls, decide_true, if_true, List.drop_one, List.tail_cons,
        List.drop_zero] at waits
      obtain ⟨others, calls, reached, names⟩ := ih made waits
      refine ⟨.call round :: (changes ++ others), ?_, ?_, ?_⟩
      · rw [List.countP_cons, List.countP_append, countP_calls_of_changes silent, calls]
        simp [Event.calls]
      · rw [run_cons, run_append]
        exact reached
      · exact congrArg (handler.name :: ·) names

/-- A notification whose handlers make changes of their own does what these steps do. -/
structure Mirrors (state : State) (second : Bool)
    (history : History Rehearsal.Registries.Handler)
    (more : List (Event Rehearsal.Registries.Handler))
    (calls : List (String × List Rehearsal.Registries.Outcome)) : Prop where
  performs : state.perform (.notify second) =
    ((state.call (state.registry second).handlers).1, .called calls)
  names : calls.map Prod.fst = history.registry.handlers.map fun handler => handler.name
  registry : ((history.step .notify).run more).registry =
    (state.perform (.notify second)).1.registry second
  /-- Nobody is left to be called. -/
  finished : ((history.step .notify).run more).rounds[history.rounds.length]? = some []

/-- A notification whose handlers make changes of their own is a notification like any other. -/
theorem notify_follows (same : history.registry = state.registry second) :
    ∃ more calls, Mirrors state second history more calls := by
  have begun : (history.step .notify).registry = state.registry second := same
  have left : (history.step .notify).rounds[history.rounds.length]? =
      some (state.registry second).handlers := by
    simp [step, same]
  obtain ⟨more, count, reached, names⟩ := call_follows begun left
  have last := (run_round left more).1
  rw [count, List.drop_length] at last
  exact ⟨more, _, rfl, same ▸ names, reached, last⟩

end Rehearsed

variable {Handler : Type}

/-- What a registry has come to, and how it calls its handlers from then on. -/
structure Notifies (after : History Handler) : Prop where
  /-- No number is given twice. -/
  distinct : (issued after.deeds).Nodup
  small : ∀ id ∈ issued after.deeds, id < 2 ^ 64
  /-- The subscriptions are those that were made and not ended, in their order. -/
  registered : after.registry.entries = standing after.deeds
  /-- To end a subscription says whether there is one, and leaves all others. -/
  unsubscribes : ∀ id,
    (∃ front handler later, standing after.deeds = front ++ (id, handler) :: later ∧
      after.registry.unsubscribe id =
        ({ after.registry with entries := front ++ later }, true)) ∨
    (∀ handler, (id, handler) ∉ standing after.deeds) ∧
      after.registry.unsubscribe id = (after.registry, false)
  /-- A notification calls the handlers that are registered when it begins, each once and in order,
  whatever happens until it is over. -/
  calls : ∀ more,
    let round := after.rounds.length
    let snapshot := (standing after.deeds).map Prod.snd
    let taken := more.countP (Event.calls round)
    let later := (after.step .notify).run more
    called later.deeds round = snapshot.take taken ∧
      later.rounds[round]? = some (snapshot.drop taken)

/-- Handlers are subscribed, unsubscribed and called in any order, also by handlers while they are
called. No number is given twice, and 64 bits are enough for each. The registry has exactly the
subscriptions that were made and not ended, in their order. To end one says whether there is one,
and leaves all others. A notification calls the handlers that are registered when it begins, each
once and in order, whatever happens until it is over. One whose handlers make changes of their own
each time that they are called does the same. -/
theorem run_notifies (events : List (Event Handler))
    (few : events.countP Event.changes < 2 ^ 64) :
    (({} : History Handler).run events).Notifies ∧
      ∀ (state : Rehearsal.Registries.State) (second : Bool)
        (history : History Rehearsal.Registries.Handler),
        history.registry = state.registry second →
          ∃ more calls, Mirrors state second history more calls := by
  generalize ran : ({} : History Handler).run events = after
  have orderly : after.Orderly := ran ▸ orderly_new.run events
  refine ⟨{ distinct := ?_, small := fun id among => ?_, registered := orderly.registered,
            unsubscribes := orderly.unsubscribe_eq, calls := fun more => ?_ },
    fun _ _ _ => notify_follows⟩
  · rw [orderly.numbered]
    exact List.nodup_range
  · rw [orderly.numbered, List.mem_range] at among
    have most : after.registry.nextId ≤ 0 + events.countP Event.changes := ran ▸ nextId_le events
    omega
  · have left : (after.step .notify).rounds[after.rounds.length]? =
        some ((standing after.deeds).map Prod.snd) := by
      simp [step, Registry.handlers, orderly.registered]
    have none : called (after.step .notify).deeds after.rounds.length = [] :=
      orderly.uncalled (fun _ => rfl) _ (Nat.le_refl _)
    obtain ⟨goesOn, calls⟩ := run_round left more
    rw [none, List.nil_append] at calls
    exact ⟨calls, goesOn⟩

/-- The second handler ends its own subscription and the third one when it is called, and subscribes
another. All three are called, and the next notification calls the first and the new one. -/
theorem run_notifies_changing :
    let events : List (Event Char) :=
      [.subscribe 'a', .subscribe 'b', .subscribe 'c', .notify, .call 0, .call 0, .unsubscribe 1,
        .unsubscribe 2, .subscribe 'd', .call 0]
    let after := ({} : History Char).run events
    events.countP Event.changes < 2 ^ 64 ∧
      called after.deeds 0 = ['a', 'b', 'c'] ∧
      (issued after.deeds).Nodup ∧
      called ((after.step .notify).run [.call 1, .call 1]).deeds 1 = ['a', 'd'] := by
  intro events after
  have few : events.countP Event.changes < 2 ^ 64 := by decide
  have notifies : after.Notifies := (run_notifies events few).1
  exact ⟨few, by decide, notifies.distinct, (notifies.calls [.call 1, .call 1]).1⟩

end History

end Registry

end ReliableTransport
