import Mathlib.Data.List.Nodup
import ReliableTransport.Proofs.Log
import ReliableTransport.Registry
/-!
This module follows a registry over time. Subscriptions come and go, and notifications call the
handlers that were registered when they began. Whatever a handler changes while it is called, and
whatever others change meanwhile, comes between two calls, so the changes and the calls of all
notifications stand in one log.
-/

namespace ReliableTransport

namespace Registry

/-- What can happen to a registry. -/
inductive Event (Handler : Type) where
  | subscribe (handler : Handler)
  | unsubscribe (id : Nat)
  /-- A notification begins. -/
  | notify
  /-- A notification calls its next handler, if it has one left. -/
  | call (round : Nat)
  deriving Repr, DecidableEq

/-- What happened to a registry. Notifications are numbered in the order in which they began. -/
inductive Deed (Handler : Type) where
  | subscribed (id : Nat) (handler : Handler)
  | unsubscribed (id : Nat)
  | notified
  | called (round : Nat) (handler : Handler)
  deriving Repr, DecidableEq

variable {Handler : Type}

def Event.changes : Event Handler → Bool
  | .subscribe _ | .unsubscribe _ => true
  | _ => false

/-- The notification calls its next handler. -/
def Event.calls (round : Nat) : Event Handler → Bool
  | .call other => other = round
  | _ => false

namespace Deed

def issues? : Deed Handler → Option Nat
  | subscribed id _ => some id
  | _ => none

def ends (id : Nat) : Deed Handler → Bool
  | unsubscribed other => other = id
  | _ => false

/-- The handler that a notification called. -/
def calls? (round : Nat) : Deed Handler → Option Handler
  | called other handler => if other = round then some handler else none
  | _ => none

end Deed

section Log

variable (deeds more : List (Deed Handler)) (id : Nat) (handler : Handler)

/-- The numbers of all subscriptions that there were, in order. -/
def issued : List Nat := deeds.filterMap Deed.issues?

/-- The handlers that a notification called, in order. -/
def called (round : Nat) : List Handler := deeds.filterMap (Deed.calls? round)

/-- The subscriptions that were not ended since they were made, in order. -/
def standing : List (Deed Handler) → List (Nat × Handler)
  | [] => []
  | .subscribed id handler :: later =>
    if later.any (Deed.ends id) then standing later else (id, handler) :: standing later
  | _ :: later => standing later

theorem issued_append : issued (deeds ++ more) = issued deeds ++ issued more :=
  List.filterMap_append

theorem called_append (round : Nat) :
    called (deeds ++ more) round = called deeds round ++ called more round :=
  List.filterMap_append

theorem standing_subscribed :
    standing (deeds ++ [.subscribed id handler]) = standing deeds ++ [(id, handler)] := by
  induction deeds with
  | nil => rfl
  | cons deed later ih =>
      cases deed with
      | subscribed other former =>
          have spared : (later ++ [Deed.subscribed id handler]).any (Deed.ends other) =
              later.any (Deed.ends other) := by
            simp [Deed.ends]
          rw [List.cons_append, standing, standing, spared, ih]
          split <;> rfl
      | unsubscribed _ | notified | called _ _ => exact ih

theorem standing_unsubscribed :
    standing (deeds ++ [.unsubscribed id]) =
      (standing deeds).filter fun entry => entry.1 != id := by
  induction deeds with
  | nil => rfl
  | cons deed later ih =>
      cases deed with
      | subscribed other former =>
          rw [List.cons_append, standing, standing, List.any_append, ih]
          by_cases ended : later.any (Deed.ends other) = true
          · simp [ended]
          · by_cases own : id = other
            · subst own
              simp [ended, Deed.ends]
            · have kept : (other != id) = true := bne_iff_ne.mpr (Ne.symm own)
              simp [ended, own, Deed.ends, kept]
      | unsubscribed _ | notified | called _ _ => exact ih

/-- Notifications and calls change no subscription. -/
theorem standing_of_silent {deed : Deed Handler} (silent : deed.issues? = none)
    (spares : ∀ id, deed.ends id = false) : standing (deeds ++ [deed]) = standing deeds := by
  induction deeds with
  | nil =>
      cases deed with
      | subscribed => cases silent
      | unsubscribed | notified | called => rfl
  | cons first later ih =>
      cases first with
      | subscribed other former =>
          have same : (later ++ [deed]).any (Deed.ends other) = later.any (Deed.ends other) := by
            simp [spares]
          rw [List.cons_append, standing, standing, same, ih]
      | unsubscribed _ | notified | called _ _ => exact ih

end Log

/-- A registry, the notifications on it and what happened so far. -/
structure History (Handler : Type) where
  registry : Registry Handler := {}
  /-- The handlers that each notification has still to call. -/
  rounds : List (List Handler) := []
  deeds : List (Deed Handler) := []

namespace History

def step (history : History Handler) : Event Handler → History Handler
  | .subscribe handler =>
    let (registry, id) := history.registry.subscribe handler
    { history with registry, deeds := history.deeds ++ [.subscribed id handler] }
  | .unsubscribe id =>
    { history with
      registry := (history.registry.unsubscribe id).1
      deeds := history.deeds ++ [.unsubscribed id] }
  | .notify =>
    { history with
      rounds := history.rounds ++ [history.registry.handlers]
      deeds := history.deeds ++ [.notified] }
  | .call round =>
    match history.rounds[round]? with
    | some (handler :: rest) =>
      { history with
        rounds := history.rounds.set round rest
        deeds := history.deeds ++ [.called round handler] }
    | _ => history

def run (history : History Handler) (events : List (Event Handler)) : History Handler :=
  events.foldl step history

variable {history : History Handler}

@[simp] theorem run_nil : history.run [] = history := rfl

@[simp] theorem run_cons (event : Event Handler) (events : List (Event Handler)) :
    history.run (event :: events) = (history.step event).run events := rfl

theorem run_append (events more : List (Event Handler)) :
    history.run (events ++ more) = (history.run events).run more := List.foldl_append

/-- A notification calls the first handler that it has left. -/
theorem step_call {round : Nat} {handler : Handler} {rest : List Handler}
    (left : history.rounds[round]? = some (handler :: rest)) :
    history.step (.call round) =
      { history with
        rounds := history.rounds.set round rest
        deeds := history.deeds ++ [.called round handler] } := by
  rw [step, left]

/-- A notification that has no handler left does nothing more. -/
theorem step_call_of_done {round : Nat}
    (done : ∀ handler rest, history.rounds[round]? ≠ some (handler :: rest)) :
    history.step (.call round) = history := by
  rw [step]
  split
  · next handler rest left => exact absurd left (done handler rest)
  · rfl

/-- What holds for a registry and its log, whatever has happened. -/
structure Orderly (history : History Handler) : Prop where
  numbered : issued history.deeds = List.range history.registry.nextId
  registered : history.registry.entries = standing history.deeds
  known : ∀ entry ∈ history.registry.entries, entry.1 < history.registry.nextId
  distinct : (history.registry.entries.map Prod.fst).Nodup
  begun : ∀ round, history.rounds.length ≤ round → called history.deeds round = []

theorem orderly_new : Orderly ({} : History Handler) where
  numbered := rfl
  registered := rfl
  known := by simp
  distinct := List.nodup_nil
  begun := by simp [called]

namespace Orderly

/-- A change of the subscriptions is no call. -/
theorem uncalled (orderly : history.Orderly) {deed : Deed Handler}
    (none : ∀ round, deed.calls? round = none) (round : Nat)
    (later : history.rounds.length ≤ round) : called (history.deeds ++ [deed]) round = [] := by
  rw [called_append, orderly.begun round later]
  simp [called, none]

theorem subscribe (orderly : history.Orderly) (handler : Handler) :
    (history.step (.subscribe handler)).Orderly where
  numbered := by
    simp only [step, Registry.subscribe, issued_append, orderly.numbered]
    exact List.range_succ.symm
  registered := by
    simp only [step, Registry.subscribe, standing_subscribed, orderly.registered]
  known entry among := by
    simp only [step, Registry.subscribe] at among ⊢
    rcases List.mem_append.mp among with former | new
    · exact Nat.lt_succ_of_lt (orderly.known entry former)
    · rw [List.mem_singleton.mp new]
      exact Nat.lt_succ_self _
  distinct := by
    simp only [step, Registry.subscribe, List.map_append]
    refine List.nodup_append.mpr ⟨orderly.distinct, List.nodup_singleton _, ?_⟩
    rintro id former other new rfl
    obtain ⟨entry, among, rfl⟩ := List.mem_map.mp former
    exact absurd (List.mem_singleton.mp new) (Nat.ne_of_lt (orderly.known entry among))
  begun := orderly.uncalled fun _ => rfl

theorem unsubscribe (orderly : history.Orderly) (id : Nat) :
    (history.step (.unsubscribe id)).Orderly where
  numbered := by
    simp only [step, Registry.unsubscribe, issued_append, orderly.numbered]
    exact List.append_nil _
  registered := by
    simp only [step, Registry.unsubscribe, standing_unsubscribed, orderly.registered]
  known entry among := orderly.known entry (List.mem_filter.mp among).1
  distinct := orderly.distinct.sublist (List.filter_sublist.map _)
  begun := orderly.uncalled fun _ => rfl

theorem notify (orderly : history.Orderly) : (history.step .notify).Orderly where
  numbered := by
    simp only [step, issued_append, orderly.numbered]
    exact List.append_nil _
  registered := by
    simp only [step]
    rw [standing_of_silent _ rfl fun _ => rfl, orderly.registered]
  known := orderly.known
  distinct := orderly.distinct
  begun round later := by
    refine orderly.uncalled (fun _ => rfl) round (Nat.le_of_succ_le ?_)
    simpa [step] using later

theorem call (orderly : history.Orderly) (round : Nat) :
    (history.step (.call round)).Orderly := by
  by_cases left : ∃ handler rest, history.rounds[round]? = some (handler :: rest)
  · obtain ⟨handler, rest, left⟩ := left
    rw [step_call left]
    refine ⟨?_, ?_, orderly.known, orderly.distinct, fun other later => ?_⟩
    · simp only [issued_append, orderly.numbered]
      exact List.append_nil _
    · simp only [orderly.registered]
      exact (standing_of_silent _ rfl fun _ => rfl).symm
    · rw [List.length_set] at later
      have earlier : round < history.rounds.length := (List.getElem?_eq_some_iff.mp left).1
      have others : round ≠ other := Nat.ne_of_lt (Nat.lt_of_lt_of_le earlier later)
      rw [called_append, orderly.begun other later]
      simp [called, Deed.calls?, others]
  · rw [step_call_of_done fun handler rest is => left ⟨handler, rest, is⟩]
    exact orderly

theorem step (orderly : history.Orderly) (event : Event Handler) :
    (history.step event).Orderly := by
  cases event with
  | subscribe handler => exact orderly.subscribe handler
  | unsubscribe id => exact orderly.unsubscribe id
  | notify => exact orderly.notify
  | call round => exact orderly.call round

theorem run (orderly : history.Orderly) (events : List (Event Handler)) :
    (history.run events).Orderly := by
  induction events generalizing history with
  | nil => exact orderly
  | cons event rest ih => exact ih (orderly.step event)

/-- Each number belongs to one subscription, so ending it takes one entry away at most. -/
theorem unsubscribe_eq (orderly : history.Orderly) (id : Nat) :
    (∃ front handler later, standing history.deeds = front ++ (id, handler) :: later ∧
        history.registry.unsubscribe id =
          ({ history.registry with entries := front ++ later }, true)) ∨
      (∀ handler, (id, handler) ∉ standing history.deeds) ∧
        history.registry.unsubscribe id = (history.registry, false) := by
  by_cases among : ∃ handler, (id, handler) ∈ standing history.deeds
  · obtain ⟨handler, among⟩ := among
    obtain ⟨front, later, split⟩ := List.append_of_mem among
    have distinct := orderly.distinct
    rw [orderly.registered, split, List.map_append, List.map_cons, List.nodup_middle,
      ← List.map_append] at distinct
    have others : ∀ entry ∈ front ++ later, (entry.1 != id) = true := fun entry member =>
      bne_iff_ne.mpr fun same =>
        (List.nodup_cons.mp distinct).1 (List.mem_map.mpr ⟨entry, member, same⟩)
    have kept : (front ++ (id, handler) :: later).filter (fun entry => entry.1 != id) =
        front ++ later := by
      rw [List.filter_append, List.filter_cons_of_neg (by simp), ← List.filter_append]
      exact List.filter_eq_self.mpr others
    refine .inl ⟨front, handler, later, split, ?_⟩
    rw [Registry.unsubscribe, isRegistered, orderly.registered, split, kept]
    simp
  · have absent : ∀ entry ∈ history.registry.entries, entry.1 ≠ id := by
      rw [orderly.registered]
      rintro ⟨other, handler⟩ member rfl
      exact among ⟨handler, member⟩
    refine .inr ⟨fun handler member => among ⟨handler, member⟩, ?_⟩
    have kept : history.registry.entries.filter (fun entry => entry.1 != id) =
        history.registry.entries :=
      List.filter_eq_self.mpr fun entry member => bne_iff_ne.mpr (absent entry member)
    have unknown : history.registry.isRegistered id = false :=
      List.any_eq_false.mpr fun entry member => by simpa using absent entry member
    rw [Registry.unsubscribe, kept, unknown]

end Orderly

/-- No more numbers are used up than changes are made. -/
theorem nextId_le (events : List (Event Handler)) :
    (history.run events).registry.nextId ≤
      history.registry.nextId + events.countP Event.changes := by
  induction events generalizing history with
  | nil => exact Nat.le_refl _
  | cons event rest ih =>
      have step : (history.step event).registry.nextId + rest.countP Event.changes ≤
          history.registry.nextId + (event :: rest).countP Event.changes := by
        rw [List.countP_cons]
        cases event with
        | subscribe handler => simp [History.step, Registry.subscribe, Event.changes]; omega
        | unsubscribe id => simp [History.step, Registry.unsubscribe]
        | notify => simp [History.step]
        | call round =>
            rw [History.step]
            split <;> simp
      exact Nat.le_trans ih step

section Rounds

variable {round : Nat} {handlers : List Handler}

/-- An event either calls the next handler of a notification, or the notification stands where it
stood. -/
theorem step_round (left : history.rounds[round]? = some handlers) (event : Event Handler) :
    let taken := if event.calls round then 1 else 0
    (history.step event).rounds[round]? = some (handlers.drop taken) ∧
      called (history.step event).deeds round =
        called history.deeds round ++ handlers.take taken := by
  have earlier : round < history.rounds.length := (List.getElem?_eq_some_iff.mp left).1
  cases event with
  | subscribe handler | unsubscribe id =>
      refine ⟨left, ?_⟩
      simp [step, called, Deed.calls?, Event.calls]
  | notify =>
      refine ⟨?_, by simp [step, called, Deed.calls?, Event.calls]⟩
      simpa [step, List.getElem?_append_left earlier, Event.calls] using left
  | call other =>
      by_cases own : other = round
      · subst own
        cases handlers with
        | nil =>
            have done : history.step (.call other) = history :=
              step_call_of_done fun handler rest is => by
                rw [left] at is
                cases is
            simp [done, left]
        | cons handler rest =>
            rw [step_call left]
            simp [Event.calls, Deed.calls?, called, List.getElem?_set_self earlier]
      · by_cases waits : ∃ handler rest, history.rounds[other]? = some (handler :: rest)
        · obtain ⟨handler, rest, waits⟩ := waits
          rw [step_call waits]
          simp [Event.calls, Deed.calls?, called, own, List.getElem?_set_ne own, left]
        · rw [step_call_of_done fun handler rest is => waits ⟨handler, rest, is⟩]
          simp [Event.calls, own, left]

/-- Whatever happens meanwhile, a notification calls the handlers that it has left, one after the
other. -/
theorem run_round (left : history.rounds[round]? = some handlers)
    (events : List (Event Handler)) :
    let taken := events.countP (Event.calls round)
    (history.run events).rounds[round]? = some (handlers.drop taken) ∧
      called (history.run events).deeds round =
        called history.deeds round ++ handlers.take taken := by
  induction events generalizing history handlers with
  | nil => simp [left]
  | cons event rest ih =>
      obtain ⟨goesOn, calls⟩ := step_round left event
      obtain ⟨last, all⟩ := ih goesOn
      rw [List.countP_cons, Nat.add_comm]
      refine ⟨?_, ?_⟩
      · rw [run_cons, last, List.drop_drop]
      · rw [run_cons, all, calls, List.append_assoc, List.take_add]

end Rounds

end History

end Registry

end ReliableTransport
