import Mathlib.Data.List.Induction
import ReliableTransport.Proofs.Log
import ReliableTransport.Proofs.Sender.Usage
/-!
This module follows a sender of datagrams and its sockets over time. Calls come, wait, get answers
and are given up in any order, and a log says when a call is given the socket, which sockets are
made, what is asked of them, and how each call ends. One call at a time works with the socket, and
what it can meet there is fixed by the point at which it waits.
-/

namespace ReliableTransport

namespace DatagramSender

/-- What a call does with the socket, if it comes to that. -/
def Call.job? : Call → Option Job
  | .connect => some .connect
  | .close => some .close
  | .send delivery => some (.send delivery)
  | .sendRange data offset length =>
    (Word.range? data offset length).map fun message => .send (.whole message)

/-- What happens between a sender, its calls and its sockets. -/
inductive Deed where
  /-- A call is given the socket. -/
  | obtains (number : Nat) (job : Job)
  /-- A new socket is handed over. -/
  | creates (socket : Nat)
  | asks (number : Nat) (order : Order)
  | ends (number : Nat) (result : Result)

def Deed.ofEffect? : Effect Nat Order Result → Option Deed
  | .order number what => some (.asks number what)
  | .done number result => some (.ends number result)
  | .ready _ | .aside _ | .alarm _ _ => none

namespace Usage

/-- The turn that an event brings about. -/
def turn (usage : Usage) : Event → SenderTurn Nat
  | .call call => component.start 0 usage.calls.length call usage.sender
  | .turn number => component.resume 0 number usage.sender
  | .answer number answer => component.answer 0 number answer usage.sender
  | .abandon number => component.abandon number usage.sender

def Event.call? : Event → Option Call
  | .call made => some made
  | _ => none

/-- What a call gets before its turn: its time with the socket, or a new socket. -/
def gains? (usage : Usage) : Event → Option Deed
  | .call call =>
    if usage.sender.turnstile.inside = none then call.job?.map (.obtains usage.calls.length)
    else none
  | .turn number =>
    match usage.sender.calls.lookup number with
    | some (.queued job) =>
      if usage.sender.turnstile.inside = some number then some (.obtains number job) else none
    | _ => none
  | .answer number (.opened (.ok _)) =>
    match usage.sender.calls.lookup number with
    | some (.opening socket) => some (.creates socket)
    | _ => none
  | .answer _ _ | .abandon _ => none

/-- What an event adds to the log. -/
def deeds (usage : Usage) (event : Event) : List Deed :=
  (usage.gains? event).toList ++ (usage.turn event).2.filterMap Deed.ofEffect?

end Usage

/-- A sender and what happened between it and its sockets so far. -/
structure History where
  usage : Usage
  deeds : List Deed := []

namespace History

def step (history : History) (event : Usage.Event) : History where
  usage := history.usage.step event
  deeds := history.deeds ++ history.usage.deeds event

def run (history : History) (events : List Usage.Event) : History := events.foldl step history

/-- A new sender. -/
def opened (bindAddress sendAddress : Address) (limits : SendLimits) : History where
  usage := { sender := { bindAddress, sendAddress, limits } }

/-- What events add to the log. -/
def adds (history : History) (events : List Usage.Event) : List Deed :=
  (history.run events).deeds.drop history.deeds.length

theorem run_append (history : History) (events more : List Usage.Event) :
    history.run (events ++ more) = (history.run events).run more := List.foldl_append

theorem run_concat (history : History) (events : List Usage.Event) (event : Usage.Event) :
    history.run (events ++ [event]) = (history.run events).step event := run_append ..

theorem run_deeds (history : History) (events : List Usage.Event) :
    (history.run events).deeds = history.deeds ++ history.adds events := by
  have kept : history.deeds <+: (history.run events).deeds := by
    induction events using List.reverseRecOn with
    | nil => exact List.prefix_refl _
    | append_singleton events event ih =>
        rw [run_concat]
        exact ih.trans (List.prefix_append _ _)
  obtain ⟨added, same⟩ := kept
  rw [adds, ← same, List.drop_left]

theorem adds_nil (history : History) : history.adds [] = [] := List.drop_length

theorem adds_concat (history : History) (events : List Usage.Event) (event : Usage.Event) :
    history.adds (events ++ [event]) =
      history.adds events ++ (history.run events).usage.deeds event := by
  have grown := run_deeds history (events ++ [event])
  rw [run_concat, step, run_deeds history events, List.append_assoc] at grown
  exact (List.append_cancel_left grown).symm

end History

/-- A call that is given the socket does its work up to the point where it waits, or to its end. -/
inductive Works (sender : DatagramSender Nat) (number : Nat) :
    Job → DatagramSender Nat → List Deed → Prop where
  | replaces {socket : Nat} (owns : sender.socket = some socket) :
      Works sender number .connect
        ({ sender with socket := none, connected := false }.park number (.replacing socket))
        [.asks number (.closeSocket socket)]
  | opens (bare : sender.socket = none) :
      Works sender number .connect
        ({ sender with nextSocket := sender.nextSocket + 1 }.park number
          (.opening sender.nextSocket))
        [.asks number (.openSocket sender.nextSocket)]
  | closes {socket : Nat} (owns : sender.socket = some socket) :
      Works sender number .close ({ sender with socket := none }.park number (.closing socket))
        [.asks number (.closeSocket socket)]
  | rests (bare : sender.socket = none) :
      Works sender number .close
        ({ sender with connected := false, wasConnected := false }.depart number).1
        [.ends number .closed]
  | sends {delivery : Delivery} {socket : Nat} (owns : sender.socket = some socket) :
      Works sender number (.send delivery) (sender.park number (.sending socket))
        [.asks number (.send socket delivery)]
  | misses {delivery : Delivery} (bare : sender.socket = none) :
      Works sender number (.send delivery) (sender.depart number).1
        [.ends number (.sent (.error sender.noSocket))]

/-- A call is given the socket, at once or when it has waited, and is inside from then on. -/
inductive Obtains (usage : Usage) : Usage.Event → Nat → Job → Turnstile Nat → Prop where
  | begins {call : Call} {job : Job} (wants : call.job? = some job)
      (idle : usage.sender.turnstile.inside = none) :
      Obtains usage (.call call) usage.calls.length job
        { usage.sender.turnstile with inside := some usage.calls.length }
  | proceeds {number : Nat} {job : Job}
      (waits : usage.sender.calls.lookup number = some (.queued job))
      (inside : usage.sender.turnstile.inside = some number) :
      Obtains usage (.turn number) number job usage.sender.turnstile

/-- What can happen to a sender, event by event, and what that adds to the log. -/
inductive Goes (usage : Usage) : Usage.Event → DatagramSender Nat → List Deed → Prop where
  /-- The range of a send leaves its data. -/
  | refuses {call : Call} (jobless : call.job? = none) :
      Goes usage (.call call) usage.sender
        [.ends usage.calls.length (.sent (.error (.invalidOperation .rangeOutsideBuffer)))]
  | queues {call : Call} {job : Job} {turnstile : Turnstile Nat} (wants : call.job? = some job)
      (same : turnstile.inside = usage.sender.turnstile.inside) :
      Goes usage (.call call)
        ({ usage.sender with turnstile }.park usage.calls.length (.queued job)) []
  | works {event : Usage.Event} {number : Nat} {job : Job} {turnstile : Turnstile Nat}
      {after : DatagramSender Nat} {deeds : List Deed}
      (obtains : Obtains usage event number job turnstile)
      (works : Works { usage.sender with turnstile } number job after deeds) :
      Goes usage event after (.obtains number job :: deeds)
  /-- The socket that was there before is closed. -/
  | reopens {number socket : Nat}
      (waits : usage.sender.calls.lookup number = some (.replacing socket)) :
      Goes usage (.answer number .closed)
        ({ usage.sender with nextSocket := usage.sender.nextSocket + 1 }.park number
          (.opening usage.sender.nextSocket))
        [.asks number (.openSocket usage.sender.nextSocket)]
  | installs {number socket : Nat}
      (waits : usage.sender.calls.lookup number = some (.opening socket)) :
      Goes usage (.answer number (.opened (.ok ())))
        ({ usage.sender with
            socket := some socket, connected := true, wasConnected := true }.depart number).1
        [.creates socket, .ends number (.connected (.ok ()))]
  /-- There is no new socket to be had. -/
  | fails {number socket : Nat} {failure : Failure}
      (waits : usage.sender.calls.lookup number = some (.opening socket)) :
      Goes usage (.answer number (.opened (.error failure))) (usage.sender.depart number).1
        [.ends number (.connected (.error failure))]
  | lands {number socket : Nat} {result : Except Failure Nat}
      (waits : usage.sender.calls.lookup number = some (.sending socket)) :
      Goes usage (.answer number (.sent result)) ((usage.sender.countSent result).depart number).1
        [.ends number (.sent result)]
  | shuts {number socket : Nat}
      (waits : usage.sender.calls.lookup number = some (.closing socket)) :
      Goes usage (.answer number .closed)
        ({ usage.sender with connected := false, wasConnected := false }.depart number).1
        [.ends number .closed]
  | leaves {number : Nat} : Goes usage (.abandon number) (usage.sender.depart number).1 []
  | stays {event : Usage.Event} : Goes usage event usage.sender []

section Turns

variable {usage : Usage} {event : Usage.Event} {number : Nat}

theorem ofEffect?_depart (sender : DatagramSender Nat) (number : Nat) :
    (sender.depart number).2.filterMap Deed.ofEffect? = [] := by
  rw [depart]
  generalize sender.turnstile.leave number = left
  obtain ⟨turnstile, next⟩ := left
  cases next <;> rfl

theorem ofEffect?_finish (sender : DatagramSender Nat) (number : Nat) (result : Result) :
    (sender.finish number result).2.filterMap Deed.ofEffect? = [.ends number result] := by
  rw [finish, List.filterMap_append, ofEffect?_depart]
  rfl

theorem works_proceed (sender : DatagramSender Nat) (number : Nat) (job : Job) :
    Works sender number job (sender.proceed number job).1
      ((sender.proceed number job).2.filterMap Deed.ofEffect?) := by
  cases job with
  | connect =>
      cases owns : sender.socket with
      | none =>
          simp only [proceed, owns]
          exact .opens owns
      | some socket =>
          simp only [proceed, owns]
          exact .replaces owns
  | close =>
      cases owns : sender.socket with
      | none =>
          have rests : sender.proceed number .close = sender.finishClose number := by
            simp only [proceed, owns]
          rw [rests, finishClose, ofEffect?_finish]
          exact .rests owns
      | some socket =>
          simp only [proceed, owns]
          exact .closes owns
  | send delivery =>
      cases owns : sender.socket with
      | none =>
          simp only [proceed, owns, ofEffect?_finish]
          exact .misses owns
      | some socket =>
          simp only [proceed, owns]
          exact .sends owns

/-- A call joins the line for the socket unless it fails before. -/
theorem begin_eq (sender : DatagramSender Nat) (number : Nat) (call : Call) :
    sender.begin number call =
      match call.job? with
      | some job => sender.ask number job
      | none =>
        (sender, [.done number (.sent (.error (.invalidOperation .rangeOutsideBuffer)))]) := by
  cases call with
  | connect => rfl
  | close => rfl
  | send delivery => rfl
  | sendRange data offset length =>
      rw [begin, Call.job?]
      cases Word.range? data offset length <;> rfl

theorem goes_call (usage : Usage) (call : Call) :
    Goes usage (.call call) (usage.turn (.call call)).1 (usage.deeds (.call call)) := by
  have first : usage.turn (.call call) = usage.sender.begin usage.calls.length call := rfl
  rw [Usage.deeds, Usage.gains?, first, begin_eq]
  cases wants : call.job? with
  | none =>
      simp only [Option.map_none, ite_self]
      exact .refuses wants
  | some job =>
      cases inside : usage.sender.turnstile.inside with
      | none =>
          simp only [ask, Turnstile.enter_of_idle inside, if_true]
          exact .works (.begins wants inside) (works_proceed ..)
      | some other =>
          simp only [ask, Turnstile.enter_of_busy inside]
          exact .queues wants rfl

theorem goes_turn (usage : Usage) (number : Nat) :
    Goes usage (.turn number) (usage.turn (.turn number)).1 (usage.deeds (.turn number)) := by
  have first : usage.turn (.turn number) = usage.sender.resume number := rfl
  rw [Usage.deeds, Usage.gains?, first, resume]
  cases waits : usage.sender.calls.lookup number with
  | none => exact .stays
  | some stage =>
      cases stage with
      | queued job =>
          by_cases inside : usage.sender.turnstile.inside = some number
          · simp only [if_pos inside]
            exact .works (.proceeds waits inside) (works_proceed ..)
          · simp only [if_neg inside]
            exact .stays
      | replacing socket => exact .stays
      | opening socket => exact .stays
      | sending socket => exact .stays
      | closing socket => exact .stays

/-- Only a call that waits for a socket gets one. -/
theorem gains?_answer {answer : Answer}
    (unmet : ∀ socket, usage.sender.calls.lookup number = some (.opening socket) →
      ∀ result, answer ≠ .opened (.ok result)) : usage.gains? (.answer number answer) = none := by
  rw [Usage.gains?.eq_def]
  split
  · next same => cases same
  · next same => cases same
  · next same =>
    cases same
    split
    · next socket waits => exact absurd rfl (unmet socket waits _)
    · rfl
  · rfl
  · rfl

theorem goes_answer (usage : Usage) (number : Nat) (answer : Answer) :
    Goes usage (.answer number answer) (usage.turn (.answer number answer)).1
      (usage.deeds (.answer number answer)) := by
  have first : usage.turn (.answer number answer) = usage.sender.answered number answer := rfl
  rw [Usage.deeds, first, answered.eq_def]
  split
  · next socket waits => exact .reopens waits
  · next socket result waits =>
    rw [ofEffect?_finish]
    cases result with
    | ok _ =>
        simp only [Usage.gains?, waits]
        exact .installs waits
    | error failure => exact .fails waits
  · next socket result waits =>
    rw [ofEffect?_finish]
    exact .lands waits
  · next socket waits =>
    rw [finishClose, ofEffect?_finish]
    exact .shuts waits
  · next unmet _ _ =>
    rw [gains?_answer fun socket waits result => unmet socket (.ok result) waits]
    exact .stays

/-- Every event goes one of the ways. -/
theorem goes (usage : Usage) (event : Usage.Event) :
    Goes usage event (usage.step event).sender (usage.deeds event) := by
  cases event with
  | call call => exact goes_call usage call
  | turn number => exact goes_turn usage number
  | answer number answer => exact goes_answer usage number answer
  | abandon number =>
      have quiet : usage.deeds (.abandon number) = [] := ofEffect?_depart usage.sender number
      rw [quiet]
      exact .leaves

/-- What a call that is given the socket does then. -/
theorem works_of_gains {job : Job} (gains : usage.gains? event = some (.obtains number job)) :
    ∃ turnstile after added, Works { usage.sender with turnstile } number job after added ∧
      usage.deeds event = .obtains number job :: added := by
  have went := goes usage event
  have first : usage.deeds event =
      .obtains number job :: (usage.turn event).2.filterMap Deed.ofEffect? := by
    rw [Usage.deeds, gains]
    rfl
  rw [first] at went ⊢
  generalize (usage.turn event).2.filterMap Deed.ofEffect? = added at went ⊢
  generalize (usage.step event).sender = after at went
  cases went with
  | works obtains works => exact ⟨_, after, added, works, rfl⟩

/-- A send that is given the socket fails at once if there is none. -/
theorem deeds_of_missed {delivery : Delivery}
    (gains : usage.gains? event = some (.obtains number (.send delivery)))
    (bare : usage.sender.socket = none) :
    usage.deeds event =
      [.obtains number (.send delivery),
        .ends number (.sent (.error usage.sender.noSocket))] := by
  obtain ⟨turnstile, after, added, works, noted⟩ := works_of_gains gains
  rw [noted]
  cases works with
  | sends owns => exact absurd (owns.symm.trans bare) nofun
  | misses _ => rfl

/-- Calls are added at the end. -/
theorem step_calls (usage : Usage) (event : Usage.Event) :
    (usage.step event).calls = usage.calls ++ event.call?.toList := by
  cases event with
  | call call => rfl
  | turn number => exact (List.append_nil _).symm
  | answer number answer => exact (List.append_nil _).symm
  | abandon number => exact (List.append_nil _).symm

end Turns

/-- A call is there to do something with the socket. -/
def Wants (calls : List Call) (number : Nat) (job : Job) : Prop :=
  calls[number]?.bind Call.job? = some job

/-- A call waits at a point that fits what it is there for. Behind the first point it is inside, and
the sender has a socket exactly if the call sends. -/
inductive Fits (sender : DatagramSender Nat) (calls : List Call) (number : Nat) : Stage → Prop where
  | queued {job : Job} (wants : Wants calls number job) : Fits sender calls number (.queued job)
  | replacing {socket : Nat} (wants : Wants calls number .connect)
      (inside : sender.turnstile.inside = some number) (bare : sender.socket = none) :
      Fits sender calls number (.replacing socket)
  | opening {socket : Nat} (wants : Wants calls number .connect)
      (inside : sender.turnstile.inside = some number) (bare : sender.socket = none) :
      Fits sender calls number (.opening socket)
  | sending {socket : Nat} {delivery : Delivery} (wants : Wants calls number (.send delivery))
      (inside : sender.turnstile.inside = some number) (owns : sender.socket = some socket) :
      Fits sender calls number (.sending socket)
  | closing {socket : Nat} (wants : Wants calls number .close)
      (inside : sender.turnstile.inside = some number) (bare : sender.socket = none) :
      Fits sender calls number (.closing socket)

/-- Every call waits at a point that fits. -/
def Orderly (sender : DatagramSender Nat) (calls : List Call) : Prop :=
  ∀ number stage, sender.calls.lookup number = some stage → Fits sender calls number stage

section Order

variable {sender after : DatagramSender Nat} {calls : List Call} {number : Nat} {stage : Stage}
  {job : Job}

theorem Wants.append (wants : Wants calls number job) (more : List Call) :
    Wants (calls ++ more) number job := by
  obtain ⟨made, found, gives⟩ := Option.bind_eq_some_iff.mp wants
  obtain ⟨known, _⟩ := List.getElem?_eq_some_iff.mp found
  rw [Wants, List.getElem?_append_left known]
  exact wants

theorem Wants.known (wants : Wants calls number job) : number < calls.length := by
  obtain ⟨made, found, gives⟩ := Option.bind_eq_some_iff.mp wants
  exact (List.getElem?_eq_some_iff.mp found).1

/-- Only a close is there to close. -/
theorem Wants.close (wants : Wants calls number .close) : calls[number]? = some .close := by
  obtain ⟨made, found, gives⟩ := Option.bind_eq_some_iff.mp wants
  rw [found]
  cases made with
  | connect => cases gives
  | close => rfl
  | send delivery => cases gives
  | sendRange data offset length =>
      obtain ⟨message, _, impossible⟩ := Option.map_eq_some_iff.mp gives
      cases impossible

theorem wants_last {call : Call} (wants : call.job? = some job) :
    Wants (calls ++ [call]) calls.length job := by
  rw [Wants, List.getElem?_concat_length]
  exact wants

theorem Fits.known (fits : Fits sender calls number stage) : number < calls.length := by
  cases fits with
  | queued wants => exact wants.known
  | replacing wants => exact wants.known
  | opening wants => exact wants.known
  | sending wants => exact wants.known
  | closing wants => exact wants.known

/-- A point goes on to fit while the socket and the call inside stay. -/
theorem Fits.carry (fits : Fits sender calls number stage) (socket : after.socket = sender.socket)
    (inside : after.turnstile.inside = sender.turnstile.inside) (more : List Call) :
    Fits after (calls ++ more) number stage := by
  cases fits with
  | queued wants => exact .queued (wants.append more)
  | replacing wants entered bare =>
      exact .replacing (wants.append more) (inside.trans entered) (socket.trans bare)
  | opening wants entered bare =>
      exact .opening (wants.append more) (inside.trans entered) (socket.trans bare)
  | sending wants entered owns =>
      exact .sending (wants.append more) (inside.trans entered) (socket.trans owns)
  | closing wants entered bare =>
      exact .closing (wants.append more) (inside.trans entered) (socket.trans bare)

/-- While another call is inside, or none, a call waits at the first point. -/
theorem Fits.outside (fits : Fits sender calls number stage)
    (outside : sender.turnstile.inside ≠ some number) :
    ∃ job, stage = .queued job ∧ Wants calls number job := by
  cases fits with
  | queued wants => exact ⟨_, rfl, wants⟩
  | replacing _ inside => exact absurd inside outside
  | opening _ inside => exact absurd inside outside
  | sending _ inside => exact absurd inside outside
  | closing _ inside => exact absurd inside outside

theorem lookup_parked (sender : DatagramSender Nat) (number : Nat) (stage : Stage) (other : Nat) :
    (sender.park number stage).calls.lookup other =
      if other = number then some stage else sender.calls.lookup other :=
  @Usage.lookup_park { sender } number other stage

theorem lookup_departed (sender : DatagramSender Nat) (number other : Nat) :
    (sender.depart number).1.calls.lookup other =
      if other = number then none else sender.calls.lookup other :=
  lookup_struck sender.calls number other

/-- One call is inside at a time. -/
theorem outside_of_ne {turnstile : Turnstile Nat} {other : Nat}
    (inside : turnstile.inside = some number) (different : other ≠ number) :
    turnstile.inside ≠ some other := by
  intro entered
  exact different (Option.some.inj (entered.symm.trans inside))

/-- The call that is inside goes to another point, and the others wait at the first one. -/
theorem Orderly.park (orderly : Orderly sender calls)
    (inside : sender.turnstile.inside = some number) (same : after.calls = sender.calls)
    (fits : Fits (after.park number stage) calls number stage) :
    Orderly (after.park number stage) calls := by
  intro other point found
  rw [lookup_parked, same] at found
  split at found
  · next own =>
    cases found
    rwa [own]
  · next different =>
    have outside := outside_of_ne inside different
    obtain ⟨job, rfl, wants⟩ := (orderly other point found).outside outside
    exact .queued wants

/-- The call that is inside leaves, and those that are left wait at the first point. -/
theorem Orderly.depart (orderly : Orderly sender calls)
    (inside : sender.turnstile.inside = some number) (same : after.calls = sender.calls) :
    Orderly (after.depart number).1 calls := by
  intro other point found
  rw [lookup_departed, same] at found
  split at found
  · cases found
  · next different =>
    have outside := outside_of_ne inside different
    obtain ⟨job, rfl, wants⟩ := (orderly other point found).outside outside
    exact .queued wants

/-- A call is given up while it waits. -/
theorem Orderly.abandon (orderly : Orderly sender calls) (number : Nat) :
    Orderly (sender.depart number).1 calls := by
  by_cases inside : sender.turnstile.inside = some number
  · exact orderly.depart inside rfl
  intro other point found
  rw [lookup_departed] at found
  split at found
  · cases found
  · have carried : Fits (sender.depart number).1 (calls ++ []) other point := by
      refine (orderly other point found).carry ?_ ?_ []
      · rfl
      · exact Turnstile.inside_leave_of_ne inside
    rwa [List.append_nil] at carried

theorem Orderly.append (orderly : Orderly sender calls) (more : List Call) :
    Orderly sender (calls ++ more) := fun number stage found =>
  (orderly number stage found).carry rfl rfl more

theorem Works.orderly {deeds : List Deed} (works : Works sender number job after deeds)
    (orderly : Orderly sender calls) (inside : sender.turnstile.inside = some number)
    (wants : Wants calls number job) : Orderly after calls := by
  cases works with
  | replaces owns => exact orderly.park inside rfl (.replacing wants inside rfl)
  | opens bare => exact orderly.park inside rfl (.opening wants inside bare)
  | closes owns => exact orderly.park inside rfl (.closing wants inside rfl)
  | rests bare => exact orderly.depart inside rfl
  | sends owns => exact orderly.park inside rfl (.sending wants inside owns)
  | misses bare => exact orderly.depart inside rfl

/-- A call that is given the socket is inside, and the others still wait at points that fit. -/
theorem Obtains.orderly {usage : Usage} {event : Usage.Event} {turnstile : Turnstile Nat}
    (obtains : Obtains usage event number job turnstile)
    (orderly : Orderly usage.sender usage.calls) :
    turnstile.inside = some number ∧ Wants (usage.calls ++ event.call?.toList) number job ∧
      Orderly { usage.sender with turnstile } (usage.calls ++ event.call?.toList) := by
  cases obtains with
  | begins wants idle =>
      refine ⟨rfl, wants_last wants, fun other point found => ?_⟩
      have outside : usage.sender.turnstile.inside ≠ some other := by
        rw [idle]
        nofun
      obtain ⟨job, rfl, wanted⟩ := (orderly other point found).outside outside
      exact .queued (wanted.append _)
  | proceeds waits inside =>
      cases orderly number _ waits with
      | queued wants => exact ⟨inside, wants.append _, orderly.append _⟩

/-- While a call is given the socket, all others wait at the first point. -/
theorem Obtains.queued {usage : Usage} {event : Usage.Event} {turnstile : Turnstile Nat}
    (obtains : Obtains usage event number job turnstile)
    (orderly : Orderly usage.sender usage.calls) {other : Nat}
    (found : usage.sender.calls.lookup other = some stage) : ∃ job, stage = .queued job := by
  cases obtains with
  | begins wants idle =>
      have outside : usage.sender.turnstile.inside ≠ some other := by
        rw [idle]
        nofun
      obtain ⟨job, is, _⟩ := (orderly other stage found).outside outside
      exact ⟨job, is⟩
  | proceeds waits inside =>
      by_cases same : other = number
      · rw [same, waits] at found
        exact ⟨job, (Option.some.inj found).symm⟩
      · have outside := outside_of_ne inside same
        obtain ⟨job, is, _⟩ := (orderly other stage found).outside outside
        exact ⟨job, is⟩

theorem countSent_calls (sender : DatagramSender Nat) (result : Except Failure Nat) :
    (sender.countSent result).calls = sender.calls := by
  obtain ⟨bytesSent, connected, counted⟩ := Usage.countSent_eq sender result
  rw [counted]

/-- Whatever happens, every call waits at a point that fits. -/
theorem Goes.orderly {usage : Usage} {event : Usage.Event} {deeds : List Deed}
    (goes : Goes usage event after deeds) (orderly : Orderly usage.sender usage.calls) :
    Orderly after (usage.calls ++ event.call?.toList) := by
  cases goes with
  | refuses jobless => exact orderly.append _
  | queues wants same =>
      intro other point found
      rw [lookup_parked] at found
      split at found
      · next own =>
        cases found
        rw [own]
        exact .queued (wants_last wants)
      · refine (orderly other point found).carry ?_ ?_ _
        · rfl
        · exact same
  | works obtains works =>
      obtain ⟨inside, wants, entered⟩ := obtains.orderly orderly
      exact works.orderly entered inside wants
  | reopens waits =>
      cases orderly _ _ waits with
      | replacing wants inside bare =>
          refine Orderly.append ?_ []
          exact orderly.park inside rfl (.opening wants inside bare)
  | installs waits =>
      cases orderly _ _ waits with
      | opening wants inside bare =>
          refine Orderly.append ?_ []
          exact orderly.depart inside rfl
  | fails waits =>
      cases orderly _ _ waits with
      | opening wants inside bare =>
          refine Orderly.append ?_ []
          exact orderly.depart inside rfl
  | lands waits =>
      cases orderly _ _ waits with
      | sending wants inside owns =>
          refine Orderly.append ?_ []
          exact orderly.depart inside (countSent_calls ..)
  | shuts waits =>
      cases orderly _ _ waits with
      | closing wants inside bare =>
          refine Orderly.append ?_ []
          exact orderly.depart inside rfl
  | leaves => exact (orderly.abandon _).append _
  | stays => exact orderly.append _

end Order

namespace History

variable (bindAddress sendAddress : Address) (limits : SendLimits)

/-- What every event keeps that is allowed holds after every run of such events. -/
theorem run_holds (holds : DatagramSender Nat → List Call → List Deed → Prop)
    (allowed : Usage → Usage.Event → Prop)
    (first : holds { bindAddress, sendAddress, limits } [] [])
    (keeps : ∀ {usage event after deeds added}, Orderly usage.sender usage.calls →
      Goes usage event after added → allowed usage event → holds usage.sender usage.calls deeds →
        holds after (usage.calls ++ event.call?.toList) (deeds ++ added))
    (events : List Usage.Event)
    (fair : ∀ before event behind, events = before ++ event :: behind →
      allowed ((opened bindAddress sendAddress limits).run before).usage event) :
    let reached := (opened bindAddress sendAddress limits).run events
    Orderly reached.usage.sender reached.usage.calls ∧
      holds reached.usage.sender reached.usage.calls reached.deeds := by
  induction events using List.reverseRecOn with
  | nil => exact ⟨fun _ _ found => (nomatch found), first⟩
  | append_singleton events event ih =>
      have former := ih fun before earlier behind same =>
        fair before earlier (behind ++ [event]) (by simp [same])
      have went := goes ((opened bindAddress sendAddress limits).run events).usage event
      have here := fair events event [] rfl
      dsimp only
      rw [run_concat]
      simp only [step, step_calls]
      exact ⟨went.orderly former.1, keeps former.1 went here former.2⟩

/-- After every run, every call waits at a point that fits. -/
theorem run_orderly (events : List Usage.Event) :
    let reached := (opened bindAddress sendAddress limits).run events
    Orderly reached.usage.sender reached.usage.calls := by
  have held := run_holds bindAddress sendAddress limits (fun _ _ _ => True) (fun _ _ => True)
    trivial (fun _ _ _ _ => trivial) events fun _ _ _ _ => trivial
  exact held.1

theorem run_calls (events : List Usage.Event) :
    ((opened bindAddress sendAddress limits).run events).usage.calls =
      events.filterMap Usage.Event.call? := by
  induction events using List.reverseRecOn with
  | nil => rfl
  | append_singleton events event ih =>
      rw [run_concat, step, step_calls, ih, List.filterMap_append]
      cases event <;> rfl

end History

end DatagramSender

end ReliableTransport
