import ReliableTransport.Proofs.Pool.Diary
/-!
This module says what becomes of each send on a pool. A send that has got a sender asks it to send
the data, and to connect again if the connection broke. The caller gets what the sender answered
first, however the second attempt ends.
-/

namespace ReliableTransport

namespace Pool

namespace Service

/-- What becomes of a send that has got a sender, as long as nobody gives it up. -/
inductive Served (number sender : Nat) (data : Bytes) : Except Failure Nat → List Deed → Prop where
  /-- The sender has sent, or failed for a reason that connecting again does not change. -/
  | once {result : Except Failure Nat}
      (lasting : ∀ failure, result = .error failure → failure.isTransient = false) :
      Served number sender data result
        [.asks number (.send sender data), .hears number (.sent result),
          .ends number (.sent result)]
  | again {failure : Failure} {outcome : Except Failure Unit}
      (broken : failure.isTransient = true) :
      Served number sender data (.error failure)
        [.asks number (.send sender data), .hears number (.sent (.error failure)),
          .asks number (.connect sender), .hears number (.connected outcome),
          .ends number (.sent (.error failure))]

/-- What the diary says of a send, and where the send is. -/
inductive Tale (number : Nat) (data : Bytes) : Option Stage → List Deed → Prop where
  /-- The send has not begun, or it waits for a sender. -/
  | unlent {place : Option Stage} (unlent : place.bind Stage.leased? = none) :
      Tale number data place []
  /-- The send was refused or late, or it was given up before it got a sender. -/
  | unserved {last : Deed}
      (finished : last = .drops number ∨ ∃ failure, last = .ends number (.sent (.error failure))) :
      Tale number data none [last]
  | sends {sender : Nat} :
      Tale number data (some (.sending sender)) [.asks number (.send sender data)]
  | reconnects {sender : Nat} {failure : Failure} (broken : failure.isTransient = true) :
      Tale number data (some (.reconnecting sender failure))
        [.asks number (.send sender data), .hears number (.sent (.error failure)),
          .asks number (.connect sender)]
  | served {sender : Nat} {result : Except Failure Nat} {told : List Deed}
      (served : Served number sender data result told) : Tale number data none told
  /-- The send was given up while it had a sender. -/
  | yields {sender : Nat} {result : Except Failure Nat} {told rest : List Deed}
      (served : Served number sender data result (told ++ rest)) (unfinished : rest ≠ []) :
      Tale number data none (told ++ [.drops number])

variable {size number sender : Nat} {service : Service} {event : Event} {stage : Stage}
  {data : Bytes} {place : Option Stage} {told heard : List Deed} {calls : List (Nat × Stage)}
  {free : List Nat}

/-- A send that has its sender has asked it to send. -/
theorem Tale.of_sending (tale : Tale number data (some (.sending sender)) told) :
    told = [.asks number (.send sender data)] := by
  cases tale with
  | unlent unlent => cases unlent
  | sends => rfl

/-- A send whose sender connects again was told why. -/
theorem Tale.of_reconnecting {failure : Failure}
    (tale : Tale number data (some (.reconnecting sender failure)) told) :
    failure.isTransient = true ∧
      told = [.asks number (.send sender data), .hears number (.sent (.error failure)),
        .asks number (.connect sender)] := by
  cases tale with
  | unlent unlent => cases unlent
  | reconnects broken => exact ⟨broken, rfl⟩

theorem Tale.of_waiting {other : Bytes} (tale : Tale number data (some (.waiting other)) told) :
    told = [] := by
  cases tale with
  | unlent => rfl

/-- A send that looks for a sender has not got one. -/
theorem Seeks.untold (seeks : Seeks service number data event)
    (tale : Tale number data (service.pool.calls.lookup number) told)
    (begun : service.requests.length ≤ number → told = []) : told = [] := by
  cases seeks with
  | begins new => exact begun (Nat.le_of_eq new)
  | resumes found =>
      rw [found] at tale
      exact tale.of_waiting

/-- What has been told of a send that has a sender goes on as it has to. -/
theorem Tale.begins_served (tale : Tale number data (some stage) told)
    (leased : stage.leased? = some sender) :
    ∃ result rest, rest ≠ [] ∧ Served number sender data result (told ++ rest) := by
  cases stage with
  | sending =>
      obtain rfl := Option.some.inj leased
      rw [tale.of_sending]
      have lasting : ∀ failure, (.ok 0 : Except Failure Nat) = .error failure →
          failure.isTransient = false := fun _ impossible => by cases impossible
      exact ⟨.ok 0, [_, _], by simp, .once lasting⟩
  | reconnecting _ failure =>
      obtain rfl := Option.some.inj leased
      obtain ⟨broken, rfl⟩ := tale.of_reconnecting
      exact ⟨.error failure, [.hears number (.connected (.ok ())), _], by simp, .again broken⟩
  | creating | joining | waiting | draining | closing => cases leased

/-- The tale of a send goes on when the send has its turn. -/
theorem Acts.tale (acts : Acts service number data event heard calls free)
    (tale : Tale number data (service.pool.calls.lookup number) told)
    (begun : service.requests.length ≤ number → told = []) :
    Tale number data (calls.lookup number) (told ++ heard) := by
  have parked (stage : Stage) :
      (service.pool.park number stage).calls.lookup number = some stage := by
    rw [park, lookup_moved, if_pos rfl]
  have removed : (service.pool.remove number).calls.lookup number = none := by
    rw [remove, lookup_struck, if_pos rfl]
  cases acts with
  | refuses new =>
      obtain rfl := begun (Nat.le_of_eq new)
      rw [removed]
      exact .unserved (.inr ⟨_, rfl⟩)
  | gets seeks =>
      obtain rfl := seeks.untold tale begun
      rw [parked]
      exact .sends
  | waits seeks =>
      obtain rfl := seeks.untold tale begun
      rw [parked]
      exact .unlent rfl
  | late seeks =>
      obtain rfl := seeks.untold tale begun
      rw [removed]
      exact .unserved (.inr ⟨_, rfl⟩)
  | breaks found broken =>
      rw [found] at tale
      rw [tale.of_sending, parked]
      exact .reconnects broken
  | returns found concludes =>
      rw [found] at tale
      rw [removed]
      cases concludes with
      | sent =>
          rw [tale.of_sending]
          exact .served (.once fun _ impossible => by cases impossible)
      | failed lasting =>
          rw [tale.of_sending]
          exact .served (.once fun _ same => Except.error.inj same ▸ lasting)
      | reconnected =>
          obtain ⟨broken, rfl⟩ := tale.of_reconnecting
          exact .served (.again broken)
  | leaves found =>
      rw [found] at tale
      rw [tale.of_waiting, removed]
      exact .unserved (.inl rfl)
  | yields found leased =>
      rw [found] at tale
      obtain ⟨result, rest, unfinished, served⟩ := tale.begins_served leased
      rw [removed]
      exact .yields served unfinished
  | stays =>
      rw [List.append_nil]
      exact tale

/-- What was asked of a sender was asked for the send that had it. -/
theorem Served.of_asks {holder : Nat} {sent : Bytes} {result : Except Failure Nat}
    (served : Served number holder data result told)
    (asks : .asks number (.send sender sent) ∈ told) : sender = holder ∧ sent = data := by
  cases served <;> simpa using asks

/-- What the diary says of a send that has got a sender: how far it has come, and whether it was
given up there. -/
inductive Serves (number sender : Nat) (data : Bytes) : Option Stage → List Deed → Prop where
  | ended {result : Except Failure Nat} {told : List Deed}
      (served : Served number sender data result told) : Serves number sender data none told
  | running {stage : Stage} {result : Except Failure Nat} {told rest : List Deed}
      (leased : stage.leased? = some sender)
      (served : Served number sender data result (told ++ rest)) (unfinished : rest ≠ []) :
      Serves number sender data (some stage) told
  | dropped {result : Except Failure Nat} {told rest : List Deed}
      (served : Served number sender data result (told ++ rest)) (unfinished : rest ≠ []) :
      Serves number sender data none (told ++ [.drops number])

/-- A send that asked a sender to send its data is one that has got a sender. -/
theorem Tale.of_asks {sent : Bytes} (tale : Tale number data place told)
    (asks : .asks number (.send sender sent) ∈ told) :
    sent = data ∧ Serves number sender data place told := by
  cases tale with
  | unlent => cases asks
  | unserved finished =>
      obtain rfl := List.mem_singleton.mp asks
      rcases finished with dropped | ⟨failure, ended⟩
      · cases dropped
      · cases ended
  | @sends holder =>
      obtain ⟨result, rest, unfinished, served⟩ := Tale.sends.begins_served rfl
      obtain ⟨rfl, rfl⟩ := served.of_asks (List.mem_append_left rest asks)
      exact ⟨rfl, .running rfl served unfinished⟩
  | reconnects broken =>
      obtain ⟨result, rest, unfinished, served⟩ := (Tale.reconnects broken).begins_served rfl
      obtain ⟨rfl, rfl⟩ := served.of_asks (List.mem_append_left rest asks)
      exact ⟨rfl, .running rfl served unfinished⟩
  | served served =>
      obtain ⟨rfl, rfl⟩ := served.of_asks asks
      exact ⟨rfl, .ended served⟩
  | @yields holder result told rest served unfinished =>
      have before : .asks number (.send sender sent) ∈ told := by simpa using asks
      obtain ⟨rfl, rfl⟩ := served.of_asks (List.mem_append_left rest before)
      exact ⟨rfl, .dropped served unfinished⟩

/-- A send that has a sender has asked it to send. -/
theorem Tale.asks (tale : Tale number data (some stage) told)
    (leased : stage.leased? = some sender) : .asks number (.send sender data) ∈ told := by
  cases tale with
  | unlent unlent => cases leased.symm.trans unlent
  | sends | reconnects =>
      obtain rfl := Option.some.inj leased
      exact List.mem_cons_self

/-- The sender of a send that ends is free behind all others. -/
theorem Acts.returned {sent : Bytes} {result : Result}
    (acts : Acts service number data event heard calls free)
    (tale : Tale number data (service.pool.calls.lookup number) told)
    (begun : service.requests.length ≤ number → told = [])
    (asks : .asks number (.send sender sent) ∈ told) (ends : .ends number result ∈ heard) :
    free = service.pool.queue.items ++ [sender] := by
  cases acts with
  | refuses new =>
      obtain rfl := begun (Nat.le_of_eq new)
      cases asks
  | late seeks =>
      obtain rfl := seeks.untold tale begun
      cases asks
  | @returns stage answer holder result found concludes =>
      rw [found] at tale
      obtain ⟨_, _, _, served⟩ := tale.begins_served concludes.leased?
      obtain ⟨rfl, -⟩ := served.of_asks (List.mem_append_left _ asks)
      rfl
  | gets | waits | breaks | leaves | yields | stays => simp at ends

end Service

open Service (Event)

/-- A pool and the diary of its calls. -/
structure Diary where
  service : Service
  deeds : List Deed := []

namespace Diary

def step (diary : Diary) (event : Event) : Diary where
  service := diary.service.step event
  deeds := diary.deeds ++ diary.service.adds event

def run (diary : Diary) (events : List Event) : Diary := events.foldl step diary

theorem service_run (diary : Diary) (events : List Event) :
    (diary.run events).service = diary.service.run events := by
  induction events generalizing diary with
  | nil => rfl
  | cons event rest ih => exact ih (diary.step event)

/-- What the diary says of a call. -/
def own (diary : Diary) (number : Nat) : List Deed := about Deed.number diary.deeds number

/-- A diary that says of each send what became of it. -/
structure Narrated (size : Nat) (diary : Diary) : Prop where
  orderly : Service.Orderly size diary.service {}
  begun : ∀ deed ∈ diary.deeds, deed.number < diary.service.requests.length
  tales : ∀ number data, diary.service.requests[number]? = some (.send data) →
    Service.Tale number data (diary.service.pool.calls.lookup number) (diary.own number)

variable {size number : Nat} {diary : Diary}

theorem narrated_founded {timeout : Nat} {service : Service}
    (founded : Service.Founded size timeout service) : Narrated size { service } where
  orderly := founded.orderly
  begun := fun _ among => by cases among
  tales := by
    obtain ⟨_, _, _, _, rfl⟩ := founded.eq_stocked
    intro number data known
    cases known

/-- Nothing is told of a call that has not begun. -/
theorem Narrated.untold (narrated : Narrated size diary)
    (ahead : diary.service.requests.length ≤ number) : diary.own number = [] :=
  about_eq_nil fun deed among same => Nat.not_lt_of_le ahead (same ▸ narrated.begun deed among)

/-- What an event adds to the diary concerns the call that has its turn. -/
theorem caller_of_adds {service : Service} {event : Event} {deed : Deed}
    (among : deed ∈ service.adds event) : service.caller? event = some deed.number := by
  rcases List.mem_append.mp among with heard | told
  · split at heard
    · cases event with
      | answer | abandon =>
          obtain rfl := List.mem_singleton.mp heard
          rfl
      | request | turn | pass => cases heard
    · cases heard
  · exact Service.caller_of_told told

theorem own_step (diary : Diary) (event : Event) (number : Nat) :
    (diary.step event).own number =
      diary.own number ++
        if diary.service.caller? event = some number then diary.service.adds event else [] := by
  rw [own, step, about_append, own]
  congr 1
  split
  next caller =>
    exact about_eq_self fun deed among =>
      Option.some.inj ((caller_of_adds among).symm.trans caller)
  next other =>
    exact about_eq_nil fun deed among same =>
      other ((caller_of_adds among).trans (congrArg some same))

theorem length_requests_le (service : Service) (event : Event) :
    service.requests.length ≤ (service.step event).requests.length := by
  cases event with
  | request request =>
      show _ ≤ (service.requests ++ [request]).length
      simp
  | turn | answer | abandon | pass => exact Nat.le_refl _

/-- A call that an event knows had begun before, or begins with it. -/
theorem known_step {service : Service} {event : Event} {request : Request}
    (known : (service.step event).requests[number]? = some request) :
    service.requests[number]? = some request ∨
      service.requests.length = number ∧ event = .request request := by
  cases event with
  | request made =>
      have grown : (service.requests ++ [made])[number]? = some request := known
      rcases Nat.lt_trichotomy number service.requests.length with earlier | latest | later
      · rw [List.getElem?_append_left earlier] at grown
        exact .inl grown
      · subst latest
        rw [List.getElem?_concat_length] at grown
        exact .inr ⟨rfl, congrArg _ (Option.some.inj grown)⟩
      · rw [List.getElem?_eq_none (by rw [List.length_append]; exact later)] at grown
        cases grown
  | turn | answer | abandon | pass => exact .inl known

theorem begun_of_found {service : Service} (orderly : Service.Orderly size service {})
    {stage : Stage} (found : service.pool.calls.lookup number = some stage) :
    number < service.requests.length := by
  obtain ⟨request, known, _⟩ := orderly.known found
  exact (List.getElem?_eq_some_iff.mp known).1

/-- The diary tells of calls that have begun. -/
theorem begun_of_adds {service : Service} (orderly : Service.Orderly size service {})
    {event : Event} {deed : Deed} (among : deed ∈ service.adds event) :
    deed.number < (service.step event).requests.length := by
  have caller := caller_of_adds among
  have reached : service.reaches event = true := by
    by_contra missed
    rw [Service.adds_of_missed orderly (Bool.eq_false_iff.mpr missed)] at among
    cases among
  cases event with
  | request request =>
      have new : service.requests.length = deed.number := Option.some.inj caller
      show _ < (service.requests ++ [request]).length
      simp [new]
  | turn | answer | abandon =>
      obtain rfl := Option.some.inj caller
      cases found : service.pool.calls.lookup deed.number with
      | none => simp [Service.reaches, found] at reached
      | some stage =>
          have begun : deed.number < service.requests.length := begun_of_found orderly found
          exact begun
  | pass => cases caller

theorem Narrated.step (narrated : Narrated size diary) (event : Event) :
    Narrated size (diary.step event) := by
  have happens := narrated.orderly.happens event
  refine ⟨narrated.orderly.step happens, ?_, ?_⟩
  · intro deed among
    rcases List.mem_append.mp among with former | added
    · exact Nat.lt_of_lt_of_le (narrated.begun deed former) (length_requests_le _ _)
    · exact begun_of_adds narrated.orderly added
  · intro number data known
    rw [own_step]
    split
    next caller =>
      have tale : Service.Tale number data (diary.service.pool.calls.lookup number)
          (diary.own number) := by
        rcases known_step known with former | ⟨new, _⟩
        · exact narrated.tales number data former
        · cases found : diary.service.pool.calls.lookup number with
          | none =>
              rw [narrated.untold (Nat.le_of_eq new)]
              exact .unlent rfl
          | some stage =>
              exact absurd (begun_of_found narrated.orderly found) (by omega)
      exact (narrated.orderly.acts caller known).tale tale fun ahead => narrated.untold ahead
    next other =>
      rw [List.append_nil]
      show Service.Tale _ _ ((diary.service.step event).pool.calls.lookup number) _
      rw [happens.lookup_of_ne other]
      rcases known_step known with former | ⟨rfl, rfl⟩
      · exact narrated.tales number data former
      · exact absurd rfl other

theorem Narrated.run (narrated : Narrated size diary) (events : List Event) :
    Narrated size (diary.run events) := by
  induction events generalizing diary with
  | nil => exact narrated
  | cons event rest ih => exact ih (narrated.step event)

end Diary

end Pool

end ReliableTransport
