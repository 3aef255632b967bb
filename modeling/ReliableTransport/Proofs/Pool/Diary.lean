import ReliableTransport.Proofs.Log
import ReliableTransport.Proofs.Pool.Runs
/-!
This module keeps a diary of the calls on a pool: what each of them asks of the senders and hears
from them, and how it ends. An event adds to the diary of one call only. For a send, it says what
that is, where the send is after it, and which senders are free then.
-/

namespace ReliableTransport

namespace Pool

open BoundedQueue (Look Waiter)

/-- What happens with a call. -/
inductive Deed where
  /-- The call asks something of a sender. -/
  | asks (number : Nat) (order : Order)
  | hears (number : Nat) (answer : Answer)
  | ends (number : Nat) (result : Result)
  /-- The call is given up. -/
  | drops (number : Nat)

namespace Deed

def number : Deed → Nat
  | asks number _ | hears number _ | ends number _ | drops number => number

/-- What an effect says of a call. -/
def told? : Effect Nat Order Result → Option Deed
  | .order number order => some (asks number order)
  | .done number result => some (ends number result)
  | .ready _ | .aside _ | .alarm _ _ => none

end Deed

namespace Service

/-- What a call gets to know from an event. -/
def Event.heard : Event → List Deed
  | .answer number reply => [.hears number reply]
  | .abandon number => [.drops number]
  | .request _ | .turn _ | .pass _ => []

/-- What an event adds to the diary. -/
def adds (service : Service) (event : Event) : List Deed :=
  (if service.reaches event then event.heard else []) ++
    (service.turn event).2.filterMap Deed.told?

/-- The call that an event gives a turn to. -/
def caller? (service : Service) : Event → Option Nat
  | .request _ => some service.requests.length
  | .turn number | .answer number _ | .abandon number => some number
  | .pass _ => none

end Service

/-- Effects that say something of one call only. -/
def Concerns (number : Nat) (effects : List (Effect Nat Order Result)) : Prop :=
  ∀ deed ∈ effects.filterMap Deed.told?, deed.number = number

section Concerns

variable {number : Nat} {pool : Pool Nat}

theorem concerns_nil (number : Nat) : Concerns number [] := by
  simp [Concerns]

theorem Concerns.append {first second : List (Effect Nat Order Result)}
    (mine : Concerns number first) (also : Concerns number second) :
    Concerns number (first ++ second) := by
  intro deed among
  rw [List.filterMap_append] at among
  exact (List.mem_append.mp among).elim (mine deed) (also deed)

theorem concerns_ready (number : Nat) (woken : List Nat) :
    Concerns number (woken.map .ready) := by
  simp [Concerns, Deed.told?, List.filterMap_map, Function.comp_def]

theorem concerns_order (number : Nat) (order : Order) :
    Concerns number [.order number order] := by
  simp [Concerns, Deed.told?, Deed.number]

theorem concerns_finish (pool : Pool Nat) (number : Nat) (result : Result) :
    Concerns number (pool.finish number result).2 := by
  simp [Concerns, finish, Deed.told?, Deed.number]

theorem Concerns.after {turn : PoolTurn Nat} (concerns : Concerns number turn.2)
    (woken : List Nat) : Concerns number (Pool.after turn (woken.map .ready)).2 :=
  (concerns_ready number woken).append concerns

theorem concerns_afterLook (look : Look Nat Nat) (waiting : Stage) {late : Failure → Result}
    {given : Nat → Pool Nat → PoolTurn Nat}
    (gets : ∀ sender pool, Concerns number (given sender pool).2) :
    Concerns number (pool.afterLook number waiting given late look).2 := by
  rw [afterLook]
  refine Concerns.after ?_ look.woken
  split
  · exact gets _ _
  · exact concerns_finish _ _ _
  · simp only [Concerns]
    cases look.queue.waiter? number <;> simp [Deed.told?]

theorem concerns_sendAfter (data : Bytes) (look : Look Nat Nat) (pool : Pool Nat) :
    Concerns number (pool.sendAfter number data look).2 :=
  concerns_afterLook look _ fun _ _ => concerns_order _ _

theorem concerns_closeAfter (look : Look Nat Nat) (pool : Pool Nat) :
    Concerns number (pool.closeAfter number look).2 :=
  concerns_afterLook look _ fun _ _ => concerns_order _ _

theorem concerns_drain (now : Nat) (number : Nat) (pool : Pool Nat) :
    Concerns number (pool.drain now number).2 := by
  rw [drain]
  split
  · exact concerns_finish _ _ _
  · exact concerns_closeAfter _ _

theorem concerns_giveBack (number : Nat) (pool : Pool Nat) (sender : Nat) :
    Concerns number (pool.giveBack sender).2 := by
  rw [giveBack]
  split
  · exact concerns_ready _ _
  · exact concerns_nil _

theorem concerns_finishSend (pool : Pool Nat) (number sender : Nat)
    (result : Except Failure Nat) : Concerns number (pool.finishSend number sender result).2 :=
  (concerns_giveBack number pool sender).append (concerns_finish _ _ _)

theorem concerns_fillNext (pool : Pool Nat) (number : Nat) :
    Concerns number (pool.fillNext number).2 := by
  rw [fillNext]
  split
  · exact concerns_order _ _
  · exact concerns_finish _ _ _

theorem concerns_takeIn (pool : Pool Nat) (number sender : Nat) :
    Concerns number (pool.takeIn number sender).2 := by
  rw [takeIn]
  split
  · exact (concerns_fillNext _ _).after _
  · exact concerns_finish _ _ _

theorem concerns_answered (now number : Nat) (answer : Answer) (pool : Pool Nat) :
    Concerns number (pool.answered now number answer).2 := by
  unfold answered
  split
  · exact concerns_order _ _
  · exact concerns_finish _ _ _
  · exact concerns_takeIn _ _ _
  · exact concerns_finish _ _ _
  · split
    · exact concerns_order _ _
    · exact concerns_finishSend _ _ _ _
  · exact concerns_finishSend _ _ _ _
  · exact concerns_finishSend _ _ _ _
  · exact concerns_drain _ _ _
  · exact concerns_nil _

theorem concerns_abandon (number : Nat) (pool : Pool Nat) :
    Concerns number (pool.abandon number).2 := by
  rw [abandon]
  split
  · exact concerns_ready _ _
  · exact concerns_ready _ _
  · exact concerns_giveBack _ _ _
  · exact concerns_giveBack _ _ _
  · exact concerns_nil _

theorem concerns_begin (now : Nat) (number : Nat) (call : Call) (pool : Pool Nat) :
    Concerns number (pool.begin now number call).2 := by
  unfold begin
  split
  · exact concerns_fillNext _ _
  · split
    · exact concerns_finish _ _ _
    · exact concerns_sendAfter _ _ _
  · exact concerns_drain _ _ _

theorem concerns_resume (now number : Nat) (pool : Pool Nat) :
    Concerns number (pool.resume now number).2 := by
  rw [resume]
  split
  · exact concerns_sendAfter _ _ _
  · exact concerns_closeAfter _ _
  · exact concerns_nil _

end Concerns

/-- What a turn says that ends no call. -/
theorem told_orders {number : Nat} {effects : List (Effect Nat Order Result)}
    (concerns : Concerns number effects) (goesOn : Effect.results effects = []) :
    effects.filterMap Deed.told? = (Effect.orders effects).map (.asks number) := by
  induction effects with
  | nil => rfl
  | cons effect rest ih =>
      cases effect with
      | order task order =>
          obtain rfl : task = number := concerns (.asks task order) List.mem_cons_self
          have further := ih (fun deed among => concerns deed (List.mem_cons_of_mem _ among)) goesOn
          exact congrArg (List.cons _) further
      | done => cases goesOn
      | ready | aside | alarm => exact ih concerns goesOn

/-- What a turn says that asks for nothing. -/
theorem told_results {effects : List (Effect Nat Order Result)}
    (asksNothing : Effect.orders effects = []) :
    effects.filterMap Deed.told? =
      (Effect.results effects).map fun result => .ends result.1 result.2 := by
  induction effects with
  | nil => rfl
  | cons effect rest ih =>
      cases effect with
      | order => cases asksNothing
      | done => exact congrArg (List.cons _) (ih asksNothing)
      | ready | aside | alarm => exact ih asksNothing

namespace Service

variable {size number sender : Nat} {service after : Service} {event : Event} {stage : Stage}
  {data : Bytes}

/-- What an event gives to do concerns the call that has its turn. -/
theorem caller_of_told {deed : Deed}
    (among : deed ∈ (service.turn event).2.filterMap Deed.told?) :
    service.caller? event = some deed.number := by
  cases event with
  | request request => exact congrArg some (concerns_begin _ _ _ _ deed among).symm
  | turn number => exact congrArg some (concerns_resume _ _ _ deed among).symm
  | answer number answer => exact congrArg some (concerns_answered _ _ _ _ deed among).symm
  | abandon number => exact congrArg some (concerns_abandon _ _ deed among).symm
  | pass => cases among

theorem step_orders (service : Service) (event : Event) :
    (service.step event).orders = service.orders ++ Effect.orders (service.turn event).2 := by
  cases event <;> rfl

theorem step_endings (service : Service) (event : Event) :
    (service.step event).endings = service.endings ++
      (Effect.results (service.turn event).2).map fun result =>
        { number := result.1, instant := service.now, result := result.2 } := by
  cases event <;> rfl

/-- An event that ends no call adds what the call asks. -/
theorem adds_of_asks (caller : service.caller? event = some number)
    (same : service.step event = after) {orders : List Order}
    (asked : after.orders = service.orders ++ orders) (goesOn : after.endings = service.endings) :
    (service.turn event).2.filterMap Deed.told? = orders.map (.asks number) := by
  have concerns : Concerns number (service.turn event).2 := fun deed among =>
    (Option.some.inj (caller.symm.trans (caller_of_told among))).symm
  rw [← same, step_orders] at asked
  rw [← same, step_endings] at goesOn
  obtain rfl := List.append_cancel_left asked
  exact told_orders concerns (List.map_eq_nil_iff.mp (List.append_right_eq_self.mp goesOn))

/-- An event that asks for nothing adds how the call ends. -/
theorem adds_of_ends (same : service.step event = after) {ending : Ending}
    (asksNothing : after.orders = service.orders)
    (ended : after.endings = service.endings ++ [ending]) :
    (service.turn event).2.filterMap Deed.told? = [.ends ending.number ending.result] := by
  rw [← same, step_orders] at asksNothing
  rw [← same, step_endings] at ended
  rw [told_results (List.append_right_eq_self.mp asksNothing)]
  obtain ⟨one, only, rfl⟩ := List.map_eq_singleton_iff.mp (List.append_cancel_left ended)
  rw [only]
  rfl

/-- A send looks for a sender: it begins, or it has waited. -/
inductive Seeks (service : Service) (number : Nat) (data : Bytes) : Event → Prop where
  | begins (new : service.requests.length = number) :
      Seeks service number data (.request (.send data))
  | resumes (found : service.pool.calls.lookup number = some (.waiting data)) :
      Seeks service number data (.turn number)

/-- A new send is out of luck only if no sender is free. -/
def Event.Unlucky (free : List Nat) : Event → Prop
  | .request _ => free = []
  | _ => True

/-- What an event is to the send that has its turn: what it adds to the diary, where the calls are
after it, and which senders are free. -/
inductive Acts (service : Service) (number : Nat) (data : Bytes) :
    Event → List Deed → List (Nat × Stage) → List Nat → Prop where
  | refuses (new : service.requests.length = number) (shut : service.pool.closed = true) :
      Acts service number data (.request (.send data))
        [.ends number (.sent (.error (.invalidOperation .poolClosed)))]
        (service.pool.remove number).calls service.pool.queue.items
  | gets {event : Event} {sender : Nat} {rest : List Nat}
      (seeks : Seeks service number data event)
      (first : service.pool.queue.items = sender :: rest) :
      Acts service number data event [.asks number (.send sender data)]
        (service.pool.park number (.sending sender)).calls rest
  | waits {event : Event} (seeks : Seeks service number data event)
      (unlucky : event.Unlucky service.pool.queue.items) :
      Acts service number data event [] (service.pool.park number (.waiting data)).calls
        service.pool.queue.items
  | late {event : Event} (seeks : Seeks service number data event)
      (unlucky : event.Unlucky service.pool.queue.items) :
      Acts service number data event
        [.ends number (.sent (.error (lateFailure service.pool.timeout)))]
        (service.pool.remove number).calls service.pool.queue.items
  | breaks {sender : Nat} {failure : Failure}
      (found : service.pool.calls.lookup number = some (.sending sender))
      (broken : failure.isTransient = true) :
      Acts service number data (.answer number (.sent (.error failure)))
        [.hears number (.sent (.error failure)), .asks number (.connect sender)]
        (service.pool.park number (.reconnecting sender failure)).calls service.pool.queue.items
  | returns {stage : Stage} {answer : Answer} {sender : Nat} {result : Except Failure Nat}
      (found : service.pool.calls.lookup number = some stage)
      (concludes : stage.Concludes answer sender result) :
      Acts service number data (.answer number answer)
        [.hears number answer, .ends number (.sent result)]
        (service.pool.remove number).calls (service.pool.queue.items ++ [sender])
  | leaves (found : service.pool.calls.lookup number = some (.waiting data)) :
      Acts service number data (.abandon number) [.drops number]
        (service.pool.remove number).calls service.pool.queue.items
  | yields {stage : Stage} {sender : Nat}
      (found : service.pool.calls.lookup number = some stage)
      (leased : stage.leased? = some sender) :
      Acts service number data (.abandon number) [.drops number]
        (service.pool.remove number).calls (service.pool.queue.items ++ [sender])
  | stays {event : Event} (missed : service.reaches event = false) :
      Acts service number data event [] service.pool.calls service.pool.queue.items

theorem items_push {queue next : BoundedQueue Nat Nat} {woken : List Nat}
    (pushed : queue.push? sender = some (next, woken)) : next.items = queue.items ++ [sender] := by
  rcases queue.push?_cases sender with ⟨refused, _⟩ | ⟨_, _, found, met⟩
  · cases pushed.symm.trans refused
  · cases pushed.symm.trans found
    cases met with
    | adds _ => rfl

theorem adds_of_missed (orderly : Orderly size service {})
    (missed : service.reaches event = false) : service.adds event = [] := by
  rw [adds, missed, orderly.turn_of_missed missed]
  rfl

theorem Seeks.caller (seeks : Seeks service number data event) :
    service.caller? event = some number := by
  cases seeks with
  | begins new => exact congrArg some new
  | resumes => rfl

theorem Seeks.adds (seeks : Seeks service number data event) :
    service.adds event = (service.turn event).2.filterMap Deed.told? := by
  cases seeks <;> simp [Service.adds, Event.heard]

/-- A send that has looked for a sender. The call has left its place. -/
theorem Seeks.acts {left : Service} {look : Look Nat Nat} {waited : List Nat}
    (seeks : Seeks service number data event)
    (same : service.step event = left.seek number (.send data) look)
    (search : Search service.now service.pool.timeout number waited service.pool.queue look)
    (fresh : ∀ request, event = .request request → waited = [])
    (pool : left.pool = service.pool.remove number) (orders : left.orders = service.orders)
    (endings : left.endings = service.endings) :
    Acts service number data event (service.adds event) (service.step event).pool.calls
      (service.step event).pool.queue.items := by
  have unlucky (none : ∀ sender, look.outcome ≠ some (.popped sender)) :
      event.Unlucky service.pool.queue.items := by
    cases event with
    | request request => exact search.eager (fresh request rfl) none
    | turn | answer | abandon | pass => trivial
  have finds := search.finds
  obtain ⟨_, now, requests, _, _, closed, dropped⟩ := left
  obtain rfl := pool
  obtain rfl := orders
  obtain rfl := endings
  rw [seeks.adds]
  obtain ⟨queue, woken, outcome⟩ := look
  simp only at finds unlucky
  generalize free : service.pool.queue.items = items at finds
  generalize remain : queue.items = rest at finds
  cases finds with
  | sender first =>
      rw [adds_of_asks seeks.caller same rfl rfl, same]
      subst remain
      exact .gets seeks (free.trans first)
  | nothing =>
      rw [adds_of_asks seeks.caller same (List.append_nil _).symm rfl, same]
      subst free
      have waits := Acts.waits seeks (unlucky fun _ impossible => by cases impossible)
      rw [← remain] at waits
      exact waits
  | late =>
      rw [adds_of_ends same rfl rfl, same]
      subst free
      have late := Acts.late seeks (unlucky fun _ impossible => by cases impossible)
      rw [← remain] at late
      exact late

section Others

variable {other : Nat} (different : other ≠ number)

include different

theorem lookup_lift_of_ne (service : Service) :
    (service.lift number).pool.calls.lookup other = service.pool.calls.lookup other := by
  rw [lift, remove, lookup_struck, if_neg different]

theorem lookup_wait_of_ne (service : Service) (stage : Stage) :
    (service.wait number stage).pool.calls.lookup other = service.pool.calls.lookup other := by
  rw [wait, List.lookup_append, List.lookup_cons, beq_eq_false_iff_ne.mpr different]
  exact Option.or_none

theorem lookup_seek_of_ne (service : Service) (request : Request) (look : Look Nat Nat) :
    (service.seek number request look).pool.calls.lookup other =
      service.pool.calls.lookup other := by
  rw [seek]
  split
  · exact lookup_wait_of_ne different _ _
  · rfl
  · exact lookup_wait_of_ne different _ _

end Others

theorem calls_accept (service : Service) (request : Request) :
    (service.accept request).pool.calls = service.pool.calls := by
  cases request <;> rfl

/-- A call that does not have its turn stays where it is. -/
theorem Happens.lookup_of_ne (happens : service.Happens event after) {other : Nat}
    (different : service.caller? event ≠ some other) :
    after.pool.calls.lookup other = service.pool.calls.lookup other := by
  have apart {number : Nat} (caller : service.caller? event = some number) : other ≠ number :=
    fun same => different (same ▸ caller)
  cases happens with
  | refuses | succeeds =>
      exact (lookup_lift_of_ne (apart rfl) _).trans (by rw [calls_accept])
  | sends | closes =>
      rw [lookup_seek_of_ne (apart rfl), lookup_lift_of_ne (apart rfl), calls_accept]
  | resumes =>
      rw [lookup_seek_of_ne (apart rfl), lookup_lift_of_ne (apart rfl)]
  | retires =>
      rw [lookup_seek_of_ne (apart rfl)]
      exact lookup_lift_of_ne (apart rfl) service
  | reconnects =>
      rw [lookup_wait_of_ne (apart rfl)]
      exact lookup_lift_of_ne (apart rfl) service
  | returns | finishes | leaves | yields | loses => exact lookup_lift_of_ne (apart rfl) service
  | stays | passes => rfl

/-- What an event does to the send that has its turn. -/
theorem Orderly.acts (orderly : Orderly size service {})
    (caller : service.caller? event = some number)
    (known : (service.step event).requests[number]? = some (.send data)) :
    Acts service number data event (service.adds event) (service.step event).pool.calls
      (service.step event).pool.queue.items := by
  have happens := orderly.happens event
  -- A call that has its turn at some point is a send, so the points are those of a send.
  have ofSend {stage : Stage} (found : service.pool.calls.lookup number = some stage)
      (kept : (service.step event).requests = service.requests) :
      (Request.send data).Fits stage := by
    obtain ⟨request, made, fits⟩ := orderly.known found
    rw [kept, made] at known
    exact Option.some.inj known ▸ fits
  have ofNew {request : Request} (new : service.requests.length = number)
      (kept : (service.step event).requests = service.requests ++ [request]) :
      request = .send data := by
    rw [kept, ← new, List.getElem?_concat_length] at known
    exact Option.some.inj known
  generalize same : service.step event = after at happens ⊢
  cases happens with
  | refuses shut =>
      have new := Option.some.inj caller
      obtain rfl := Request.send.inj (ofNew new rfl)
      obtain rfl := new
      rw [Seeks.adds (.begins rfl), adds_of_ends same rfl rfl]
      exact .refuses rfl shut
  | sends unshut search =>
      have new := Option.some.inj caller
      obtain rfl := Request.send.inj (ofNew new rfl)
      obtain rfl := new
      rw [← same]
      exact Seeks.acts (.begins rfl) same search (fun _ _ => rfl) rfl rfl rfl
  | succeeds | closes => cases ofNew (Option.some.inj caller) rfl
  | @resumes other request look found search =>
      obtain rfl := (Option.some.inj caller).symm
      have fits := ofSend found rfl
      obtain rfl : request = .send data := by
        cases request with
        | send => cases fits; rfl
        | close => cases fits
      rw [← same]
      exact Seeks.acts (.resumes found) same search (fun _ impossible => by cases impossible) rfl
        rfl rfl
  | @returns _ sender stage answer result queue woken found concludes pushed =>
      obtain rfl := (Option.some.inj caller).symm
      have heard : service.reaches (.answer number answer) = true := by
        simp only [reaches, found]
        cases concludes <;> rfl
      rw [adds, heard, adds_of_ends same rfl rfl]
      have returns : Acts service number data _ _ _ _ := .returns found concludes
      rw [← items_push pushed] at returns
      exact returns
  | @reconnects _ sender failure found broken =>
      obtain rfl := (Option.some.inj caller).symm
      have heard : service.reaches (.answer number (.sent (.error failure))) = true := by
        simp only [reaches, found]
        rfl
      rw [adds, heard, adds_of_asks caller same rfl rfl]
      exact .breaks found broken
  | retires found | finishes found | loses found =>
      obtain rfl := (Option.some.inj caller).symm
      cases ofSend found rfl
  | @leaves _ stage waiter found seeks waits own =>
      obtain rfl := (Option.some.inj caller).symm
      have heard : service.reaches (.abandon number) = true := by simp [reaches, found]
      rw [adds, heard, adds_of_asks caller same (List.append_nil _).symm rfl]
      have fits := ofSend found rfl
      obtain rfl : stage = .waiting data := by
        cases fits with
        | waiting => rfl
        | sending | reconnecting => cases seeks
      have leaves := Acts.leaves found
      rw [← (service.pool.queue.leave_frame waiter).1] at leaves
      exact leaves
  | yields found leased pushed =>
      obtain rfl := (Option.some.inj caller).symm
      have heard : service.reaches (.abandon number) = true := by simp [reaches, found]
      rw [adds, heard, adds_of_asks caller same (List.append_nil _).symm rfl]
      have yields : Acts service number data _ _ _ _ := .yields found leased
      rw [← items_push pushed] at yields
      exact yields
  | stays missed =>
      rw [adds_of_missed orderly missed]
      exact .stays missed
  | passes => cases caller

end Service

end Pool

end ReliableTransport
