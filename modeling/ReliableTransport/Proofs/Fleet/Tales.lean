import ReliableTransport.Proofs.Fleet.Staff
/-!
This module says what becomes of each send on a fleet. A send is lent one sender at most. If the
sender has a socket, the data goes there first. If it has none, the sender asks for a new one, once,
and the send fails for the lost connection when that attempt is over, unless the send is given up.
-/

namespace ReliableTransport

namespace Fleet

open DatagramSender (Answer)

/-- The send that a deed is about. -/
def Deed.number : Deed → Nat
  | .leases number _ _ | .asks number _ | .joins number _ _ | .ends number _
  | .drops number => number

/-- What a log says of one send. -/
def own (deeds : List Deed) (number : Nat) : List Deed :=
  deeds.filter fun deed => deed.number = number

/-- The sender is lent. -/
def Deed.Lends : Deed → Prop
  | .leases _ _ _ => True
  | _ => False

/-- Why a send fails whose sender has lost its socket. -/
def lostFailure (address : Address) : Failure :=
  .ioText .notConnected ("connection to " ++ address.text ++ " was lost")

/-- A send was lent a sender with a socket, and its data went there first. -/
def Direct (sends : List Bytes) (number : Nat) (told : List Deed) : Prop :=
  ∃ sender socket data rest, sends[number]? = some data ∧
    told = .leases number sender (some socket) ::
      .asks number { sender, order := .send socket (.whole data) } :: rest ∧
    ∀ deed ∈ rest, ¬deed.Lends

/-- What a send is told first that was lent a sender without a socket. -/
def attempt (number sender socket : Nat) : List Deed :=
  [.leases number sender none, .asks number { sender, order := .openSocket socket }]

/-- A send that was lent a sender without a socket is over. It has failed for the lost connection
after one attempt to get a socket, or it was given up during the attempt. -/
inductive Retried (address : Address) (number sender : Nat) : List Deed → Prop where
  | failed (socket : Nat) (result : Except Failure Unit) :
      Retried address number sender
        (attempt number sender socket ++ opened number sender socket result ++
          [.ends number (.sent (.error (lostFailure address)))])
  | dropped (socket : Nat) :
      Retried address number sender (attempt number sender socket ++ [.drops number])

/-- What the log says of a send, and where the send is. -/
inductive Tale (address : Address) (sends : List Bytes) (fleet : Fleet Nat) (number : Nat) :
    List Deed → Prop where
  /-- The send waits for a sender, or has not begun. -/
  | unlent (unlent : fleet.sender? number = none) : Tale address sends fleet number []
  | serves {stage : Pool.Stage} {sender : Nat} {told : List Deed}
      (found : fleet.pool.calls.lookup number = some stage)
      (leased : stage.leased? = some sender) (direct : Direct sends number told) :
      Tale address sends fleet number told
  | retries {sender socket : Nat} {state : DatagramSender Nat}
      (found : fleet.pool.calls.lookup number = some (.reconnecting sender (lostFailure address)))
      (known : fleet.senders[sender]? = some state) (used : state.Used number (.opening socket)) :
      Tale address sends fleet number (attempt number sender socket)
  | ended {told : List Deed} (gone : fleet.pool.calls.lookup number = none)
      (settled : (∀ deed ∈ told, ¬deed.Lends) ∨ Direct sends number told ∨
        ∃ sender, Retried address number sender told) :
      Tale address sends fleet number told

/-- The call that an event gives a turn to. -/
def History.caller? (history : History) : Event → Option Nat
  | .send _ => some history.sends.length
  | .turn number | .answer number _ | .abandon number => some number
  | .pass _ => none

variable {size number sender : Nat} {address : Address} {fleet last : Fleet Nat}
  {history : History} {event : Event} {data : Bytes} {heard told : List Deed} {stage : Pool.Stage}

theorem Seeks.caller (seeks : Seeks history event number data) :
    history.caller? event = some number := by
  cases seeks <;> rfl

theorem Seeks.data_known (seeks : Seeks history event number data) :
    (history.step event).sends[number]? = some data := by
  cases seeks with
  | begins => exact List.getElem?_concat_length
  | resumes _ known => exact known

theorem number_opened {socket : Nat} (result : Except Failure Unit) :
    ∀ deed ∈ opened number sender socket result, deed.number = number := by
  cases result <;> simp [opened, Deed.number]

/-- What an event adds to the log is about the call that has its turn. -/
theorem Acts.concerns (acts : Acts history event last heard) :
    ∀ deed ∈ heard, history.caller? event = some deed.number := by
  intro deed among
  cases acts with
  | waits | stays => cases among
  | late seeks =>
      obtain rfl := List.mem_singleton.mp among
      exact seeks.caller
  | sends seeks | retries seeks =>
      rw [seeks.caller]
      rcases List.mem_cons.mp among with rfl | later
      · rfl
      · obtain rfl := List.mem_singleton.mp later
        rfl
  | breaks | reopens | returns | leaves | yields =>
      obtain rfl := List.mem_singleton.mp among
      rfl
  | connects =>
      rcases List.mem_append.mp among with joins | ends
      · rw [number_opened _ deed joins]
        rfl
      · obtain rfl := List.mem_singleton.mp ends
        rfl

/-- A call that does not have its turn stays where it is, and so does its sender. -/
structure Beside (fleet last : Fleet Nat) (number : Nat) : Prop where
  calls : last.pool.calls.lookup number = fleet.pool.calls.lookup number
  senders : ∀ stage sender, fleet.pool.calls.lookup number = some stage →
    stage.leased? = some sender → last.senders[sender]? = fleet.senders[sender]?

theorem Acts.beside (lending : Pool.Lending size history.now history.sends history.fleet.pool)
    (acts : Acts history event last heard) {other : Nat}
    (different : history.caller? event ≠ some other) : Beside history.fleet last other := by
  have apart {number : Nat} (caller : history.caller? event = some number) : other ≠ number :=
    fun same => different (same ▸ caller)
  cases acts with
  | waits seeks =>
      exact ⟨by rw [pooled, Pool.lookup_park, if_neg (apart seeks.caller)], fun _ _ _ _ => rfl⟩
  | late seeks =>
      exact ⟨by rw [pooled, Pool.lookup_remove, if_neg (apart seeks.caller)], fun _ _ _ _ => rfl⟩
  | sends seeks first =>
      refine ⟨?_, fun stage sender found leased => getElem?_posted_of_ne ?_ _⟩
      · rw [posted, pooled, Pool.lookup_park, if_neg (apart seeks.caller)]
      · exact lending.free_apart (first ▸ List.mem_cons_self) found leased
  | retries seeks first =>
      refine ⟨?_, fun stage sender found leased => getElem?_posted_of_ne ?_ _⟩
      · rw [posted, pooled, Pool.lookup_park, if_neg (apart seeks.caller), Pool.lookup_park,
          if_neg (apart seeks.caller)]
      · exact lending.free_apart (first ▸ List.mem_cons_self) found leased
  | breaks had =>
      refine ⟨?_, fun stage sender found leased => getElem?_posted_of_ne ?_ _⟩
      · rw [posted, pooled, Pool.lookup_park, if_neg (apart rfl)]
      · exact lending.leased_apart (apart rfl) had rfl found leased
  | reopens had =>
      exact ⟨rfl, fun stage sender found leased => getElem?_posted_of_ne
        (lending.leased_apart (apart rfl) had rfl found leased) _⟩
  | connects had | returns had =>
      refine ⟨?_, fun stage sender found leased => getElem?_posted_of_ne ?_ _⟩
      · rw [posted, pooled, Pool.lookup_remove, if_neg (apart rfl)]
      · exact lending.leased_apart (apart rfl) had rfl found leased
  | leaves =>
      exact ⟨by rw [pooled, Pool.lookup_remove, if_neg (apart rfl)], fun _ _ _ _ => rfl⟩
  | yields had lent =>
      refine ⟨?_, fun stage sender found leased => getElem?_posted_of_ne ?_ _⟩
      · rw [posted, pooled, Pool.lookup_remove, if_neg (apart rfl)]
      · exact lending.leased_apart (apart rfl) had lent found leased
  | stays => exact ⟨rfl, fun _ _ _ _ => rfl⟩

theorem own_append (deeds more : List Deed) (number : Nat) :
    own (deeds ++ more) number = own deeds number ++ own more number := List.filter_append ..

theorem own_eq_self (all : ∀ deed ∈ told, deed.number = number) : own told number = told :=
  List.filter_eq_self.mpr fun deed among => decide_eq_true (all deed among)

theorem own_eq_nil (none : ∀ deed ∈ told, deed.number ≠ number) : own told number = [] :=
  List.filter_eq_nil_iff.mpr fun deed among => by simpa using none deed among

section Growth

variable {sends later : List Bytes}

theorem Direct.append (direct : Direct sends number told) {more : List Deed}
    (quiet : ∀ deed ∈ more, ¬deed.Lends) : Direct sends number (told ++ more) := by
  obtain ⟨sender, socket, data, rest, known, rfl, once⟩ := direct
  refine ⟨sender, socket, data, rest ++ more, known, rfl, fun deed among => ?_⟩
  exact (List.mem_append.mp among).elim (once deed) (quiet deed)

theorem Direct.mono (direct : Direct sends number told)
    (grows : ∀ data, sends[number]? = some data → later[number]? = some data) :
    Direct later number told := by
  obtain ⟨sender, socket, data, rest, known, same, once⟩ := direct
  exact ⟨sender, socket, data, rest, grows data known, same, once⟩

/-- The tale of a call stays the same while others have their turns. -/
theorem Tale.beside (tale : Tale address sends fleet number told)
    (beside : Beside fleet last number)
    (grows : ∀ data, sends[number]? = some data → later[number]? = some data) :
    Tale address later last number told := by
  cases tale with
  | unlent unlent =>
      refine .unlent ?_
      rw [sender?, beside.calls]
      exact unlent
  | serves found leased direct =>
      exact .serves (beside.calls.trans found) leased (direct.mono grows)
  | retries found known used =>
      exact .retries (beside.calls.trans found) ((beside.senders _ _ found rfl).trans known) used
  | ended gone settled =>
      refine .ended (beside.calls.trans gone) ?_
      exact settled.imp_right (Or.imp_left fun direct => direct.mono grows)

end Growth

/-- A send that waits for a sender was not lent one yet. -/
theorem Tale.untold {sends : List Bytes} (tale : Tale address sends fleet number told)
    (waits : fleet.pool.calls.lookup number = some (.waiting data)) : told = [] := by
  cases tale with
  | unlent => rfl
  | serves found leased =>
      obtain rfl := Option.some.inj (waits.symm.trans found)
      cases leased
  | retries found => cases waits.symm.trans found
  | ended gone => cases waits.symm.trans gone

/-- A send that looks for a sender was not lent one yet. -/
theorem Seeks.untold (seeks : Seeks history event number data)
    (tale : Tale address history.sends history.fleet number told)
    (begun : history.sends.length ≤ number → told = []) : told = [] := by
  cases seeks with
  | begins => exact begun (Nat.le_refl _)
  | resumes waits => exact tale.untold waits

/-- The tale of a send that has a sender: its data went to a socket first, or its sender asks for a
socket. -/
theorem Tale.of_leased {sends : List Bytes} (tale : Tale address sends fleet number told)
    (found : fleet.pool.calls.lookup number = some stage) (leased : stage.leased? = some sender) :
    Direct sends number told ∨ ∃ socket state, told = attempt number sender socket ∧
      stage = .reconnecting sender (lostFailure address) ∧
      fleet.senders[sender]? = some state ∧ state.Used number (.opening socket) := by
  cases tale with
  | unlent unlent =>
      rw [sender?_of_found found] at unlent
      cases stage <;> cases leased <;> cases unlent
  | serves _ _ direct => exact .inl direct
  | @retries holder socket state other known used =>
      obtain rfl := Option.some.inj (found.symm.trans other)
      obtain rfl := Option.some.inj leased
      exact .inr ⟨socket, state, rfl, rfl, known, used⟩
  | ended gone => cases found.symm.trans gone

/-- The tale of a send that has a sender with a socket. -/
theorem Tale.direct {sends : List Bytes} (tale : Tale address sends fleet number told)
    (found : fleet.pool.calls.lookup number = some (.sending sender)) :
    Direct sends number told := by
  rcases tale.of_leased found rfl with direct | ⟨_, _, _, impossible, _⟩
  · exact direct
  · cases impossible

theorem step_sends_mono (history : History) (event : Event) {number : Nat} {data : Bytes}
    (known : history.sends[number]? = some data) :
    (history.step event).sends[number]? = some data := by
  cases event with
  | send _ =>
      exact (List.getElem?_append_left (List.getElem?_eq_some_iff.mp known).1).trans known
  | turn | answer | abandon | pass => exact known

/-- A send that has its turn adds to its tale. -/
theorem Acts.tale (staffed : Staffed address history.fleet)
    (acts : Acts history event last heard) (caller : history.caller? event = some number)
    (tale : Tale address history.sends history.fleet number told)
    (begun : history.sends.length ≤ number → told = []) :
    Tale address (history.step event).sends last number (told ++ heard) := by
  have grows (data : Bytes) (known : history.sends[number]? = some data) :=
    step_sends_mono history event known
  cases acts with
  | waits seeks =>
      obtain rfl := Option.some.inj (caller.symm.trans seeks.caller)
      obtain rfl := seeks.untold tale begun
      exact .unlent (sender?_parked _ _ _ _)
  | late seeks =>
      obtain rfl := Option.some.inj (caller.symm.trans seeks.caller)
      obtain rfl := seeks.untold tale begun
      refine .ended ?_ (.inl fun deed among => ?_)
      · rw [pooled, Pool.lookup_remove, if_pos rfl]
      · obtain rfl := List.mem_singleton.mp among
        exact not_false
  | @sends _ _ lent socket data _ _ seeks =>
      obtain rfl := Option.some.inj (caller.symm.trans seeks.caller)
      obtain rfl := seeks.untold tale begun
      have direct : Direct (history.step event).sends number
          [.leases number lent (some socket),
            .asks number { sender := lent, order := .send socket (.whole data) }] :=
        ⟨lent, socket, data, [], seeks.data_known, rfl, fun _ among => by cases among⟩
      refine @Tale.serves _ _ _ _ (.sending lent) lent _ ?_ rfl direct
      rw [posted, pooled, Pool.lookup_park, if_pos rfl]
  | @retries _ _ lent _ _ state seeks _ known =>
      obtain rfl := Option.some.inj (caller.symm.trans seeks.caller)
      obtain rfl := seeks.untold tale begun
      obtain ⟨lasting, towards⟩ := staffed.lasting lent state known
      have lost : state.noSocket = lostFailure address := by
        rw [DatagramSender.noSocket, if_pos lasting, towards]
        rfl
      refine @Tale.retries _ _ _ _ lent state.nextSocket _ ?_
        (getElem?_posted known _) (DatagramSender.used_used _ _ _)
      rw [posted, pooled, Pool.lookup_park, if_pos rfl, lost]
  | @breaks _ lent _ failure _ found =>
      obtain rfl := Option.some.inj caller
      refine @Tale.serves _ _ _ _ (.reconnecting lent failure) lent _ ?_ rfl
        (((tale.direct found).mono grows).append ?_)
      · rw [posted, pooled, Pool.lookup_park, if_pos rfl]
      · simp [Deed.Lends]
  | reopens found known used =>
      obtain rfl := Option.some.inj caller
      rcases tale.of_leased found rfl with direct | ⟨_, _, _, _, stands, opening⟩
      · refine .serves found rfl ((direct.mono grows).append ?_)
        simp [Deed.Lends]
      · obtain rfl := Option.some.inj (known.symm.trans stands)
        cases used.lookup_eq.symm.trans opening.lookup_eq
  | @connects _ lent socket failure result _ _ found known used =>
      obtain rfl := Option.some.inj caller
      refine .ended (by rw [posted, pooled, Pool.lookup_remove, if_pos rfl]) (.inr ?_)
      rcases tale.of_leased found rfl with direct | ⟨asked, _, rfl, retries, stands, opening⟩
      · refine .inl ((direct.mono grows).append ?_)
        cases result <;> simp [opened, Deed.Lends]
      · -- The failure is the one that the send had when its sender began to connect.
        obtain ⟨-, rfl⟩ := Pool.Stage.reconnecting.inj retries
        obtain rfl := Option.some.inj (known.symm.trans stands)
        have same := Option.some.inj (used.lookup_eq.symm.trans opening.lookup_eq)
        obtain rfl := DatagramSender.Stage.opening.inj same
        rw [← List.append_assoc]
        exact .inr ⟨lent, .failed socket result⟩
  | returns found =>
      obtain rfl := Option.some.inj caller
      refine .ended (by rw [posted, pooled, Pool.lookup_remove, if_pos rfl])
        (.inr (.inl (((tale.direct found).mono grows).append ?_)))
      simp [Deed.Lends]
  | leaves found =>
      obtain rfl := Option.some.inj caller
      obtain rfl := tale.untold found
      refine .ended (by rw [pooled, Pool.lookup_remove, if_pos rfl]) (.inl ?_)
      simp [Deed.Lends]
  | @yields _ lent stage _ _ found leased =>
      obtain rfl := Option.some.inj caller
      refine .ended (by rw [posted, pooled, Pool.lookup_remove, if_pos rfl]) (.inr ?_)
      rcases tale.of_leased found leased with direct | ⟨socket, _, rfl, _⟩
      · refine .inl ((direct.mono grows).append ?_)
        simp [Deed.Lends]
      · exact .inr ⟨lent, .dropped socket⟩
  | stays =>
      rw [List.append_nil]
      exact tale.beside ⟨rfl, fun _ _ _ _ => rfl⟩ grows

theorem length_sends_le (history : History) (event : Event) :
    history.sends.length ≤ (history.step event).sends.length := by
  cases event with
  | send _ => simp [History.step]
  | turn | answer | abandon | pass => exact Nat.le_refl _

/-- The log tells of sends that have begun. -/
theorem Acts.begun (lending : Pool.Lending size history.now history.sends history.fleet.pool)
    (acts : Acts history event last heard) :
    ∀ deed ∈ heard, deed.number < (history.step event).sends.length := by
  intro deed among
  have caller := acts.concerns deed among
  have new {data : Bytes} (seeks : Seeks history event deed.number data) :
      deed.number < (history.step event).sends.length :=
    (List.getElem?_eq_some_iff.mp seeks.data_known).1
  have old {stage : Pool.Stage} {number : Nat}
      (found : history.fleet.pool.calls.lookup number = some stage)
      (same : number = deed.number) : deed.number < (history.step event).sends.length :=
    same ▸ Nat.lt_of_lt_of_le (lending.known found) (length_sends_le history event)
  cases acts with
  | waits | stays => cases among
  | late seeks | sends seeks | retries seeks =>
      obtain rfl := Option.some.inj (seeks.caller.symm.trans caller)
      exact new seeks
  | breaks found | reopens found | connects found | returns found | leaves found | yields found =>
      exact old found (Option.some.inj caller)

/-- A log that tells of each send what became of it. -/
structure Narrated (address : Address) (history : History) : Prop where
  begun : ∀ deed ∈ history.deeds, deed.number < history.sends.length
  tales : ∀ number, Tale address history.sends history.fleet number (own history.deeds number)

theorem Narrated.step (narrated : Narrated address history)
    (orderly : Orderly size address history) (event : Event) :
    Narrated address (history.step event) := by
  have acts := orderly.acts event
  have concerns := acts.concerns
  constructor
  · intro deed among
    rcases List.mem_append.mp among with former | added
    · exact Nat.lt_of_lt_of_le (narrated.begun deed former) (length_sends_le history event)
    · exact acts.begun orderly.lending deed added
  · intro number
    have silent (ahead : history.sends.length ≤ number) : own history.deeds number = [] :=
      own_eq_nil fun deed among same =>
        Nat.not_lt_of_le ahead (same ▸ narrated.begun deed among)
    show Tale _ _ _ number (own (history.deeds ++ history.adds event) number)
    rw [own_append]
    by_cases caller : history.caller? event = some number
    · rw [own_eq_self fun deed among =>
        Option.some.inj ((concerns deed among).symm.trans caller)]
      exact acts.tale orderly.staffed caller (narrated.tales number) silent
    · have others : own (history.adds event) number = [] :=
        own_eq_nil fun deed among same => caller ((concerns deed among).trans (by rw [same]))
      rw [others, List.append_nil]
      exact (narrated.tales number).beside (acts.beside orderly.lending caller)
        fun data known => step_sends_mono history event known

end Fleet

end ReliableTransport
