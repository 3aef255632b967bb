import Mathlib.Data.List.Basic
import ReliableTransport.Pool.Fleet
import ReliableTransport.Proofs.Sender.Usage
/-!
This module says what comes of the effects of a turn inside a fleet. The pool asks something of a
sender, the sender begins a call or answers at once, and the pool goes on with the answer. This ends
after a few steps, and what is left is heard outside.
-/

namespace ReliableTransport

namespace DatagramSender

/-- No call uses the sender. -/
structure Idle (sender : DatagramSender Nat) : Prop where
  empty : sender.turnstile = {}
  quiet : sender.calls = []

/-- One call uses the sender, and no other call waits for it. -/
structure Used (sender : DatagramSender Nat) (number : Nat) (stage : Stage) : Prop where
  inside : sender.turnstile = { inside := some number }
  alone : sender.calls = [(number, stage)]

/-- The sender in the hands of one call. -/
def used (sender : DatagramSender Nat) (number : Nat) (stage : Stage) : DatagramSender Nat :=
  { sender with turnstile := { inside := some number }, calls := [(number, stage)] }

/-- The sender in nobody's hands. -/
def freed (sender : DatagramSender Nat) : DatagramSender Nat :=
  { sender with turnstile := {}, calls := [] }

/-- The sender once it has asked for its next socket. -/
def numbered (sender : DatagramSender Nat) : DatagramSender Nat :=
  { sender with nextSocket := sender.nextSocket + 1 }

/-- The sender once it has given its socket up. -/
def stripped (sender : DatagramSender Nat) : DatagramSender Nat :=
  { sender with socket := none, connected := false }

variable {sender : DatagramSender Nat} {number socket : Nat} {stage : Stage}

theorem used_used (sender : DatagramSender Nat) (number : Nat) (stage : Stage) :
    (sender.used number stage).Used number stage := ⟨rfl, rfl⟩

theorem freed_idle (sender : DatagramSender Nat) : sender.freed.Idle := ⟨rfl, rfl⟩

theorem Idle.freed_eq (idle : sender.Idle) : sender.freed = sender := by
  rw [freed, ← idle.empty, ← idle.quiet]

theorem Idle.ask_eq (idle : sender.Idle) (number : Nat) (job : Job) :
    sender.ask number job =
      proceed number job { sender with turnstile := { inside := some number } } := by
  rw [ask, idle.empty]
  rfl

theorem Idle.park_eq (idle : sender.Idle) (number : Nat) (stage : Stage) :
    park { sender with turnstile := { inside := some number } } number stage =
      sender.used number stage := by
  rw [park, idle.quiet]
  rfl

/-- An idle sender with a socket sends. -/
theorem Idle.begin_send (idle : sender.Idle) (owns : sender.socket = some socket) (number : Nat)
    (delivery : Delivery) :
    sender.begin number (.send delivery) =
      (sender.used number (.sending socket), [.order number (.send socket delivery)]) := by
  simp only [begin, idle.ask_eq, proceed, owns]
  rw [← idle.park_eq, owns]

/-- An idle sender without a socket says at once that it has none. -/
theorem Idle.begin_send_bare (idle : sender.Idle) (bare : sender.socket = none) (number : Nat)
    (delivery : Delivery) :
    sender.begin number (.send delivery) =
      (sender, [.done number (.sent (.error sender.noSocket))]) := by
  have alone : finish { sender with turnstile := { inside := some number } } number
      (.sent (.error sender.noSocket)) =
        (sender.freed, [.done number (.sent (.error sender.noSocket))]) := by
    simp [finish, depart, Turnstile.leave, Turnstile.exit, idle.quiet, freed]
  rw [idle.freed_eq] at alone
  simp only [begin, idle.ask_eq, proceed, bare]
  rwa [bare] at alone

/-- An idle sender with a socket closes it before it connects again. -/
theorem Idle.begin_connect (idle : sender.Idle) (owns : sender.socket = some socket)
    (number : Nat) :
    sender.begin number .connect =
      (sender.stripped.used number (.replacing socket), [.order number (.closeSocket socket)]) := by
  simp only [begin, idle.ask_eq, proceed, owns, park, idle.quiet]
  rfl

/-- An idle sender without a socket asks for one when it connects. -/
theorem Idle.begin_connect_bare (idle : sender.Idle) (bare : sender.socket = none)
    (number : Nat) :
    sender.begin number .connect =
      (sender.numbered.used number (.opening sender.nextSocket),
        [.order number (.openSocket sender.nextSocket)]) := by
  simp only [begin, idle.ask_eq, proceed, bare, openNext, park, idle.quiet]
  rw [used, numbered, bare]
  rfl

theorem Used.lookup_eq (used : sender.Used number stage) :
    sender.calls.lookup number = some stage := by
  rw [used.alone]
  simp

/-- The only call on a sender leaves it. -/
theorem Used.depart_eq (used : sender.Used number stage) :
    sender.depart number = (sender.freed, []) := by
  rw [depart, Turnstile.leave, used.inside, used.alone]
  simp [Turnstile.exit, freed]

theorem Used.finish_eq (used : sender.Used number stage) (result : Result) :
    sender.finish number result = (sender.freed, [.done number result]) := by
  rw [finish, used.depart_eq]
  rfl

theorem Used.resume_eq (used : sender.Used number stage) (busy : ∀ job, stage ≠ .queued job) :
    sender.resume number = (sender, []) := by
  rw [resume, used.lookup_eq]
  cases stage with
  | queued job => exact absurd rfl (busy job)
  | replacing | opening | sending | closing => rfl

theorem Used.answered_sent (used : sender.Used number (.sending socket))
    (result : Except Failure Nat) :
    sender.answered number (.sent result) =
      ((sender.countSent result).freed, [.done number (.sent result)]) := by
  have counted : (sender.countSent result).Used number (.sending socket) := by
    obtain ⟨bytesSent, connected, same⟩ := Usage.countSent_eq sender result
    rw [same]
    exact ⟨used.inside, used.alone⟩
  simp only [answered, used.lookup_eq]
  exact counted.finish_eq (.sent result)

/-- The old socket is closed, and the sender asks for a new one. -/
theorem Used.answered_closed (used : sender.Used number (.replacing socket)) :
    sender.answered number .closed =
      (sender.numbered.used number (.opening sender.nextSocket),
        [.order number (.openSocket sender.nextSocket)]) := by
  simp only [answered, openNext, park, used.alone]
  rw [DatagramSender.used, ← used.inside]
  simp [numbered]

theorem Used.answered_opened (used : sender.Used number (.opening socket))
    (result : Except Failure Unit) :
    sender.answered number (.opened result) =
      ((sender.install socket result).freed, [.done number (.connected result)]) := by
  have installed : (sender.install socket result).Used number (.opening socket) := by
    cases result <;> exact ⟨used.inside, used.alone⟩
  simp only [answered, used.lookup_eq]
  exact installed.finish_eq (.connected result)

/-- A sender that was connected takes a missing socket for a lost connection. -/
theorem noSocket_transient (sender : DatagramSender Nat) (lasting : sender.wasConnected = true) :
    sender.noSocket.isTransient = true := by
  rw [noSocket, if_pos lasting]
  rfl

/-- The call waits for such an answer. -/
def Stage.awaits : Stage → Answer → Bool
  | .replacing _, .closed | .closing _, .closed | .opening _, .opened _
  | .sending _, .sent _ => true
  | _, _ => false

/-- An answer that a call does not wait for does not matter to it. -/
theorem Used.answered_other (used : sender.Used number stage) {answer : Answer}
    (other : stage.awaits answer = false) : sender.answered number answer = (sender, []) := by
  simp only [answered, used.lookup_eq]
  cases stage <;> cases answer <;> first | rfl | cases other

end DatagramSender

namespace Fleet

/-- What happens between a fleet and the outside. Each deed is one of a call. -/
inductive Deed where
  /-- A send is lent a sender, which has a socket or none. -/
  | leases (number sender : Nat) (socket : Option Nat)
  | asks (number : Nat) (order : Order)
  /-- A sender has a new socket. -/
  | joins (number sender socket : Nat)
  | ends (number : Nat) (result : Pool.Result)
  /-- A call is given up. -/
  | drops (number : Nat)

def Deed.ofEffect? : Effect Nat Order Pool.Result → Option Deed
  | .order number order => some (.asks number order)
  | .done number result => some (.ends number result)
  | _ => none

/-- What is heard of effects outside. -/
def told (effects : List (Effect Nat Order Pool.Result)) : List Deed :=
  effects.filterMap Deed.ofEffect?

@[simp] theorem told_nil : told [] = [] := rfl

@[simp] theorem told_append (front back : List (Effect Nat Order Pool.Result)) :
    told (front ++ back) = told front ++ told back := List.filterMap_append

/-- What is left to do in a fleet leads to another fleet within a number of steps. The list is what
is heard of it outside. -/
inductive Leads (now : Nat) : Nat → List (Work Nat) → Fleet Nat → Fleet Nat → List Deed → Prop where
  | rests {fleet : Fleet Nat} : Leads now 0 [] fleet fleet []
  | carries {steps : Nat} {work : Work Nat} {more rest : List (Work Nat)}
      {fleet next last : Fleet Nat} {outside : List (Effect Nat Order Pool.Result)}
      {deeds : List Deed} (carried : fleet.carryOut now work = (next, more, outside))
      (leads : Leads now steps (more ++ rest) next last deeds) :
      Leads now (steps + 1) (work :: rest) fleet last (told outside ++ deeds)

/-- The fleet that a turn reaches, and what is heard of the turn outside. -/
structure Reaches (turn : FleetTurn Nat) (last : Fleet Nat) (deeds : List Deed) : Prop where
  reached : turn.1 = last
  heard : told turn.2 = deeds

variable {now steps number sender : Nat} {work rest : List (Work Nat)} {fleet last : Fleet Nat}
  {deeds : List Deed}

/-- A fleet that may take the steps takes them. -/
theorem Leads.reaches (leads : Leads now steps work fleet last deeds) {enough : Nat}
    (within : steps ≤ enough) : Reaches (carryOutAll now enough work fleet) last deeds := by
  induction leads generalizing enough with
  | rests => cases enough <;> exact ⟨rfl, rfl⟩
  | @carries steps work more rest fleet next last outside deeds carried leads ih =>
      obtain ⟨left, rfl⟩ : ∃ left, enough = left + 1 := ⟨enough - 1, by omega⟩
      obtain ⟨reached, heard⟩ := ih (show steps ≤ left by omega)
      rw [carryOutAll, carried]
      exact ⟨reached, by rw [told_append, heard]⟩

/-- A turn of the pool leads where its effects do. -/
theorem Leads.reaches_of_pool {turn : Pool.PoolTurn Nat}
    (leads : Leads now steps (turn.2.map .ofPool) { fleet with pool := turn.1 } last deeds)
    (few : steps ≤ 16 + turn.2.length) : Reaches (fleet.ofPool now turn) last deeds := by
  refine leads.reaches ?_
  rw [List.length_map]
  omega

/-- Tasks are woken outside. -/
theorem Leads.wakes (leads : Leads now steps rest fleet last deeds) (woken : List Nat) :
    Leads now (steps + woken.length)
      (((woken.map .ready : List (Effect Nat Pool.Order Pool.Result)).map .ofPool) ++ rest)
      fleet last deeds := by
  induction woken with
  | nil => exact leads
  | cons task others ih => exact .carries rfl ih

/-- The fleet with its pool in another state. -/
def pooled (fleet : Fleet Nat) (pool : Pool Nat) : Fleet Nat := { fleet with pool }

/-- A turn of the pool that wakes tasks first leads where the rest of it does. -/
theorem Leads.reaches_of_woken {pool : Pool Nat} (woken : List Nat)
    (effects : List (Effect Nat Pool.Order Pool.Result))
    (leads : Leads now steps (effects.map .ofPool) (fleet.pooled pool) last deeds)
    (few : steps ≤ 16) :
    Reaches (fleet.ofPool now (pool, woken.map .ready ++ effects)) last deeds := by
  have led := leads.wakes woken
  rw [← List.map_append] at led
  refine Leads.reaches_of_pool led ?_
  simp only [List.length_append, List.length_map]
  omega

theorem Leads.ends (leads : Leads now steps rest fleet last deeds) (number : Nat)
    (result : Pool.Result) :
    Leads now (steps + 1) (.ofPool (.done number result) :: rest) fleet last
      (.ends number result :: deeds) :=
  .carries rfl leads

theorem Leads.asks (leads : Leads now steps rest fleet last deeds) (number sender : Nat)
    (order : DatagramSender.Order) :
    Leads now (steps + 1) (.ofSender sender (.order number order) :: rest) fleet last
      (.asks number { sender, order } :: deeds) :=
  .carries rfl leads

/-- A sender ends its call, and the pool goes on. -/
theorem Leads.answers {result : DatagramSender.Result} {pool : Pool Nat}
    {effects : List (Effect Nat Pool.Order Pool.Result)}
    (turned : fleet.pool.answered now number (toAnswer result) = (pool, effects))
    (leads : Leads now steps (effects.map .ofPool ++ rest) { fleet with pool } last deeds)
    (sender : Nat) :
    Leads now (steps + 1) (.ofSender sender (.done number result) :: rest) fleet last deeds := by
  have carried : fleet.carryOut now (.ofSender sender (.done number result)) =
      ({ fleet with pool }, effects.map .ofPool, []) := by
    simp only [carryOut, turned]
  exact .carries carried leads

/-- The pool uses a sender. -/
theorem Leads.calls {order : Pool.Order} {call : DatagramSender.Call}
    {before after : DatagramSender Nat}
    {effects : List (Effect Nat DatagramSender.Order DatagramSender.Result)}
    (means : toCall? order = some (sender, call)) (known : fleet.senders[sender]? = some before)
    (begun : before.begin number call = (after, effects))
    (leads : Leads now steps (effects.map (.ofSender sender) ++ rest)
      { fleet with senders := fleet.senders.set sender after } last deeds) :
    Leads now (steps + 1) (.ofPool (.order number order) :: rest) fleet last deeds := by
  have carried : fleet.carryOut now (.ofPool (.order number order)) =
      ({ fleet with senders := fleet.senders.set sender after },
        effects.map (.ofSender sender), []) := by
    simp only [carryOut, means, withSender, known, begun]
  exact .carries carried leads

variable {before : DatagramSender Nat} {socket : Nat}

/-- The fleet with one sender in another state. -/
def posted (fleet : Fleet Nat) (sender : Nat) (state : DatagramSender Nat) : Fleet Nat :=
  { fleet with senders := fleet.senders.set sender state }

theorem posted_posted (fleet : Fleet Nat) (sender : Nat) (state last : DatagramSender Nat) :
    (fleet.posted sender state).posted sender last = fleet.posted sender last := by
  simp [posted]

theorem getElem?_posted (known : fleet.senders[sender]? = some before)
    (state : DatagramSender Nat) : (fleet.posted sender state).senders[sender]? = some state := by
  obtain ⟨within, _⟩ := List.getElem?_eq_some_iff.mp known
  simp [posted, within]

/-- A sender that stays as it is. -/
theorem posted_eq_self (known : fleet.senders[sender]? = some before) :
    fleet.posted sender before = fleet := by
  obtain ⟨within, rfl⟩ := List.getElem?_eq_some_iff.mp known
  simp [posted]

theorem sender?_of_found {stage : Pool.Stage}
    (found : fleet.pool.calls.lookup number = some stage) :
    fleet.sender? number = stage.sender? := by
  rw [sender?, found]
  rfl

theorem sender?_of_missed (missed : fleet.pool.calls.lookup number = none) :
    fleet.sender? number = none := by
  rw [sender?, missed]
  rfl

/-- The turn of a call that has no sender does nothing to any sender. -/
theorem reaches_of_none (none : fleet.sender? number = none) (now : Nat)
    (turn : DatagramSender Nat → DatagramSender.SenderTurn Nat) :
    Reaches (fleet.ofSender now number turn) fleet [] := by
  rw [ofSender, none]
  exact ⟨rfl, rfl⟩

/-- A turn of the sender that a call has leads where its effects do. -/
theorem Leads.reaches_of_sender {state : DatagramSender Nat}
    {effects : List (Effect Nat DatagramSender.Order DatagramSender.Result)}
    {turn : DatagramSender Nat → DatagramSender.SenderTurn Nat}
    (uses : fleet.sender? number = some sender) (known : fleet.senders[sender]? = some before)
    (turned : turn before = (state, effects))
    (leads :
      Leads now steps (effects.map (.ofSender sender)) (fleet.posted sender state) last deeds)
    (few : steps ≤ 16 + effects.length) :
    Reaches (fleet.ofSender now number turn) last deeds := by
  simp only [ofSender, uses, withSender, known, turned]
  refine leads.reaches ?_
  rw [List.length_map]
  omega

/-- A turn that leaves the sender of a call alone does nothing. -/
theorem reaches_of_same {turn : DatagramSender Nat → DatagramSender.SenderTurn Nat}
    (uses : fleet.sender? number = some sender) (known : fleet.senders[sender]? = some before)
    (same : turn before = (before, [])) (now : Nat) :
    Reaches (fleet.ofSender now number turn) fleet [] := by
  refine Leads.reaches_of_sender uses known same ?_ (Nat.zero_le _)
  rw [posted_eq_self known]
  exact .rests

/-- A send is lent a sender with a socket. -/
theorem leads_send (known : fleet.senders[sender]? = some before) (idle : before.Idle)
    (owns : before.socket = some socket) (number : Nat) (data : Bytes) :
    Leads now 2 [.ofPool (.order number (.send sender data))] fleet
      (fleet.posted sender (before.used number (.sending socket)))
      [.asks number { sender, order := .send socket (.whole data) }] :=
  .calls rfl known (idle.begin_send owns number _) (Leads.rests.asks number sender _)

/-- A sender connects again that has a socket. -/
theorem leads_connect (known : fleet.senders[sender]? = some before) (idle : before.Idle)
    (owns : before.socket = some socket) (number : Nat) :
    Leads now 2 [.ofPool (.order number (.connect sender))] fleet
      (fleet.posted sender (before.stripped.used number (.replacing socket)))
      [.asks number { sender, order := .closeSocket socket }] :=
  .calls rfl known (idle.begin_connect owns number) (Leads.rests.asks number sender _)

/-- A sender connects that has no socket. -/
theorem leads_connect_bare (known : fleet.senders[sender]? = some before) (idle : before.Idle)
    (bare : before.socket = none) (number : Nat) :
    Leads now 2 [.ofPool (.order number (.connect sender))] fleet
      (fleet.posted sender (before.numbered.used number (.opening before.nextSocket)))
      [.asks number { sender, order := .openSocket before.nextSocket }] :=
  .calls rfl known (idle.begin_connect_bare bare number) (Leads.rests.asks number sender _)

/-- The pool hears of a transient failure, and the sender connects again. -/
theorem answered_transient {failure : Failure} {pool : Pool Nat}
    (sends : pool.calls.lookup number = some (.sending sender))
    (broken : failure.isTransient = true) (now : Nat) :
    pool.answered now number (.sent (.error failure)) =
      (pool.park number (.reconnecting sender failure), [.order number (.connect sender)]) := by
  simp [Pool.answered, sends, broken]

/-- A send is lent a sender that has lost its socket. It fails, and the sender asks for a new
socket. -/
theorem leads_send_bare (known : fleet.senders[sender]? = some before) (idle : before.Idle)
    (bare : before.socket = none) (lasting : before.wasConnected = true)
    (sends : fleet.pool.calls.lookup number = some (.sending sender)) (data : Bytes) :
    Leads now 4 [.ofPool (.order number (.send sender data))] fleet
      ((fleet.pooled (fleet.pool.park number (.reconnecting sender before.noSocket))).posted sender
        (before.numbered.used number (.opening before.nextSocket)))
      [.asks number { sender, order := .openSocket before.nextSocket }] := by
  have broken := before.noSocket_transient lasting
  refine .calls rfl known (idle.begin_send_bare bare number _) ?_
  have same : { fleet with senders := fleet.senders.set sender before } = fleet :=
    posted_eq_self known
  rw [same]
  refine .answers (answered_transient sends broken now) ?_ sender
  exact @leads_connect_bare now sender
    (fleet.pooled (fleet.pool.park number (.reconnecting sender before.noSocket))) before known idle
    bare number

/-- One task is woken at most when a sender comes back. -/
theorem woken_le {queue after : BoundedQueue Nat Nat} {woken : List Nat}
    (pushed : queue.push? sender = some (after, woken)) : woken.length ≤ 1 := by
  rw [BoundedQueue.push?] at pushed
  split at pushed
  · obtain ⟨_, rfl⟩ := Prod.mk.inj (Option.some.inj pushed)
    cases queue.notEmpty.notify.2 <;> simp
  · cases pushed

/-- The pool takes the answer that ends a send, and the sender goes back. -/
theorem leads_finish {queue : BoundedQueue Nat Nat} {woken : List Nat} (now : Nat)
    {result : DatagramSender.Result} {ended : Except Failure Nat}
    (finishes : fleet.pool.answered now number (toAnswer result) =
      fleet.pool.finishSend number sender ended)
    (pushed : fleet.pool.queue.push? sender = some (queue, woken)) :
    ∃ steps, steps ≤ 3 ∧ Leads now steps [.ofSender sender (.done number result)] fleet
      (fleet.pooled ({ fleet.pool with queue }.remove number)) [.ends number (.sent ended)] := by
  have given : fleet.pool.finishSend number sender ended =
      ({ fleet.pool with queue }.remove number,
        woken.map .ready ++ [.done number (.sent ended)]) := by
    rw [Pool.finishSend, Pool.giveBack, pushed]
    rfl
  have few := woken_le pushed
  refine ⟨1 + woken.length + 1, by omega, .answers (finishes.trans given) ?_ sender⟩
  rw [List.map_append, List.append_nil]
  exact (Leads.rests.ends number _).wakes woken

end Fleet

end ReliableTransport
