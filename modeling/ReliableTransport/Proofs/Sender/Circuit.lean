import Mathlib.Data.List.Basic
import ReliableTransport.Proofs.Sender.Usage
import ReliableTransport.Proofs.Stream.Writing
/-!
This module joins a connected sender to the stream of its socket. Sends come in any order, and the
stream takes what it likes of their datagrams. Any of them may fail or be given up, and those behind
it go on with the same stream. One send at a time writes, and they write in the order in which they
came.
-/

namespace ReliableTransport

/-- What a send returns that is over for its socket. -/
def Outlet.Ending.result? : Outlet.Ending → Option (Except Failure Nat)
  | .sent length => some (.ok length)
  | .failed failure => some (.error failure)
  | .givenUp _ | .overrun => none

namespace DatagramSender

/-- A sender has a socket, and no call uses it. -/
structure Ready (sender : DatagramSender Nat) : Prop where
  connected : ∃ socket, sender.socket = some socket
  idle : sender.turnstile = {}
  unused : sender.calls = []

/-- The ways to send a message. -/
inductive Request where
  | send (delivery : Delivery)
  | sendRange (data : Bytes) (offset length : UInt64)

def Request.call : Request → Call
  | .send delivery => .send delivery
  | .sendRange data offset length => .sendRange data offset length

/-- What a send wrote into the stream, and how that ended. -/
structure Entry where
  number : Nat
  delivery : Delivery
  bytes : Bytes
  ending : Outlet.Ending
  deriving DecidableEq

/-- The bytes and the ending are what comes of a send. -/
def Entry.Fair (entry : Entry) : Prop :=
  entry.ending ≠ .overrun ∧
    ∃ (outlet : Outlet) (takes : List Outlet.Take),
      outlet.send entry.delivery takes = (entry.bytes, entry.ending)

/-- A sender, the sending end of its stream, and what the sends wrote into it, in order. -/
structure Circuit where
  usage : Usage
  outlet : Outlet := {}
  log : List Entry := []

namespace Circuit

/-- What can happen to a connected sender that is only used to send. -/
inductive Event where
  | request (request : Request)
  | turn (number : Nat)
  /-- The stream answers the writes of a send until the send is over. -/
  | write (number : Nat) (takes : List Outlet.Take)
  /-- A send is given up. If it was writing, the stream has answered some writes before. -/
  | abandon (number : Nat) (takes : List Outlet.Take)

/-- The message that is being written for a call. -/
def underway? (circuit : Circuit) (number : Nat) : Option Delivery :=
  match circuit.usage.sender.calls.lookup number with
  | some (.sending _) => circuit.usage.given? number
  | _ => none

/-- What becomes of a message with the answers of the stream. -/
def entry (circuit : Circuit) (number : Nat) (delivery : Delivery) (takes : List Outlet.Take) :
    Entry :=
  let (bytes, ending) := circuit.outlet.send delivery takes
  { number, delivery, bytes, ending }

def note (circuit : Circuit) (entry : Entry) : Circuit :=
  { circuit with log := circuit.log ++ [entry] }

def use (circuit : Circuit) (event : Usage.Event) : Circuit :=
  { circuit with usage := circuit.usage.step event }

def step (circuit : Circuit) : Event → Circuit
  | .request request => circuit.use (.call request.call)
  | .turn number => circuit.use (.turn number)
  | .write number takes =>
    match circuit.underway? number with
    | none => circuit
    | some delivery =>
      let entry := circuit.entry number delivery takes
      match entry.ending.result? with
      | none => circuit
      | some result => (circuit.note entry).use (.answer number (.sent result))
  | .abandon number takes =>
    match circuit.underway? number with
    | none => circuit.use (.abandon number)
    | some delivery =>
      let entry := circuit.entry number delivery takes
      match entry.ending with
      | .givenUp _ => (circuit.note entry).use (.abandon number)
      | _ => circuit

def run (circuit : Circuit) (events : List Event) : Circuit := events.foldl step circuit

/-- What stands in the stream. -/
def bytes (circuit : Circuit) : Bytes := circuit.log.flatMap Entry.bytes

/-- Nothing is sent yet. -/
def opened (sender : DatagramSender Nat) : Circuit := { usage := { sender } }

/-- What can happen, event by event. -/
inductive Happens (circuit : Circuit) : Event → Circuit → Prop where
  /-- The range of a send leaves its data. -/
  | refuses {request : Request} (outside : request.call.delivery? = none) :
      Happens circuit (.request request)
        { circuit with
          usage :=
            (circuit.usage.accept request.call).conclude circuit.usage.calls.length
              (.sent (.error (.invalidOperation .rangeOutsideBuffer))) }
  | queues {request : Request} {delivery : Delivery} {other : Nat}
      (sends : request.call.delivery? = some delivery)
      (busy : circuit.usage.sender.turnstile.inside = some other) :
      Happens circuit (.request request)
        { circuit with
          usage :=
            ((circuit.usage.accept request.call).enter circuit.usage.calls.length).park
              circuit.usage.calls.length (.queued (.send delivery)) }
  | begins {request : Request} {delivery : Delivery} {socket : Nat}
      (connected : circuit.usage.sender.socket = some socket)
      (sends : request.call.delivery? = some delivery)
      (idle : circuit.usage.sender.turnstile.inside = none) :
      Happens circuit (.request request)
        { circuit with
          usage :=
            (((circuit.usage.accept request.call).enter circuit.usage.calls.length).park
              circuit.usage.calls.length (.sending socket)).ask
              circuit.usage.calls.length (.send socket delivery) }
  | proceeds {number socket : Nat} {delivery : Delivery}
      (connected : circuit.usage.sender.socket = some socket)
      (found : circuit.usage.sender.calls.lookup number = some (.queued (.send delivery)))
      (inside : circuit.usage.sender.turnstile.inside = some number) :
      Happens circuit (.turn number)
        { circuit with
          usage :=
            (circuit.usage.park number (.sending socket)).ask number (.send socket delivery) }
  /-- A send is over for its socket. -/
  | lands {number : Nat} {delivery : Delivery} {takes : List Outlet.Take}
      {result : Except Failure Nat} (underway : circuit.underway? number = some delivery)
      (ended : (circuit.entry number delivery takes).ending.result? = some result) :
      Happens circuit (.write number takes)
        { circuit with
          usage := ((circuit.usage.count result).depart number).conclude number (.sent result)
          log := circuit.log ++ [circuit.entry number delivery takes] }
  /-- A send is given up while it writes. -/
  | breaks {number : Nat} {delivery : Delivery} {takes : List Outlet.Take} {pieces : List Bytes}
      (underway : circuit.underway? number = some delivery)
      (dropped : (circuit.entry number delivery takes).ending = .givenUp pieces) :
      Happens circuit (.abandon number takes)
        { circuit with
          usage := circuit.usage.depart number
          log := circuit.log ++ [circuit.entry number delivery takes] }
  /-- A send is given up before it writes. -/
  | leaves {number : Nat} {takes : List Outlet.Take} (waits : circuit.underway? number = none) :
      Happens circuit (.abandon number takes)
        { circuit with usage := circuit.usage.depart number }
  | stays {event : Event} : Happens circuit event circuit

/-- A call waits at a point that fits what it sends and its place in the line. -/
inductive Fits (usage : Usage) (number : Nat) : Stage → Prop where
  | queued {delivery : Delivery} (sends : usage.Sends number delivery) :
      Fits usage number (.queued (.send delivery))
  | sending {socket : Nat} (inside : usage.sender.turnstile.inside = some number) :
      Fits usage number (.sending socket)

/-- What holds for a connected sender that is only used to send. -/
structure Orderly (circuit : Circuit) : Prop where
  tidy : circuit.usage.sender.turnstile.Tidy
  connected : ∃ socket, circuit.usage.sender.socket = some socket
  /-- Those that wrote came before those that are in the line, and all of them in order. -/
  turns : (circuit.log.map Entry.number ++ circuit.usage.sender.turnstile.line).Pairwise (· < ·)
  known : ∀ number ∈ circuit.log.map Entry.number ++ circuit.usage.sender.turnstile.line,
    number < circuit.usage.calls.length
  given : ∀ order ∈ circuit.usage.orders, ∃ delivery,
    order.2.delivery? = some delivery ∧ circuit.usage.Sends order.1 delivery
  stages : ∀ number stage, circuit.usage.sender.calls.lookup number = some stage →
    Fits circuit.usage number stage
  written : ∀ entry ∈ circuit.log, circuit.usage.Sends entry.number entry.delivery ∧ entry.Fair
  returned : ∀ number length, (number, .sent (.ok length)) ∈ circuit.usage.endings ↔
    ∃ entry ∈ circuit.log, entry.number = number ∧ entry.ending = .sent length

variable {circuit after : Circuit} {event : Event} {number : Nat} {delivery : Delivery}

theorem opened_orderly {sender : DatagramSender Nat} (ready : sender.Ready) :
    Orderly (opened sender) where
  tidy := by
    rw [opened, ready.idle]
    exact fun _ => rfl
  connected := ready.connected
  turns := by
    rw [opened, ready.idle]
    exact List.Pairwise.nil
  known := by simp [opened, ready.idle, Turnstile.line]
  given := by simp [opened]
  stages := by simp [opened, ready.unused]
  written := by simp [opened]
  returned := by simp [opened]

/-- A call that is being written for is inside, and sends what is written. -/
theorem Orderly.underway (orderly : Orderly circuit)
    (underway : circuit.underway? number = some delivery) :
    circuit.usage.sender.turnstile.inside = some number ∧
      circuit.usage.Sends number delivery ∧
      ∃ socket, circuit.usage.sender.calls.lookup number = some (.sending socket) := by
  rw [underway?] at underway
  split at underway
  · next socket found =>
    have fits := orderly.stages number _ found
    cases fits with
    | sending inside =>
        obtain ⟨order, looked, is⟩ := Option.bind_eq_some_iff.mp underway
        obtain ⟨front, back, split, _⟩ := List.lookup_eq_some_iff.mp looked
        obtain ⟨delivered, gives, sends⟩ := orderly.given (number, order) (by simp [split])
        obtain rfl := Option.some.inj (gives.symm.trans is)
        exact ⟨inside, sends, socket, found⟩
  · cases underway

/-- A range that leaves its data ends the call, and everything else is asked for in turn. -/
theorem begin_request (request : Request) (number : Nat) (sender : DatagramSender Nat) :
    sender.begin number request.call =
      match request.call.delivery? with
      | none => (sender, [.done number (.sent (.error (.invalidOperation .rangeOutsideBuffer)))])
      | some delivery => sender.ask number (.send delivery) := by
  cases request with
  | send delivery => rfl
  | sendRange data offset length =>
      simp only [Request.call, begin, Call.delivery?]
      cases Word.range? data offset length <;> rfl

theorem Orderly.happens_request (orderly : Orderly circuit) (request : Request) :
    Happens circuit (.request request) (circuit.step (.request request)) := by
  obtain ⟨socket, connected⟩ := orderly.connected
  have turn : circuit.step (.request request) =
      { circuit with
        usage := (circuit.usage.accept request.call).took
          (circuit.usage.sender.begin circuit.usage.calls.length request.call) } := rfl
  rw [begin_request] at turn
  rw [turn]
  cases sends : request.call.delivery? with
  | none =>
      have refused : ∀ result, (circuit.usage.accept request.call).took
          (circuit.usage.sender, [.done circuit.usage.calls.length result]) =
          (circuit.usage.accept request.call).conclude circuit.usage.calls.length result := by
        simp [Usage.took, Usage.accept, Usage.conclude, asked, Effect.results]
      simp only [refused]
      exact .refuses sends
  | some delivery =>
      cases busy : circuit.usage.sender.turnstile.inside with
      | none =>
          have asks := Usage.took_ask_of_idle (circuit.usage.accept request.call)
            circuit.usage.calls.length (.send delivery) busy
          have sending := Usage.took_send
            ((circuit.usage.accept request.call).enter circuit.usage.calls.length)
            circuit.usage.calls.length delivery connected
          have begins := Happens.begins connected sends busy
          rw [← sending, ← asks] at begins
          exact begins
      | some other =>
          have asks := Usage.took_ask_of_busy (circuit.usage.accept request.call)
            circuit.usage.calls.length (.send delivery) busy
          have queues := Happens.queues sends busy
          rw [← asks] at queues
          exact queues

theorem Orderly.happens_turn (orderly : Orderly circuit) (number : Nat) :
    Happens circuit (.turn number) (circuit.step (.turn number)) := by
  obtain ⟨socket, connected⟩ := orderly.connected
  have turn : circuit.step (.turn number) =
      { circuit with usage := circuit.usage.took (circuit.usage.sender.resume number) } := rfl
  rw [turn, resume]
  split
  · next job found =>
    split
    · next inside =>
      cases orderly.stages number _ found with
      | queued sends =>
          rw [Usage.took_send _ _ _ connected]
          exact .proceeds connected found inside
    · rw [Usage.took_nothing]
      exact .stays
  · rw [Usage.took_nothing]
    exact .stays

theorem Orderly.happens_write (orderly : Orderly circuit) (number : Nat)
    (takes : List Outlet.Take) :
    Happens circuit (.write number takes) (circuit.step (.write number takes)) := by
  cases underway : circuit.underway? number with
  | none =>
      simp only [step, underway]
      exact .stays
  | some delivery =>
      cases ended : (circuit.entry number delivery takes).ending.result? with
      | none =>
          simp only [step, underway, ended]
          exact .stays
      | some result =>
          obtain ⟨_, _, socket, found⟩ := orderly.underway underway
          have turn : circuit.usage.step (.answer number (.sent result)) =
              ((circuit.usage.count result).depart number).conclude number (.sent result) := by
            have answers : circuit.usage.sender.answered number (.sent result) =
                (circuit.usage.sender.countSent result).finish number (.sent result) := by
              simp only [answered, found]
            calc circuit.usage.step (.answer number (.sent result))
                = circuit.usage.took (circuit.usage.sender.answered number (.sent result)) := rfl
              _ = _ := by rw [answers, Usage.took_finish, Usage.count]
          have lands := Happens.lands underway ended
          rw [← turn] at lands
          simp only [step, underway, ended]
          exact lands

theorem happens_abandon (circuit : Circuit) (number : Nat) (takes : List Outlet.Take) :
    Happens circuit (.abandon number takes) (circuit.step (.abandon number takes)) := by
  have turn : circuit.usage.step (.abandon number) = circuit.usage.depart number :=
    Usage.took_depart
  cases underway : circuit.underway? number with
  | none =>
      simp only [step, underway, use, turn]
      exact .leaves underway
  | some delivery =>
      cases ends : (circuit.entry number delivery takes).ending with
      | givenUp pieces =>
          have breaks := Happens.breaks underway ends
          rw [← turn] at breaks
          simp only [step, underway, ends]
          exact breaks
      | sent | failed | overrun =>
          simp only [step, underway, ends]
          exact .stays

theorem Orderly.happens (orderly : Orderly circuit) (event : Event) :
    Happens circuit event (circuit.step event) := by
  cases event with
  | request request => exact orderly.happens_request request
  | turn number => exact orderly.happens_turn number
  | write number takes => exact orderly.happens_write number takes
  | abandon number takes => exact happens_abandon circuit number takes

/-- What fits a call goes on to fit it as long as it sends the same and stays inside. -/
theorem Fits.kept {usage later : Usage} {stage : Stage} (fits : Fits usage number stage)
    (sends : ∀ delivery, usage.Sends number delivery → later.Sends number delivery)
    (inside : usage.sender.turnstile.inside = some number →
      later.sender.turnstile.inside = some number) : Fits later number stage := by
  cases fits with
  | queued sent => exact .queued (sends _ sent)
  | sending within => exact .sending (inside within)

theorem Orderly.accept (orderly : Orderly circuit) (call : Call) :
    Orderly { circuit with usage := circuit.usage.accept call } where
  tidy := orderly.tidy
  connected := orderly.connected
  turns := orderly.turns
  known number among := by
    have before := orderly.known number among
    rw [Usage.accept, List.length_append]
    exact Nat.lt_add_right _ before
  given order among := by
    obtain ⟨delivery, gives, sends⟩ := orderly.given order among
    exact ⟨delivery, gives, sends.accept call⟩
  stages number stage found :=
    (orderly.stages number stage found).kept (fun _ sends => sends.accept call) id
  written entry among := by
    obtain ⟨sends, fair⟩ := orderly.written entry among
    exact ⟨sends.accept call, fair⟩
  returned := orderly.returned

/-- The newest call joins the line. -/
theorem Orderly.enter (orderly : Orderly circuit) (known : number < circuit.usage.calls.length)
    (newest : ∀ other ∈ circuit.log.map Entry.number ++ circuit.usage.sender.turnstile.line,
      other < number) :
    Orderly { circuit with usage := circuit.usage.enter number } := by
  have longer : (circuit.usage.enter number).sender.turnstile.line =
      circuit.usage.sender.turnstile.line ++ [number] := Turnstile.line_enter orderly.tidy
  exact {
    tidy := Turnstile.tidy_enter
    connected := orderly.connected
    turns := by
      rw [longer, ← List.append_assoc]
      refine List.pairwise_append.mpr ⟨orderly.turns, List.pairwise_singleton _ _, ?_⟩
      intro other among new is
      rw [List.mem_singleton.mp is]
      exact newest other among
    known := by
      rw [longer, ← List.append_assoc]
      intro other among
      rcases List.mem_append.mp among with before | new
      · exact orderly.known other before
      · rw [List.mem_singleton.mp new]
        exact known
    given := orderly.given
    stages := by
      intro other stage found
      refine (orderly.stages other stage found).kept (fun _ sends => sends) fun inside => ?_
      have stays : circuit.usage.sender.turnstile.enter number = _ :=
        Turnstile.enter_of_busy inside
      rw [Usage.enter, stays]
      exact inside
    written := orderly.written
    returned := orderly.returned }

theorem Orderly.park (orderly : Orderly circuit) {stage : Stage}
    (fits : Fits circuit.usage number stage) :
    Orderly { circuit with usage := circuit.usage.park number stage } where
  tidy := orderly.tidy
  connected := orderly.connected
  turns := orderly.turns
  known := orderly.known
  given := orderly.given
  stages other waits found := by
    rw [Usage.lookup_park] at found
    split at found
    · next same =>
      rw [same, ← Option.some.inj found]
      exact fits.kept (fun _ sends => sends) id
    · exact (orderly.stages other waits found).kept (fun _ sends => sends) id
  written := orderly.written
  returned := orderly.returned

theorem Orderly.ask (orderly : Orderly circuit) (socket : Nat)
    (sends : circuit.usage.Sends number delivery) :
    Orderly { circuit with usage := circuit.usage.ask number (.send socket delivery) } where
  tidy := orderly.tidy
  connected := orderly.connected
  turns := orderly.turns
  known := orderly.known
  given order among := by
    rcases List.mem_append.mp among with before | new
    · exact orderly.given order before
    · rw [List.mem_singleton.mp new]
      exact ⟨delivery, rfl, sends⟩
  stages other stage found :=
    (orderly.stages other stage found).kept (fun _ sends => sends) id
  written := orderly.written
  returned := orderly.returned

theorem Orderly.conclude (orderly : Orderly circuit) {result : Result}
    (fails : ∀ length, result ≠ .sent (.ok length)) :
    Orderly { circuit with usage := circuit.usage.conclude number result } where
  tidy := orderly.tidy
  connected := orderly.connected
  turns := orderly.turns
  known := orderly.known
  given := orderly.given
  stages other stage found :=
    (orderly.stages other stage found).kept (fun _ sends => sends) id
  written := orderly.written
  returned other length := by
    rw [← orderly.returned other length]
    constructor
    · intro among
      rcases List.mem_append.mp among with before | new
      · exact before
      · rw [List.mem_singleton, Prod.mk.injEq] at new
        exact absurd new.2.symm (fails length)
    · exact List.mem_append_left _

theorem Orderly.count (orderly : Orderly circuit) (result : Except Failure Nat) :
    Orderly { circuit with usage := circuit.usage.count result } := by
  obtain ⟨bytesSent, connected, counted⟩ := Usage.countSent_eq circuit.usage.sender result
  rw [Usage.count, counted]
  exact {
    tidy := orderly.tidy
    connected := orderly.connected
    turns := orderly.turns
    known := orderly.known
    given := orderly.given
    stages := fun other stage found =>
      (orderly.stages other stage found).kept (fun _ sends => sends) id
    written := orderly.written
    returned := orderly.returned }

/-- Whoever stays where it waits while a call leaves is inside if it was. -/
theorem Orderly.stages_depart (orderly : Orderly circuit) (number other : Nat) (stage : Stage)
    (found : (circuit.usage.depart number).sender.calls.lookup other = some stage) :
    Fits (circuit.usage.depart number) other stage := by
  rw [Usage.lookup_depart] at found
  split at found
  · cases found
  · next different =>
    refine (orderly.stages other stage found).kept (fun _ sends => sends) fun inside => ?_
    have outside : circuit.usage.sender.turnstile.inside ≠ some number := fun same =>
      different (Option.some.inj (inside.symm.trans same))
    rw [Usage.depart, DatagramSender.depart, Turnstile.leave, if_neg outside]
    exact inside

theorem Orderly.depart (orderly : Orderly circuit) (number : Nat) :
    Orderly { circuit with usage := circuit.usage.depart number } := by
  have shorter : (circuit.usage.depart number).sender.turnstile.line =
      circuit.usage.sender.turnstile.line.erase number := Turnstile.line_leave orderly.tidy
  have fewer : (circuit.log.map Entry.number ++
      (circuit.usage.depart number).sender.turnstile.line).Sublist
        (circuit.log.map Entry.number ++ circuit.usage.sender.turnstile.line) := by
    rw [shorter]
    exact List.Sublist.append_left List.erase_sublist _
  exact {
    tidy := orderly.tidy.leave
    connected := orderly.connected
    turns := orderly.turns.sublist fewer
    known := fun other among => orderly.known other (fewer.subset among)
    given := orderly.given
    stages := orderly.stages_depart number
    written := orderly.written
    returned := orderly.returned }

/-- The call that is inside leaves, and what it wrote is noted. -/
theorem Orderly.note (orderly : Orderly circuit) {entry : Entry} {endings : List (Nat × Result)}
    (inside : circuit.usage.sender.turnstile.inside = some entry.number)
    (sends : circuit.usage.Sends entry.number entry.delivery)
    (fair : entry.Fair)
    (returned : ∀ number length, (number, .sent (.ok length)) ∈ endings ↔
      ∃ noted ∈ circuit.log ++ [entry], noted.number = number ∧ noted.ending = .sent length) :
    Orderly { circuit with
      usage := { circuit.usage.depart entry.number with endings }
      log := circuit.log ++ [entry] } := by
  have shorter : (circuit.usage.depart entry.number).sender.turnstile.line =
      circuit.usage.sender.turnstile.line.erase entry.number := Turnstile.line_leave orderly.tidy
  -- The one that was first in the line has become the last one that wrote.
  have same : (circuit.log ++ [entry]).map Entry.number ++
      (circuit.usage.depart entry.number).sender.turnstile.line =
        circuit.log.map Entry.number ++ circuit.usage.sender.turnstile.line := by
    rw [shorter, Turnstile.line, inside, List.map_append]
    simp
  exact {
    tidy := orderly.tidy.leave
    connected := orderly.connected
    turns := same ▸ orderly.turns
    known := same ▸ orderly.known
    given := orderly.given
    stages := fun other stage found =>
      (orderly.stages_depart entry.number other stage found).kept (fun _ sends => sends) id
    written := by
      intro noted among
      rcases List.mem_append.mp among with before | new
      · exact orderly.written noted before
      · rw [List.mem_singleton.mp new]
        exact ⟨sends, fair⟩
    returned := returned }

/-- The call that is being written for leaves, and what it wrote is noted. -/
theorem Orderly.noteEntry (orderly : Orderly circuit)
    (underway : circuit.underway? number = some delivery) (takes : List Outlet.Take)
    {endings : List (Nat × Result)}
    (fair : (circuit.entry number delivery takes).ending ≠ .overrun)
    (returned : ∀ other length, (other, .sent (.ok length)) ∈ endings ↔
      (other, .sent (.ok length)) ∈ circuit.usage.endings ∨
        other = number ∧ (circuit.entry number delivery takes).ending = .sent length) :
    Orderly { circuit with
      usage := { circuit.usage.depart number with endings }
      log := circuit.log ++ [circuit.entry number delivery takes] } := by
  obtain ⟨inside, sends, _⟩ := orderly.underway underway
  refine orderly.note inside sends ⟨fair, circuit.outlet, takes, rfl⟩ ?_
  intro other length
  rw [returned, orderly.returned]
  constructor
  · rintro (⟨noted, before, same, sent⟩ | ⟨rfl, sent⟩)
    · exact ⟨noted, List.mem_append_left _ before, same, sent⟩
    · exact ⟨_, List.mem_append_right _ (List.mem_singleton_self _), rfl, sent⟩
  · rintro ⟨noted, among, same, sent⟩
    rcases List.mem_append.mp among with before | new
    · exact .inl ⟨noted, before, same, sent⟩
    · obtain rfl := List.mem_singleton.mp new
      exact .inr ⟨same.symm, sent⟩

/-- Every call that came before is among those that are known. -/
theorem Orderly.newest (orderly : Orderly circuit) (call : Call) :
    Orderly { circuit with
      usage := (circuit.usage.accept call).enter circuit.usage.calls.length } := by
  refine (orderly.accept call).enter ?_ orderly.known
  rw [Usage.accept, List.length_append]
  exact Nat.lt_succ_self _

theorem Happens.orderly (happens : Happens circuit event after) (orderly : Orderly circuit) :
    Orderly after := by
  cases happens with
  | @refuses request outside => exact (orderly.accept request.call).conclude (by simp)
  | @queues request delivery other sends busy =>
      have sent := Usage.sends_of_new circuit.usage sends
      exact (orderly.newest request.call).park (.queued sent)
  | @begins request delivery socket connected sends idle =>
      have sent := Usage.sends_of_new circuit.usage sends
      have inside : ((circuit.usage.accept request.call).enter
          circuit.usage.calls.length).sender.turnstile.inside =
            some circuit.usage.calls.length := by
        have goesIn : circuit.usage.sender.turnstile.enter circuit.usage.calls.length = _ :=
          Turnstile.enter_of_idle idle
        rw [Usage.enter, Usage.accept, goesIn]
      exact ((orderly.newest request.call).park (.sending inside)).ask socket sent
  | @proceeds number socket delivery connected found inside =>
      cases orderly.stages number _ found with
      | queued sends => exact (orderly.park (.sending inside)).ask socket sends
  | @lands number delivery takes result underway ended =>
      have ends : (circuit.entry number delivery takes).ending ≠ .overrun ∧
          ∀ length, result = .ok length ↔
            (circuit.entry number delivery takes).ending = .sent length := by
        generalize (circuit.entry number delivery takes).ending = ending at ended
        cases ending <;> cases ended <;> simp
      have counted : underway? { circuit with usage := circuit.usage.count result } number =
          some delivery := by
        obtain ⟨bytesSent, connected, counted⟩ := Usage.countSent_eq circuit.usage.sender result
        rw [Usage.count, counted]
        exact underway
      refine (orderly.count result).noteEntry counted takes ends.1 fun other length => ?_
      rw [List.mem_append, List.mem_singleton, Prod.mk.injEq, Result.sent.injEq]
      exact or_congr_right (and_congr_right fun _ => eq_comm.trans (ends.2 length))
  | @breaks number delivery takes pieces underway dropped =>
      have fair : (circuit.entry number delivery takes).ending ≠ .overrun := by
        rw [dropped]
        exact Outlet.Ending.noConfusion
      refine orderly.noteEntry underway takes fair fun other length => ?_
      simp [dropped]
  | @leaves number takes waits => exact orderly.depart number
  | stays => exact orderly

/-- The stream stays as open as it is. -/
theorem Happens.outlet (happens : Happens circuit event after) : after.outlet = circuit.outlet := by
  cases happens <;> rfl

theorem Orderly.step (orderly : Orderly circuit) (event : Event) : Orderly (circuit.step event) :=
  (orderly.happens event).orderly orderly

theorem Orderly.run (orderly : Orderly circuit) (events : List Event) :
    Orderly (circuit.run events) := by
  induction events generalizing circuit with
  | nil => exact orderly
  | cons event events ih => exact ih (orderly.step event)

theorem Orderly.run_outlet (orderly : Orderly circuit) (events : List Event) :
    (circuit.run events).outlet = circuit.outlet := by
  induction events generalizing circuit with
  | nil => rfl
  | cons event events ih => exact (ih (orderly.step event)).trans (orderly.happens event).outlet

/-- A send that is being written leaves its whole datagram in a stream that goes on taking bytes. -/
theorem log_write_drains (opened : circuit.outlet.isOpen = true)
    (underway : circuit.underway? number = some delivery)
    (small : delivery.length < Bytes.wordValues) {counts : List Nat}
    (drains : Outlet.Drains (4 + delivery.length) counts) :
    (circuit.step (.write number (counts.map .took))).log =
      circuit.log ++ [⟨number, delivery, delivery.data.announced, .sent delivery.length⟩] := by
  have wrote : circuit.entry number delivery (counts.map .took) =
      ⟨number, delivery, delivery.data.announced, .sent delivery.length⟩ := by
    rw [entry, Outlet.send_drains opened small drains]
  simp only [step, underway, wrote]
  rfl

end Circuit

end DatagramSender

end ReliableTransport
