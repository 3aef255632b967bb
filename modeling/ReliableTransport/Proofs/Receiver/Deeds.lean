import Mathlib.Data.List.Induction
import ReliableTransport.Proofs.Log
import ReliableTransport.Proofs.Receiver.Turns
/-!
This module follows the connections of a receiver over time. Calls, sockets that come to be bound,
and the turns of the loops happen in any order, and each of them adds to a log what it does to the
connections. The log says which connections stand and whether connections are accepted.
-/

namespace ReliableTransport

namespace DatagramReceiver

/-- What happens to the connections of a receiver. -/
inductive Deed where
  /-- Connections are accepted from now on. -/
  | started
  | stopped
  | connected (connection : Connection)
  /-- A handler did not let the remote connect. -/
  | vetoed (connection : Connection)
  /-- Somebody wants no connection with a remote any more. -/
  | disconnected (remote : Address)
  /-- Handlers begin to be told of data. -/
  | delivered (connection : Connection) (data : Bytes)
  /-- A connection ended by itself, and handlers begin to be told. -/
  | ended (connection : Connection) (reason : EndReason)
  /-- A connection ended by itself, and nobody is told. -/
  | lapsed (connection : Connection) (reason : EndReason)
  deriving Repr, DecidableEq

/-- After the deed, the receiver does not want the connection any more. -/
def Deed.Dismisses : Deed → Connection → Prop
  | .connected other, connection => other.remote = connection.remote
  | .disconnected remote, connection => remote = connection.remote
  | .ended other _, connection => other = connection
  | .stopped, _ => True
  | _, _ => False

def Deed.connection? : Deed → Option Connection
  | .connected connection => some connection
  | _ => none

/-- The connections that there were, in order. -/
def connections (deeds : List Deed) : List Connection := deeds.filterMap Deed.connection?

/-- A connection was made, and since then neither did it end, nor was its remote disconnected or
connected again, nor did the receiver stop. -/
def Stands (deeds : List Deed) (connection : Connection) : Prop :=
  ∃ front later, deeds = front ++ .connected connection :: later ∧
    ∀ deed ∈ later, ¬deed.Dismisses connection

/-- The receiver has stopped since it last started. -/
def Halted (deeds : List Deed) : Prop :=
  ∀ front later, deeds = front ++ .started :: later → .stopped ∈ later

section Logs

variable {deeds more : List Deed} {deed : Deed} {connection : Connection}

theorem connections_append (deeds more : List Deed) :
    connections (deeds ++ more) = connections deeds ++ connections more := List.filterMap_append

theorem stands_concat : Stands (deeds ++ [deed]) connection ↔
    deed = .connected connection ∨ Stands deeds connection ∧ ¬deed.Dismisses connection := by
  constructor
  · rintro ⟨front, later, same, spared⟩
    rcases split_concat same with ⟨rest, split, rfl⟩ | ⟨_, is, _⟩
    · exact .inr ⟨⟨front, rest, split, fun other among =>
        spared other (List.mem_append_left _ among)⟩, spared deed (by simp)⟩
    · exact .inl is.symm
  · rintro (rfl | ⟨⟨front, later, rfl, spared⟩, spares⟩)
    · exact ⟨deeds, [], rfl, by simp⟩
    · refine ⟨front, later ++ [deed], by simp, fun other among => ?_⟩
      rcases List.mem_append.mp among with former | last
      · exact spared other former
      · exact List.mem_singleton.mp last ▸ spares

theorem Stands.mem_connections (stands : Stands deeds connection) :
    connection ∈ connections deeds := by
  obtain ⟨front, later, rfl, _⟩ := stands
  exact List.mem_filterMap.mpr ⟨.connected connection, by simp, rfl⟩

/-- A connection that is not made anew goes on to stand unless it is dismissed. -/
theorem stands_append (unmade : connection ∉ connections more) :
    Stands (deeds ++ more) connection ↔
      Stands deeds connection ∧ ∀ deed ∈ more, ¬deed.Dismisses connection := by
  induction more using List.reverseRecOn with
  | nil => simp
  | append_singleton more deed ih =>
      rw [connections_append, List.mem_append, not_or] at unmade
      have other : deed ≠ .connected connection := by
        rintro rfl
        exact unmade.2 (List.mem_singleton.mpr rfl)
      rw [← List.append_assoc, stands_concat, or_iff_right other, ih unmade.1, and_assoc]
      simp [or_imp, forall_and]

theorem halted_concat :
    Halted (deeds ++ [deed]) ↔ deed = .stopped ∨ Halted deeds ∧ deed ≠ .started := by
  constructor
  · intro halted
    by_cases stops : deed = .stopped
    · exact .inl stops
    refine .inr ⟨fun front later same => ?_, ?_⟩
    · have among := halted front (later ++ [deed]) (by rw [same]; simp)
      rcases List.mem_append.mp among with before | last
      · exact before
      · exact absurd (List.mem_singleton.mp last).symm stops
    · rintro rfl
      simpa using halted deeds [] rfl
  · rintro (rfl | ⟨halted, other⟩) front later same
    · rcases split_concat same with ⟨rest, _, rfl⟩ | ⟨_, is, _⟩
      · simp
      · cases is
    · rcases split_concat same with ⟨rest, split, rfl⟩ | ⟨_, is, _⟩
      · exact List.mem_append_left _ (halted front rest split)
      · exact absurd is.symm other

/-- Without a start, a receiver is halted exactly if it was before or stops. -/
theorem halted_append (idle : .started ∉ more) :
    Halted (deeds ++ more) ↔ Halted deeds ∨ .stopped ∈ more := by
  induction more using List.reverseRecOn with
  | nil => simp
  | append_singleton more deed ih =>
      rw [List.mem_append, not_or, List.mem_singleton] at idle
      have other : deed ≠ .started := Ne.symm idle.2
      rw [← List.append_assoc, halted_concat, ih idle.1, List.mem_append, List.mem_singleton]
      constructor
      · rintro (rfl | ⟨halted | stops, _⟩)
        · exact .inr (.inr rfl)
        · exact .inl halted
        · exact .inr (.inl stops)
      · rintro (halted | stops | rfl)
        · exact .inr ⟨.inl halted, other⟩
        · exact .inr ⟨.inr stops, other⟩
        · exact .inl rfl

/-- A receiver that runs goes on to run until it stops. -/
theorem not_halted_append (runs : ¬Halted deeds) (goesOn : .stopped ∉ more) :
    ¬Halted (deeds ++ more) := by
  refine fun halted => runs fun front later same => ?_
  have stops := halted front (later ++ more) (by rw [same]; simp)
  exact (List.mem_append.mp stops).resolve_right goesOn

end Logs

def Command.deed : Command → Deed
  | .disconnect remote => .disconnected remote
  | .stop => .stopped

/-- What can happen to a receiver. -/
inductive Event (Handler : Type) where
  | call (call : Call Handler)
  | turn (role : Role)
  | answer (role : Role) (result : Except Failure Unit)
  | abandon (role : Role)

variable {Handler : Type}

def Event.isCall : Event Handler → Bool
  | .call _ => true
  | _ => false

/-- What handlers are told with a deed. -/
def Deed.told (receiver : DatagramReceiver Handler) : Deed → List (Order Handler)
  | .delivered connection data =>
    receiver.receiveHandlers.handlers.map fun handler =>
      .received handler { remote := connection.remote, data }
  | .ended connection reason =>
    receiver.endHandlers.handlers.map fun handler => .ended handler connection.remote reason
  | _ => []

/-- The connections that a loop accepts in one turn, of all that wait. It goes on until a failure or
a connection that makes it halt. -/
def offered (halts : Connection → Bool) : Nat → List (Except Failure Connection) → List Connection
  | share + 1, .error failure :: rest =>
    if Acceptor.isReset failure then offered halts share rest else []
  | share + 1, .ok connection :: rest =>
    connection :: if halts connection then [] else offered halts share rest
  | _, _ => []

section Deeds

variable (conduct : Conduct Handler) (receiver : DatagramReceiver Handler)

/-- What handlers do when they are asked about a connection. -/
def askedFor (connection : Connection) : List Command :=
  conduct.onAsked receiver.acceptHandlers.handlers connection.remote

/-- What handlers do when they are told of what a loop has heard. -/
def toldOf (connection : Connection) (data : List Bytes) : List Command :=
  conduct.onHeard receiver.receiveHandlers.handlers connection.remote data

/-- Handlers are asked about a connection and heeded. -/
def admission (connection : Connection) : List Deed :=
  (askedFor conduct receiver connection).map Command.deed ++
    [if conduct.allows receiver.acceptHandlers.handlers connection.remote then
      .connected connection
    else .vetoed connection]

/-- The connections that the loop of a socket accepts in its next turn. -/
def accepts (socket : Nat) : List Connection :=
  if receiver.acceptor.goesOn socket then
    offered (fun connection => decide (.stop ∈ askedFor conduct receiver connection))
      conduct.shares.arrivals receiver.arrivals
  else []

/-- Handlers are told of data. -/
def reception (connection : Connection) (data : Bytes) : List Deed :=
  .delivered connection data :: (toldOf conduct receiver connection [data]).map Command.deed

/-- A connection has ended by itself. -/
def conclusion (loop : Loop) (reason : EndReason) : List Deed :=
  if receiver.endpoints.lookup loop.connection.remote = some loop.id then
    .ended loop.connection reason ::
      (conduct.onEnded receiver.endHandlers.handlers loop.connection.remote reason).map Command.deed
  else [.lapsed loop.connection reason]

/-- What a loop hears in its next turn. -/
def hears (loop : Loop) : List Bytes :=
  heard conduct.shares.receptions (receiver.inflow loop.connection.number).receptions

/-- Why the connection of a loop ends in the loop's next turn, if it does. -/
def ends? (loop : Loop) : Option EndReason :=
  let inflow := receiver.inflow loop.connection.number
  ending? inflow.closed conduct.shares.receptions inflow.receptions

/-- A loop passes on what it hears, and then it may find that its connection has ended. -/
def receipt (loop : Loop) : List Deed :=
  (receiver.hears conduct loop).flatMap (reception conduct receiver loop.connection) ++
    match receiver.ends? conduct loop with
    | none => []
    | some reason =>
      conclusion conduct
        (receiver.complyAll
          (toldOf conduct receiver loop.connection (receiver.hears conduct loop)))
        loop reason

/-- The loop with a number, if it was not told to end. -/
def awake? (id : Nat) : Option Loop :=
  (receiver.loop? id).filter fun loop => !loop.aborted

/-- What an event does to the connections. -/
def deedsOf : Event Handler → List Deed
  | .call .stop => [.stopped]
  | .call (.disconnect remote) => [.disconnected remote]
  | .call _ | .turn (.caller _) | .abandon _ => []
  | .turn (.acceptLoop socket) =>
    (accepts conduct receiver socket).flatMap (admission conduct receiver)
  | .turn (.receiveLoop id) => (receiver.awake? id).elim [] (receipt conduct receiver)
  | .answer role result =>
    if receiver.acceptor.phase ≠ .running ∧
        (receiver.bound role result).1.acceptor.phase = .running then [.started]
    else []

theorem awake?_eq_some {receiver : DatagramReceiver Handler} {id : Nat} {loop : Loop} :
    receiver.awake? id = some loop ↔ receiver.loop? id = some loop ∧ loop.aborted = false := by
  simp [awake?, Option.filter_eq_some_iff]

variable {conduct receiver} in
/-- A loop that was not told to end passes on what it hears. -/
theorem receive_awake {id : Nat} {loop : Loop} (awake : receiver.awake? id = some loop) :
    receiver.receive conduct id =
      Turn.andThen (deliverEach conduct loop (receiver.hears conduct loop) receiver) fun reached =>
        reached.endTurn conduct loop conduct.shares.receptions
          (receiver.inflow loop.connection.number).receptions := by
  obtain ⟨found, unaborted⟩ := awake?_eq_some.mp awake
  rw [receive, found]
  simp only [unaborted]
  exact receiveEach_eq conduct loop receiver conduct.shares.receptions _

/-- A loop that is over or was told to end takes nothing. -/
theorem receive_asleep {id : Nat} (asleep : receiver.awake? id = none) :
    receiver.receive conduct id = (receiver, []) ∨
      ∃ loop ∈ receiver.loops, loop.aborted = true ∧
        receiver.receive conduct id = receiver.endLoop loop := by
  rw [receive]
  cases found : receiver.loop? id with
  | none => exact .inl rfl
  | some loop =>
      have aborted : loop.aborted = true := by simpa [awake?, found] using asleep
      exact .inr ⟨loop, List.mem_of_find?_eq_some found, aborted, by simp [aborted]⟩

@[simp] theorem orders_wakeAccepting : Effect.orders receiver.wakeAccepting = [] := by
  have woken : receiver.wakeAccepting =
      (receiver.acceptor.loops.map fun loop => Role.acceptLoop loop.socket).map .ready := by
    rw [List.map_map]
    rfl
  rw [woken, Effect.orders_ready]

@[simp] theorem orders_wakeReceiving (connection : Nat) :
    Effect.orders (receiver.wakeReceiving connection) = [] := by
  have woken : receiver.wakeReceiving connection =
      ((receiver.loops.filter fun loop => loop.connection.number = connection).map fun loop =>
        Role.receiveLoop loop.id).map .ready := by
    rw [List.map_map]
    rfl
  rw [woken, Effect.orders_ready]

theorem told_begin (task : Role) (call : Call Handler) : told (receiver.begin task call) = [] := by
  cases call with
  | start =>
      rw [begin]
      split <;> rfl
  | stop =>
      rw [begin, told_andThen, told_stop]
      rfl
  | disconnect remote =>
      have silent : told (receiver.disconnect remote).1 ++ [] = [] := by rw [told_disconnect]; rfl
      exact (told_andThen (receiver.disconnect remote).1 _).trans silent
  | subscribe occasion handler => rfl
  | unsubscribe occasion id => rfl
  | arrive remote | arriveFailed failure => simp [told, begin]
  | bring connection receptions =>
      rw [told, begin]
      split <;> simp
  | hangUp connection => simp [told, begin]

theorem told_bound (role : Role) (result : Except Failure Unit) :
    told (receiver.bound role result) = [] := by
  rw [bound]
  split
  · rfl
  · next start _ =>
    generalize (receiver.acceptor.forgetStart role).endStart start result = ends
    obtain ⟨acceptor, ending⟩ := ends
    cases ending <;> rfl

theorem told_commands (commands : List Command) :
    (commands.map Command.deed).flatMap (Deed.told receiver) = [] := by
  rw [List.flatMap_eq_nil_iff, List.forall_mem_map]
  intro command _
  cases command <;> rfl

theorem told_admission (connection : Connection) :
    (admission conduct receiver connection).flatMap (Deed.told receiver) = [] := by
  rw [admission, List.flatMap_append, told_commands]
  split <;> rfl

theorem told_reception (connection : Connection) (data : Bytes) :
    (reception conduct receiver connection data).flatMap (Deed.told receiver) =
      receiver.receiveHandlers.handlers.map fun handler =>
        .received handler { remote := connection.remote, data } := by
  rw [reception, List.flatMap_cons, told_commands, List.append_nil]
  rfl

theorem told_conclusion (loop : Loop) (reason : EndReason) :
    (conclusion conduct receiver loop reason).flatMap (Deed.told receiver) =
      told (receiver.conclude conduct loop reason) := by
  rw [conclusion, told_conclude]
  split
  · rw [List.flatMap_cons, told_commands, List.append_nil]
    rfl
  · rfl

/-- Commands do not change who is told of what. -/
theorem told_complyAll (commands : List Command) :
    Deed.told (receiver.complyAll commands) = Deed.told receiver := by
  funext deed
  cases deed <;> simp [Deed.told]

/-- The loop of a connection tells handlers what its deeds say. -/
theorem told_receive (id : Nat) :
    told (receiver.receive conduct id) =
      ((receiver.awake? id).elim [] (receipt conduct receiver)).flatMap (Deed.told receiver) := by
  cases awake : receiver.awake? id with
  | none =>
      rcases receive_asleep conduct receiver awake with same | ⟨loop, _, _, same⟩ <;>
        rw [same] <;> rfl
  | some loop =>
      have data : told (deliverEach conduct loop (receiver.hears conduct loop) receiver) =
          ((receiver.hears conduct loop).flatMap
            (reception conduct receiver loop.connection)).flatMap (Deed.told receiver) := by
        rw [told_deliverEach, List.flatMap_assoc]
        exact List.flatMap_congr fun data _ =>
          (told_reception conduct receiver loop.connection data).symm
      obtain ⟨bytesReceived, reached⟩ :=
        deliverEach_fst conduct loop receiver (receiver.hears conduct loop)
      rw [receive_awake awake, told_andThen, reached, data, told_endTurn, Option.elim_some, receipt,
        List.flatMap_append]
      congr 1
      rw [complyAll_inflow, withBytes_inflow]
      cases ends : receiver.ends? conduct loop with
      | none =>
          rw [ends?] at ends
          rw [ends]
          rfl
      | some reason =>
          rw [ends?] at ends
          rw [ends, complyAll_withBytes, ← told_complyAll receiver]
          exact (told_conclusion conduct _ loop reason).symm

end Deeds

/-- A receiver and what happened to it so far. -/
structure History (Handler : Type) where
  receiver : DatagramReceiver Handler
  /-- The number of the calls that were made. -/
  calls : Nat := 0
  deeds : List Deed := []

namespace History

/-- A receiver that was just made. -/
def opened (bindAddress : Address) (limits : ReceiveLimits) : History Handler :=
  { receiver := { acceptor := { bindAddress, limits } } }

variable (conduct : Conduct Handler) (history : History Handler)

/-- The turn that an event gives to a task. -/
def turn : Event Handler → ReceiverTurn Handler
  | .call call => (component conduct).start 0 (.caller history.calls) call history.receiver
  | .turn role => (component conduct).resume 0 role history.receiver
  | .answer role result => (component conduct).answer 0 role result history.receiver
  | .abandon role => (component conduct).abandon role history.receiver

def step (event : Event Handler) : History Handler :=
  { receiver := (history.turn conduct event).1
    calls := if event.isCall then history.calls + 1 else history.calls
    deeds := history.deeds ++ deedsOf conduct history.receiver event }

def run (events : List (Event Handler)) : History Handler := events.foldl (step conduct) history

/-- What handlers are told in the turn of an event is what its deeds say. -/
theorem told_turn (event : Event Handler) :
    told (history.turn conduct event) =
      (deedsOf conduct history.receiver event).flatMap (Deed.told history.receiver) := by
  match event with
  | .call call =>
      have silent : (deedsOf conduct history.receiver (.call call)).flatMap
          (Deed.told history.receiver) = [] := by
        cases call <;> rfl
      rw [silent]
      exact told_begin history.receiver _ call
  | .turn (.caller _) => rfl
  | .turn (.acceptLoop socket) =>
      have silent := List.flatMap_eq_nil_iff.mpr fun connection
        (_ : connection ∈ accepts conduct history.receiver socket) =>
          told_admission conduct history.receiver connection
      rw [deedsOf, List.flatMap_assoc, silent]
      exact told_accept conduct history.receiver socket
  | .turn (.receiveLoop id) => exact told_receive conduct history.receiver id
  | .answer role result =>
      have silent : (deedsOf conduct history.receiver (.answer role result)).flatMap
          (Deed.told history.receiver) = [] := by
        rw [deedsOf]
        split <;> rfl
      rw [silent]
      exact told_bound history.receiver role result
  | .abandon role => rfl

theorem run_append (events more : List (Event Handler)) :
    history.run conduct (events ++ more) = (history.run conduct events).run conduct more :=
  List.foldl_append

end History

end DatagramReceiver

end ReliableTransport
