import Mathlib.Data.List.Basic
import ReliableTransport.DatagramReceiver
/-!
This module says what the turns of a receiver come to. Handlers that are called one after the other
do to it what all their commands do together, and a loop passes on what it hears before it looks
whether its connection has ended.
-/

namespace ReliableTransport

namespace DatagramReceiver

variable {Handler : Type}

/-- Tells all loops to end whose numbers are given. -/
def cut (loops : List Loop) (ids : List Nat) : List Loop :=
  loops.map fun loop => if loop.id ∈ ids then { loop with aborted := true } else loop

@[simp] theorem cut_nil (loops : List Loop) : cut loops [] = loops := by simp [cut]

/-- Some remotes have no connection any more, and some loops are told to end. -/
def part (receiver : DatagramReceiver Handler) (leaves : Address → Bool) (ids : List Nat) :
    DatagramReceiver Handler :=
  { receiver with
    endpoints := receiver.endpoints.filter fun entry => !leaves entry.1
    loops := cut receiver.loops ids }

/-- What a command does to a receiver. -/
def comply (receiver : DatagramReceiver Handler) : Command → DatagramReceiver Handler
  | .disconnect remote =>
    receiver.part (· == remote) (receiver.endpoints.lookup remote).toList
  | .stop =>
    { receiver.part (fun _ => true) (receiver.endpoints.map Prod.snd) with
      acceptor := receiver.acceptor.stop.1 }

def complyAll (receiver : DatagramReceiver Handler) (commands : List Command) :
    DatagramReceiver Handler :=
  commands.foldl comply receiver

/-- Some arrivals wait to be accepted. -/
def withArrivals (receiver : DatagramReceiver Handler)
    (arrivals : List (Except Failure Connection)) : DatagramReceiver Handler :=
  { receiver with arrivals }

/-- Some number of bytes was received. -/
def withBytes (receiver : DatagramReceiver Handler) (bytesReceived : UInt64) :
    DatagramReceiver Handler :=
  { receiver with bytesReceived }

@[simp] theorem withArrivals_acceptHandlers (receiver : DatagramReceiver Handler)
    (arrivals : List (Except Failure Connection)) :
    (receiver.withArrivals arrivals).acceptHandlers = receiver.acceptHandlers := rfl

@[simp] theorem withBytes_inflow (receiver : DatagramReceiver Handler) (bytes : UInt64)
    (connection : Nat) : (receiver.withBytes bytes).inflow connection = receiver.inflow connection :=
  rfl

/-- A new connection takes the place of the one that its remote had. -/
def letIn (receiver : DatagramReceiver Handler) (connection : Connection) :
    DatagramReceiver Handler :=
  let parted := receiver.comply (.disconnect connection.remote)
  { parted with
    nextLoop := receiver.nextLoop + 1
    endpoints := parted.endpoints ++ [(connection.remote, receiver.nextLoop)]
    loops := parted.loops ++ [{ id := receiver.nextLoop, connection }] }

/-- A loop is over and its connection with it. -/
def finish (receiver : DatagramReceiver Handler) (loop : Loop) : DatagramReceiver Handler :=
  { receiver with loops := receiver.loops.filter fun other => other.id != loop.id }

namespace Conduct

variable (conduct : Conduct Handler) (handler : Handler) (rest : List Handler)

/-- Whether all handlers let a remote connect. -/
def allows (handlers : List Handler) (remote : Address) : Bool :=
  handlers.all fun handler => (conduct.asked handler remote).1

/-- What handlers do when they are asked about a remote. -/
def onAsked (handlers : List Handler) (remote : Address) : List Command :=
  handlers.flatMap fun handler => (conduct.asked handler remote).2

theorem onAsked_cons (remote : Address) : conduct.onAsked (handler :: rest) remote =
    (conduct.asked handler remote).2 ++ conduct.onAsked rest remote := List.flatMap_cons

/-- What handlers do when they are told of a package. -/
def onReceived (handlers : List Handler) (package : Package) : List Command :=
  handlers.flatMap fun handler => conduct.received handler package

theorem onReceived_cons (package : Package) : conduct.onReceived (handler :: rest) package =
    conduct.received handler package ++ conduct.onReceived rest package := List.flatMap_cons

/-- What handlers do when they are told of the end of a connection. -/
def onEnded (handlers : List Handler) (remote : Address) (reason : EndReason) : List Command :=
  handlers.flatMap fun handler => conduct.ended handler remote reason

theorem onEnded_cons (remote : Address) (reason : EndReason) :
    conduct.onEnded (handler :: rest) remote reason =
      conduct.ended handler remote reason ++ conduct.onEnded rest remote reason :=
  List.flatMap_cons

end Conduct

/-- Handlers are told of something. -/
def Order.tells : Order Handler → Bool
  | .received _ _ | .ended _ _ _ => true
  | _ => false

/-- What handlers are told in a turn, in order. -/
def told (turn : ReceiverTurn Handler) : List (Order Handler) :=
  (Effect.orders turn.2).filter Order.tells

theorem told_andThen (turn : ReceiverTurn Handler)
    (next : DatagramReceiver Handler → ReceiverTurn Handler) :
    told (turn.andThen next) = told turn ++ told (next turn.1) := by
  simp [told]

section Commands

variable (receiver : DatagramReceiver Handler) (task : Role) (commands more : List Command)

theorem abortEach_eq (ids : List Nat) :
    abortEach ids receiver =
      ({ receiver with loops := cut receiver.loops ids },
        ids.map fun id => .ready (.receiveLoop id)) := by
  induction ids generalizing receiver with
  | nil => simp [abortEach]
  | cons id rest ih =>
      have both : cut (receiver.abort id).1.loops rest = cut receiver.loops (id :: rest) := by
        rw [cut, cut, abort, List.map_map]
        refine List.map_congr_left fun loop _ => ?_
        by_cases own : loop.id = id <;> by_cases later : loop.id ∈ rest <;> simp [own, later]
      rw [abortEach, Turn.andThen, ih, both]
      rfl

theorem disconnect_fst (remote : Address) :
    (receiver.disconnect remote).1.1 = receiver.comply (.disconnect remote) := by
  rw [disconnect]
  split
  · next absent =>
    have kept : receiver.endpoints.filter (fun entry => !(entry.1 == remote)) =
        receiver.endpoints := struck_of_absent (absent_of_lookup absent)
    simp [comply, part, absent, kept]
  · next id found => simp [comply, part, found, strike, abort, cut, bne]

theorem stop_fst : (receiver.stop task).1 = receiver.comply .stop := by
  simp [stop, abortEach_eq, comply, part]

theorem obey_fst (command : Command) :
    (receiver.obey task command).1 = receiver.comply command := by
  cases command with
  | disconnect remote => exact receiver.disconnect_fst remote
  | stop => exact receiver.stop_fst task

@[simp] theorem complyAll_nil : receiver.complyAll [] = receiver := rfl

@[simp] theorem complyAll_cons (command : Command) :
    receiver.complyAll (command :: commands) = (receiver.comply command).complyAll commands := rfl

theorem complyAll_append :
    receiver.complyAll (commands ++ more) = (receiver.complyAll commands).complyAll more :=
  List.foldl_append

theorem obeyEach_fst : (receiver.obeyEach task commands).1 = receiver.complyAll commands := by
  induction commands generalizing receiver with
  | nil => rfl
  | cons command rest ih => rw [obeyEach, Turn.andThen_fst, ih, obey_fst, complyAll_cons]

/-- Commands change nothing but the acceptor, the table and the loops. -/
theorem complyAll_frame : ∃ acceptor endpoints loops,
    receiver.complyAll commands = { receiver with acceptor, endpoints, loops } := by
  induction commands generalizing receiver with
  | nil => exact ⟨_, _, _, rfl⟩
  | cons command rest ih =>
      obtain ⟨acceptor, endpoints, loops, same⟩ := ih (receiver.comply command)
      cases command <;> exact ⟨acceptor, endpoints, loops, same⟩

@[simp] theorem complyAll_arrivals : (receiver.complyAll commands).arrivals = receiver.arrivals := by
  obtain ⟨_, _, _, same⟩ := receiver.complyAll_frame commands
  rw [same]

@[simp] theorem complyAll_acceptHandlers :
    (receiver.complyAll commands).acceptHandlers = receiver.acceptHandlers := by
  obtain ⟨_, _, _, same⟩ := receiver.complyAll_frame commands
  rw [same]

@[simp] theorem complyAll_receiveHandlers :
    (receiver.complyAll commands).receiveHandlers = receiver.receiveHandlers := by
  obtain ⟨_, _, _, same⟩ := receiver.complyAll_frame commands
  rw [same]

@[simp] theorem complyAll_endHandlers :
    (receiver.complyAll commands).endHandlers = receiver.endHandlers := by
  obtain ⟨_, _, _, same⟩ := receiver.complyAll_frame commands
  rw [same]

@[simp] theorem complyAll_inflow (connection : Nat) :
    (receiver.complyAll commands).inflow connection = receiver.inflow connection := by
  obtain ⟨_, _, _, same⟩ := receiver.complyAll_frame commands
  rw [same]
  rfl

/-- Commands do the same whatever waits to be accepted. -/
theorem complyAll_withArrivals (arrivals : List (Except Failure Connection)) :
    (receiver.withArrivals arrivals).complyAll commands =
      (receiver.complyAll commands).withArrivals arrivals := by
  induction commands generalizing receiver with
  | nil => rfl
  | cons command rest ih =>
      cases command with
      | disconnect remote => exact ih (receiver.comply (.disconnect remote))
      | stop => exact ih (receiver.comply .stop)

/-- Commands do the same however much was received. -/
theorem complyAll_withBytes (bytes : UInt64) :
    (receiver.withBytes bytes).complyAll commands =
      (receiver.complyAll commands).withBytes bytes := by
  induction commands generalizing receiver with
  | nil => rfl
  | cons command rest ih =>
      cases command with
      | disconnect remote => exact ih (receiver.comply (.disconnect remote))
      | stop => exact ih (receiver.comply .stop)

theorem told_stop : told (receiver.stop task) = [] := by
  cases active : receiver.acceptor.active <;>
    simp [told, stop, abortEach_eq, Acceptor.stop, active, Effect.orders, Order.tells]

theorem told_disconnect (remote : Address) : told (receiver.disconnect remote).1 = [] := by
  rw [disconnect]
  split <;> rfl

theorem told_obeyEach : told (receiver.obeyEach task commands) = [] := by
  induction commands generalizing receiver with
  | nil => rfl
  | cons command rest ih =>
      have first : told (receiver.obey task command) = [] := by
        cases command with
        | disconnect remote =>
            refine (told_andThen (receiver.disconnect remote).1 _).trans ?_
            rw [told_disconnect]
            rfl
        | stop => exact receiver.told_stop task
      rw [obeyEach, told_andThen, first, ih]
      rfl

end Commands

section Handlers

variable (conduct : Conduct Handler) (task : Role) (handlers : List Handler)
  (receiver : DatagramReceiver Handler)

theorem askEach_fst (remote : Address) :
    (askEach conduct task remote handlers receiver).1.1 =
      receiver.complyAll (conduct.onAsked handlers remote) := by
  induction handlers generalizing receiver with
  | nil => rfl
  | cons handler rest ih =>
      have goesOn : (askEach conduct task remote (handler :: rest) receiver).1.1 =
          (askEach conduct task remote rest
            (receiver.obeyEach task (conduct.asked handler remote).2).1).1.1 := rfl
      rw [goesOn, ih, obeyEach_fst, Conduct.onAsked_cons, complyAll_append]

theorem askEach_snd (remote : Address) :
    (askEach conduct task remote handlers receiver).2 = conduct.allows handlers remote := by
  induction handlers generalizing receiver with
  | nil => rfl
  | cons handler rest ih =>
      exact congrArg ((conduct.asked handler remote).1 && ·)
        (ih (receiver.obeyEach task (conduct.asked handler remote).2).1)

theorem told_askEach (remote : Address) :
    told (askEach conduct task remote handlers receiver).1 = [] := by
  induction handlers generalizing receiver with
  | nil => rfl
  | cons handler rest ih =>
      have first := receiver.told_obeyEach task (conduct.asked handler remote).2
      have others := ih (receiver.obeyEach task (conduct.asked handler remote).2).1
      rw [told] at first others
      simp [askEach, told, Order.tells, first, others]

theorem tellEach_fst (package : Package) :
    (tellEach conduct task package handlers receiver).1 =
      receiver.complyAll (conduct.onReceived handlers package) := by
  induction handlers generalizing receiver with
  | nil => rfl
  | cons handler rest ih =>
      rw [tellEach, Turn.andThen_fst, ih, Turn.andThen_fst, obeyEach_fst,
        Conduct.onReceived_cons, complyAll_append]

theorem told_tellEach (package : Package) :
    told (tellEach conduct task package handlers receiver) =
      handlers.map fun handler => .received handler package := by
  induction handlers generalizing receiver with
  | nil => rfl
  | cons handler rest ih =>
      rw [tellEach, told_andThen, told_andThen, told_obeyEach, ih]
      rfl

theorem tellEndEach_fst (remote : Address) (reason : EndReason) :
    (tellEndEach conduct task remote reason handlers receiver).1 =
      receiver.complyAll (conduct.onEnded handlers remote reason) := by
  induction handlers generalizing receiver with
  | nil => rfl
  | cons handler rest ih =>
      rw [tellEndEach, Turn.andThen_fst, ih, Turn.andThen_fst, obeyEach_fst,
        Conduct.onEnded_cons, complyAll_append]

theorem told_tellEndEach (remote : Address) (reason : EndReason) :
    told (tellEndEach conduct task remote reason handlers receiver) =
      handlers.map fun handler => .ended handler remote reason := by
  induction handlers generalizing receiver with
  | nil => rfl
  | cons handler rest ih =>
      rw [tellEndEach, told_andThen, told_andThen, told_obeyEach, ih]
      rfl

end Handlers

section Accepting

variable (conduct : Conduct Handler) (task : Role) (connection : Connection)
  (receiver : DatagramReceiver Handler)

/-- The number of a new loop is none that is told to end. -/
theorem register_fst
    (fresh : receiver.endpoints.lookup connection.remote ≠ some receiver.nextLoop) :
    (receiver.register connection).1 = receiver.letIn connection := by
  rw [register, Turn.andThen_fst, abortEach_eq]
  simp [letIn, comply, part, cut, strike, bne, fresh]

/-- Handlers are asked first, and what they do is done before they are heeded. -/
theorem takeOver_fst :
    (receiver.takeOver conduct task connection).1 =
      let handlers := receiver.acceptHandlers.handlers
      let asked := receiver.complyAll (conduct.onAsked handlers connection.remote)
      if conduct.allows handlers connection.remote then (asked.register connection).1
      else (asked.release task connection).1 := by
  rw [takeOver, Turn.andThen_fst, askEach_fst, askEach_snd]
  exact apply_ite Prod.fst _ _ _

theorem told_takeOver : told (receiver.takeOver conduct task connection) = [] := by
  rw [takeOver, told_andThen, told_askEach, List.nil_append]
  split
  · simp [told, register, abortEach_eq, Effect.orders]
  · rfl

theorem told_acceptEach (socket share : Nat) (arrivals : List (Except Failure Connection)) :
    told (acceptEach conduct socket share arrivals receiver) = [] := by
  induction share generalizing arrivals receiver with
  | zero => rfl
  | succ share ih =>
      match arrivals with
      | [] => rfl
      | .error failure :: rest =>
          rw [acceptEach]
          split
          · exact ih _ rest
          · rfl
      | .ok connection :: rest =>
          rw [acceptEach, told_andThen, told_takeOver, List.nil_append]
          split
          · exact ih _ rest
          · rfl

theorem told_accept (socket : Nat) : told (receiver.accept conduct socket) = [] := by
  rw [accept]
  split
  · exact told_acceptEach conduct receiver socket conduct.shares.arrivals receiver.arrivals
  · rfl

end Accepting

/-- What a loop hears in one turn, of all that has come in. -/
def heard : Nat → List (Except IoKind Bytes) → List Bytes
  | share + 1, .ok data :: rest => data :: heard share rest
  | _, _ => []

/-- Why a connection ends when its loop has heard that, if it does. -/
def ending? (closed : Bool) : Nat → List (Except IoKind Bytes) → Option EndReason
  | 0, _ => none
  | _ + 1, [] => if closed then some .closed else none
  | _ + 1, .error kind :: _ => some (.failed kind)
  | share + 1, .ok _ :: rest => ending? closed share rest

theorem length_heard_le (share : Nat) (receptions : List (Except IoKind Bytes)) :
    (heard share receptions).length ≤ share := by
  fun_induction heard share receptions with
  | case1 share data rest ih => exact Nat.succ_le_succ ih
  | case2 => exact Nat.zero_le _

section Receiving

variable (conduct : Conduct Handler) (loop : Loop) (receiver : DatagramReceiver Handler)

/-- A loop passes on what it has heard. -/
def deliverEach : List Bytes → DatagramReceiver Handler → ReceiverTurn Handler
  | [], receiver => (receiver, [])
  | data :: rest, receiver =>
    Turn.andThen
      (receiver.deliver conduct (.receiveLoop loop.id) { remote := loop.connection.remote, data })
      (deliverEach rest)

/-- How a loop ends its turn when it has passed on what it heard. -/
def endTurn (share : Nat) (receptions : List (Except IoKind Bytes)) : ReceiverTurn Handler :=
  match ending? (receiver.inflow loop.connection.number).closed share receptions with
  | some reason => receiver.conclude conduct loop reason
  | none =>
    receiver.pause loop (receptions.drop share)
      (if (heard share receptions).length = share then [.aside (.receiveLoop loop.id)] else [])

/-- A loop passes on all that it hears in a turn before it looks at anything else. -/
theorem receiveEach_eq (share : Nat) (receptions : List (Except IoKind Bytes)) :
    receiveEach conduct loop share receptions receiver =
      Turn.andThen (deliverEach conduct loop (heard share receptions) receiver) fun receiver =>
        receiver.endTurn conduct loop share receptions := by
  induction share generalizing receptions receiver with
  | zero => simp [receiveEach, heard, deliverEach, endTurn, ending?, Turn.andThen]
  | succ share ih =>
      cases receptions with
      | nil =>
          cases closed : (receiver.inflow loop.connection.number).closed <;>
            simp [receiveEach, heard, deliverEach, endTurn, ending?, Turn.andThen, closed]
      | cons first rest =>
          cases first with
          | error kind => simp [receiveEach, heard, deliverEach, endTurn, ending?, Turn.andThen]
          | ok data =>
              have same : (fun receiver : DatagramReceiver Handler =>
                  receiver.endTurn conduct loop (share + 1) (.ok data :: rest)) =
                  fun receiver => receiver.endTurn conduct loop share rest := by
                funext receiver
                simp [endTurn, ending?, heard]
              rw [receiveEach, heard, deliverEach, Turn.andThen_assoc, same]
              exact congrArg _ (funext fun receiver => ih receiver rest)

/-- What handlers do when they are told of all that a loop has heard. -/
def Conduct.onHeard (handlers : List Handler) (remote : Address) (data : List Bytes) :
    List Command :=
  data.flatMap fun data => conduct.onReceived handlers { remote, data }

theorem Conduct.onHeard_cons (handlers : List Handler) (remote : Address) (data : Bytes)
    (rest : List Bytes) :
    conduct.onHeard handlers remote (data :: rest) =
      conduct.onReceived handlers { remote, data } ++ conduct.onHeard handlers remote rest :=
  List.flatMap_cons

theorem deliver_fst (task : Role) (package : Package) :
    (receiver.deliver conduct task package).1 =
      (receiver.withBytes (receiver.bytesReceived + UInt64.ofNat package.data.length)).complyAll
        (conduct.onReceived receiver.receiveHandlers.handlers package) :=
  tellEach_fst conduct task receiver.receiveHandlers.handlers _ package

/-- Apart from the bytes that it counts, a receiver that passes data on is left as handlers leave
it. -/
theorem deliverEach_fst (data : List Bytes) : ∃ bytes,
    (deliverEach conduct loop data receiver).1 =
      (receiver.withBytes bytes).complyAll
        (conduct.onHeard receiver.receiveHandlers.handlers loop.connection.remote data) := by
  induction data generalizing receiver with
  | nil => exact ⟨_, rfl⟩
  | cons first rest ih =>
      obtain ⟨bytes, same⟩ := ih (receiver.deliver conduct (.receiveLoop loop.id)
        { remote := loop.connection.remote, data := first }).1
      refine ⟨bytes, ?_⟩
      rw [deliverEach, Turn.andThen_fst, same, deliver_fst, complyAll_receiveHandlers,
        ← complyAll_withBytes, Conduct.onHeard_cons, complyAll_append]
      rfl

theorem told_deliverEach (data : List Bytes) :
    told (deliverEach conduct loop data receiver) =
      data.flatMap fun data => receiver.receiveHandlers.handlers.map fun handler =>
        .received handler { remote := loop.connection.remote, data } := by
  induction data generalizing receiver with
  | nil => rfl
  | cons first rest ih =>
      have handlers : (receiver.deliver conduct (.receiveLoop loop.id)
          { remote := loop.connection.remote, data := first }).1.receiveHandlers =
          receiver.receiveHandlers := by
        rw [deliver_fst, complyAll_receiveHandlers]
        rfl
      rw [deliverEach, told_andThen, ih, handlers, List.flatMap_cons, deliver, told_tellEach]

theorem told_endLoop : told (receiver.endLoop loop) = [] := rfl

/-- Handlers are told of the end of a connection only if it has its place in the table. -/
theorem told_conclude (reason : EndReason) :
    told (receiver.conclude conduct loop reason) =
      if receiver.endpoints.lookup loop.connection.remote = some loop.id then
        receiver.endHandlers.handlers.map fun handler =>
          .ended handler loop.connection.remote reason
      else [] := by
  rw [conclude, told_andThen, told_endLoop, List.nil_append]
  have kept : (receiver.endLoop loop).1.endpoints = receiver.endpoints := rfl
  rw [kept]
  split
  · exact told_tellEndEach conduct _ _ _ _ _
  · rfl

theorem told_pause (share : Nat) (receptions : List (Except IoKind Bytes)) :
    told (receiver.pause loop (receptions.drop share)
      (if (heard share receptions).length = share then [.aside (.receiveLoop loop.id)] else [])) =
      [] := by
  rw [pause]
  split
  · exact told_endLoop loop receiver
  · split <;> rfl

theorem told_endTurn (share : Nat) (receptions : List (Except IoKind Bytes)) :
    told (receiver.endTurn conduct loop share receptions) =
      match ending? (receiver.inflow loop.connection.number).closed share receptions with
      | none => []
      | some reason => told (receiver.conclude conduct loop reason) := by
  rw [endTurn]
  split
  · next ends => rw [ends]
  · next goesOn => rw [goesOn, told_pause]

end Receiving

end DatagramReceiver

end ReliableTransport
