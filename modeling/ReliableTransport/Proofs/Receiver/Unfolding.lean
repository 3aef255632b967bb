import ReliableTransport.Proofs.Receiver.Moments
/-!
This module says that the turns of a receiver are runs of moments. A loop of a socket accepts its
share of connections one by one. A loop of a connection takes what has come in bit by bit, though
what is left is only put down at the end of its turn.
-/

namespace ReliableTransport

namespace DatagramReceiver

variable {Handler : Type}

/-- Some moments, one after the other, come to the same as a turn in which connections bring
something. -/
def Comprises (receiver : DatagramReceiver Handler) (turn : ReceiverTurn Handler)
    (brought : List (Nat × Except IoKind Bytes)) : Prop :=
  ∃ moments : List (Moment Handler), ∀ relay : Relay Handler, relay.receiver = receiver →
    (relay.run moments).receiver = turn.1 ∧
      (relay.run moments).orders = relay.orders ++ Effect.orders turn.2 ∧
      (relay.run moments).brought = relay.brought ++ brought

namespace Comprises

variable {receiver after : DatagramReceiver Handler} {turn : ReceiverTurn Handler}
  {effects : List (Effect Role (Order Handler) Reply)}
  {brought : List (Nat × Except IoKind Bytes)}

/-- Nothing need happen for a turn that does nothing. -/
theorem nothing (quiet : Effect.orders effects = []) :
    Comprises receiver (receiver, effects) [] := by
  refine ⟨[], fun relay same => ⟨same, ?_, (List.append_nil _).symm⟩⟩
  rw [quiet, List.append_nil]
  rfl

theorem moment (receiver : DatagramReceiver Handler) (moment : Moment Handler) :
    Comprises receiver (moment.turn receiver) (moment.brings receiver) := by
  refine ⟨[moment], fun relay same => ?_⟩
  subst same
  exact ⟨rfl, rfl, rfl⟩

/-- A turn comes to the same as two others, one after the other. -/
theorem both {later whole : ReceiverTurn Handler} (first : Comprises receiver turn brought)
    (second : Comprises turn.1 later []) (same : whole.1 = later.1)
    (orders : Effect.orders whole.2 = Effect.orders turn.2 ++ Effect.orders later.2) :
    Comprises receiver whole brought := by
  obtain ⟨moments, reaches⟩ := first
  obtain ⟨more, goesOn⟩ := second
  refine ⟨moments ++ more, fun relay is => ?_⟩
  obtain ⟨there, former, log⟩ := reaches relay is
  obtain ⟨further, others, none⟩ := goesOn (relay.run moments) there
  rw [List.append_nil, log] at none
  rw [Relay.run_append, same, orders, ← List.append_assoc, ← former]
  exact ⟨further, others, none⟩

end Comprises

section Accepting

variable (conduct : Conduct Handler) (socket : Nat) {receiver : DatagramReceiver Handler}

/-- A loop lets a connection go that was reset, and ends at any other failure. -/
theorem turn_accept_failed {failure : Failure} {rest : List (Except Failure Connection)}
    (goesOn : receiver.acceptor.goesOn socket = true)
    (arrivals : receiver.arrivals = .error failure :: rest) :
    (Moment.accept conduct socket).turn receiver =
      if Acceptor.isReset failure then
        (receiver.withArrivals rest, [.aside (.acceptLoop socket)])
      else (receiver.withArrivals rest).endAccepting socket := by
  rw [Moment.turn, if_pos goesOn, arrivals]
  rfl

/-- A loop accepts its share of the arrivals one by one. -/
theorem acceptEach_comprises (share : Nat) (arrivals : List (Except Failure Connection))
    (receiver : DatagramReceiver Handler) (goesOn : receiver.acceptor.goesOn socket = true) :
    Comprises (receiver.withArrivals arrivals)
      (acceptEach conduct socket share arrivals receiver) [] := by
  induction share generalizing arrivals receiver with
  | zero => exact .nothing rfl
  | succ share ih =>
      have first := Comprises.moment (receiver.withArrivals arrivals) (.accept conduct socket)
      have waits : (receiver.withArrivals arrivals).acceptor.goesOn socket = true := goesOn
      match arrivals with
      | [] => exact .nothing rfl
      | .error failure :: rest =>
          rw [turn_accept_failed conduct socket waits rfl] at first
          rw [acceptEach]
          split at first
          next reset =>
            rw [if_pos reset]
            exact first.both (ih rest (receiver.withArrivals rest) goesOn) rfl rfl
          next broken =>
            rw [if_neg broken]
            exact first
      | .ok connection :: rest =>
          rw [turn_accept _ waits rfl] at first
          have moved : (receiver.withArrivals (.ok connection :: rest)).withArrivals rest =
              receiver.withArrivals rest := rfl
          have parts : acceptEach conduct socket (share + 1) (.ok connection :: rest) receiver =
              Turn.andThen
                ((receiver.withArrivals rest).takeOver conduct (.acceptLoop socket) connection)
                fun receiver =>
                  if receiver.acceptor.goesOn socket then
                    acceptEach conduct socket share rest receiver
                  else receiver.endAccepting socket := rfl
          rw [parts]
          rw [moved] at first
          generalize (receiver.withArrivals rest).takeOver conduct (.acceptLoop socket) connection =
            turn at first ⊢
          by_cases stays : turn.1.acceptor.goesOn socket = true
          · simp only [Turn.andThen, if_pos stays] at first ⊢
            refine first.both (ih rest turn.1 stays) rfl ?_
            rw [Effect.orders_append, Effect.orders_append, List.append_assoc]
            rfl
          · simp only [Turn.andThen, if_neg stays] at first ⊢
            exact first

end Accepting

section Receiving

/-- What comes in on connections is put down elsewhere. -/
def withInflows (receiver : DatagramReceiver Handler) (inflows : List (Nat × Inflow)) :
    DatagramReceiver Handler :=
  { receiver with inflows }

/-- A turn with what comes in on connections put down elsewhere. -/
def carry (inflows : List (Nat × Inflow)) (turn : ReceiverTurn Handler) : ReceiverTurn Handler :=
  (turn.1.withInflows inflows, turn.2)

theorem carry_andThen (inflows : List (Nat × Inflow)) (turn : ReceiverTurn Handler)
    {next other : DatagramReceiver Handler → ReceiverTurn Handler}
    (same : next (turn.1.withInflows inflows) = carry inflows (other turn.1)) :
    (carry inflows turn).andThen next = carry inflows (turn.andThen other) := by
  rw [Turn.andThen, carry, same]
  rfl

variable (receiver : DatagramReceiver Handler) (inflows : List (Nat × Inflow)) (task : Role)
  (conduct : Conduct Handler)

theorem disconnect_withInflows (remote : Address) :
    (receiver.withInflows inflows).disconnect remote =
      (carry inflows (receiver.disconnect remote).1, (receiver.disconnect remote).2) := by
  have same : (receiver.withInflows inflows).endpoints = receiver.endpoints := rfl
  rw [disconnect, disconnect, same]
  cases receiver.endpoints.lookup remote <;> rfl

theorem stop_withInflows :
    (receiver.withInflows inflows).stop task = carry inflows (receiver.stop task) := by
  simp only [stop, abortEach_eq, Turn.andThen]
  rfl

theorem obeyEach_withInflows (commands : List Command) :
    (receiver.withInflows inflows).obeyEach task commands =
      carry inflows (receiver.obeyEach task commands) := by
  induction commands generalizing receiver with
  | nil => rfl
  | cons command rest ih =>
      have first : (receiver.withInflows inflows).obey task command =
          carry inflows (receiver.obey task command) := by
        cases command with
        | stop => exact receiver.stop_withInflows inflows task
        | disconnect remote =>
            rw [obey, disconnect_withInflows]
            exact carry_andThen inflows _ rfl
      rw [obeyEach, first]
      exact carry_andThen inflows _ (ih _)

theorem tellEach_withInflows (package : Package) (handlers : List Handler) :
    tellEach conduct task package handlers (receiver.withInflows inflows) =
      carry inflows (tellEach conduct task package handlers receiver) := by
  induction handlers generalizing receiver with
  | nil => rfl
  | cons handler rest ih =>
      let call : Effect Role (Order Handler) Reply := .order task (.received handler package)
      have first : Turn.andThen (receiver.withInflows inflows, [call])
          (obeyEach task (conduct.received handler package)) =
          carry inflows (Turn.andThen (receiver, [call])
            (obeyEach task (conduct.received handler package))) :=
        carry_andThen inflows (receiver, _) (receiver.obeyEach_withInflows inflows task _)
      rw [tellEach, first]
      exact carry_andThen inflows _ (ih _)

theorem deliver_withInflows (package : Package) :
    (receiver.withInflows inflows).deliver conduct task package =
      carry inflows (receiver.deliver conduct task package) := by
  rw [deliver, deliver, ← tellEach_withInflows]
  rfl

/-- The loop is not over, though it may have been told to end. -/
def Runs (loop : Loop) : Prop := ∃ aborted, receiver.loop? loop.id = some { loop with aborted }

variable {receiver} {loop : Loop}

theorem Runs.comply (runs : receiver.Runs loop) (command : Command) :
    (receiver.comply command).Runs loop := by
  obtain ⟨aborted, found⟩ := runs
  have cutting (ids : List Nat) : ∃ aborted, (cut receiver.loops ids).find?
      (fun other => other.id = loop.id) = some { loop with aborted } := by
    have kept : ((fun other : Loop => decide (other.id = loop.id)) ∘ fun other : Loop =>
        if other.id ∈ ids then { other with aborted := true } else other) =
        fun other => decide (other.id = loop.id) := by
      funext other
      rw [Function.comp_apply]
      split <;> rfl
    rw [cut, List.find?_map, kept]
    rw [loop?] at found
    rw [found, Option.map_some]
    split
    · exact ⟨true, rfl⟩
    · exact ⟨aborted, rfl⟩
  cases command with
  | disconnect remote => exact cutting _
  | stop => exact cutting _

theorem Runs.complyAll (runs : receiver.Runs loop) (commands : List Command) :
    (receiver.complyAll commands).Runs loop := by
  induction commands generalizing receiver with
  | nil => exact runs
  | cons command rest ih => exact ih (runs.comply command)

theorem Runs.deliver (runs : receiver.Runs loop) (package : Package) :
    (receiver.deliver conduct task package).1.Runs loop := by
  rw [deliver_fst]
  have counted : (receiver.withBytes
      (receiver.bytesReceived + UInt64.ofNat package.data.length)).Runs loop := runs
  exact counted.complyAll _

variable (receiver)

theorem left_left (connection : Nat) (receptions rest : List (Except IoKind Bytes)) :
    (receiver.left connection receptions).left connection rest = receiver.left connection rest := by
  rw [left, left, left, changeInflow, changeInflow, changeInflow]
  dsimp only
  rw [List.map_map]
  congr 1
  refine List.map_congr_left fun entry _ => ?_
  by_cases own : entry.1 = connection <;> simp [own]

/-- What comes in on a connection does not matter to a loop that lets go of it. -/
theorem endLoop_left (loop : Loop) (receptions : List (Except IoKind Bytes)) :
    (receiver.left loop.connection.number receptions).endLoop loop = receiver.endLoop loop := by
  have same : (receiver.left loop.connection.number receptions).inflows.filter
      (fun entry => entry.1 != loop.connection.number) =
      receiver.inflows.filter fun entry => entry.1 != loop.connection.number := by
    rw [left, changeInflow]
    dsimp only
    induction receiver.inflows with
    | nil => rfl
    | cons entry rest ih =>
        rw [List.map_cons]
        by_cases own : entry.1 = loop.connection.number <;> simp [own, ih]
  rw [endLoop, endLoop, release, release, same]
  rfl

theorem conclude_left (loop : Loop) (reason : EndReason)
    (receptions : List (Except IoKind Bytes)) :
    (receiver.left loop.connection.number receptions).conclude conduct loop reason =
      receiver.conclude conduct loop reason := by
  rw [conclude, conclude, endLoop_left]

/-- What was put down for a connection is what comes in there. -/
theorem inflow_left {connection : Nat} {receptions : List (Except IoKind Bytes)}
    (held : (receiver.inflows.lookup connection).isSome ∨ receptions = []) :
    (receiver.left connection receptions).inflow connection =
      { receiver.inflow connection with receptions } := by
  have lookup := receiver.lookup_changeInflow connection connection fun inflow =>
    { inflow with receptions }
  rw [if_pos rfl] at lookup
  rw [inflow, left, lookup, inflow]
  cases found : receiver.inflows.lookup connection with
  | some inflow => rfl
  | none =>
      rw [found] at held
      obtain rfl := held.resolve_left Bool.false_ne_true
      rfl

theorem deliver_inflows (package : Package) :
    (receiver.deliver conduct task package).1.inflows = receiver.inflows := by
  rw [deliver_fst]
  obtain ⟨_, _, _, same⟩ := (receiver.withBytes _).complyAll_frame
    (conduct.onReceived receiver.receiveHandlers.handlers package)
  rw [same]
  rfl

theorem deliver_left (package : Package) (connection : Nat)
    (receptions : List (Except IoKind Bytes)) :
    (receiver.left connection receptions).deliver conduct task package =
      ((receiver.deliver conduct task package).1.left connection receptions,
        (receiver.deliver conduct task package).2) := by
  have elsewhere := receiver.deliver_withInflows (receiver.left connection receptions).inflows task
    conduct package
  have same := receiver.deliver_inflows task conduct package
  generalize receiver.deliver conduct task package = turn at elsewhere same ⊢
  refine elsewhere.trans ?_
  rw [carry, left, left, changeInflow, changeInflow, same]
  rfl

variable {receiver} {connection : Nat} {receptions : List (Except IoKind Bytes)}

/-- A loop that runs may take something. -/
theorem Runs.take_comprises (runs : receiver.Runs loop) :
    Comprises receiver (receiver.take conduct loop) [] := by
  obtain ⟨aborted, found⟩ := runs
  have moment := Comprises.moment receiver (.hear conduct loop.id)
  rw [Moment.turn, found] at moment
  exact moment

/-- A loop that pauses ends there if it was told to. -/
theorem Runs.pause_comprises (runs : receiver.Runs loop)
    {effects : List (Effect Role (Order Handler) Reply)} (quiet : Effect.orders effects = []) :
    Comprises (receiver.left loop.connection.number receptions)
      (receiver.pause loop receptions effects) [] := by
  obtain ⟨aborted, found⟩ := runs
  rw [pause, isAborted, found]
  cases aborted with
  | false => exact .nothing quiet
  | true =>
      have moment := Comprises.moment (receiver.left loop.connection.number receptions)
        (.quit loop.id)
      rw [Moment.turn, show (receiver.left loop.connection.number receptions).loop? loop.id =
        some { loop with aborted := true } from found] at moment
      exact (endLoop_left receiver loop receptions) ▸ moment

/-- A loop takes its share of what has come in one by one. -/
theorem Runs.receiveEach_comprises (share : Nat) (runs : receiver.Runs loop)
    (held : (receiver.inflows.lookup loop.connection.number).isSome ∨ receptions = []) :
    Comprises (receiver.left loop.connection.number receptions)
      (receiveEach conduct loop share receptions receiver) [] := by
  induction share generalizing receptions receiver with
  | zero => exact runs.pause_comprises rfl
  | succ share ih =>
      have first : Comprises (receiver.left loop.connection.number receptions)
          ((receiver.left loop.connection.number receptions).take conduct loop) [] :=
        Runs.take_comprises conduct runs
      rw [take, inflow_left _ held] at first
      cases receptions with
      | nil =>
          dsimp only at first
          rw [conclude_left] at first
          rw [receiveEach]
          split at first
          next closed =>
            rw [if_pos closed]
            exact first
          next waits =>
            rw [if_neg waits]
            exact runs.pause_comprises rfl
      | cons reception rest =>
          cases reception with
          | error kind =>
              dsimp only at first
              rw [conclude_left] at first
              exact first
          | ok data =>
              dsimp only at first
              rw [left_left, deliver_left] at first
              have inflows := receiver.deliver_inflows (.receiveLoop loop.id) conduct
                { remote := loop.connection.remote, data }
              rw [receiveEach, Turn.andThen]
              refine first.both (ih (runs.deliver _ conduct _) ?_) rfl (Effect.orders_append _ _)
              rw [inflows]
              exact .inl (held.resolve_right (List.cons_ne_nil _ _))

end Receiving

/-- A connection that nobody holds has nothing to be taken. -/
theorem receptions_held (receiver : DatagramReceiver Handler) (connection : Nat) :
    (receiver.inflows.lookup connection).isSome ∨
      (receiver.inflow connection).receptions = [] := by
  rw [inflow]
  cases receiver.inflows.lookup connection with
  | none => exact .inr rfl
  | some inflow => exact .inl rfl

/-- What comes in on a connection is put down as it is. -/
theorem left_inflow (receiver : DatagramReceiver Handler)
    (distinct : (receiver.inflows.map Prod.fst).Nodup) (connection : Nat) :
    receiver.left connection (receiver.inflow connection).receptions = receiver := by
  have same : (receiver.left connection (receiver.inflow connection).receptions).inflows =
      receiver.inflows := by
    rw [left, changeInflow]
    refine (List.map_congr_left fun entry among => ?_).trans (List.map_id receiver.inflows)
    by_cases own : entry.1 = connection
    · subst own
      rw [if_pos rfl, inflow, lookup_of_mem distinct among]
      rfl
    · rw [if_neg own]
      rfl
  exact congrArg receiver.withInflows same

/-- What a connection brings with an event. -/
def History.brings (history : History Handler) :
    Event Handler → List (Nat × Except IoKind Bytes)
  | .call made => (Moment.call history.calls made).brings history.receiver
  | _ => []

/-- A turn is a run of moments, as long as every connection has its own place. -/
theorem turn_comprises (conduct : Conduct Handler) (history : History Handler)
    (distinct : (history.receiver.inflows.map Prod.fst).Nodup) (event : Event Handler) :
    Comprises history.receiver (history.turn conduct event) (history.brings event) := by
  obtain ⟨receiver, calls, deeds⟩ := history
  match event with
  | .call made => exact .moment receiver (.call calls made)
  | .answer role result => exact .moment receiver (.answer role result)
  | .abandon role => exact .moment receiver (.abandon role)
  | .turn (.caller number) => exact .nothing rfl
  | .turn (.acceptLoop socket) =>
      have turn : (⟨receiver, calls, deeds⟩ : History Handler).turn conduct
          (.turn (.acceptLoop socket)) = receiver.accept conduct socket := rfl
      rw [turn, accept]
      split
      next goesOn =>
        exact acceptEach_comprises conduct socket conduct.shares.arrivals receiver.arrivals
          receiver goesOn
      next halted =>
        have moment := Comprises.moment receiver (.accept conduct socket)
        rw [Moment.turn, if_neg halted] at moment
        exact moment
  | .turn (.receiveLoop id) =>
      have turn : (⟨receiver, calls, deeds⟩ : History Handler).turn conduct
          (.turn (.receiveLoop id)) = receiver.receive conduct id := rfl
      rw [turn, receive]
      cases found : receiver.loop? id with
      | none => exact .nothing rfl
      | some loop =>
          obtain rfl : loop.id = id := by simpa using List.find?_some found
          dsimp only
          split
          next aborted =>
            have moment := Comprises.moment receiver (.quit loop.id)
            rw [Moment.turn, found] at moment
            dsimp only at moment
            rw [if_pos aborted] at moment
            exact moment
          next =>
            have taken := Runs.receiveEach_comprises conduct conduct.shares.receptions
              ⟨loop.aborted, found⟩ (receptions_held receiver loop.connection.number)
            rw [left_inflow receiver distinct] at taken
            exact taken

/-- A receiver whose tasks took their turns, with what was seen of it outside. -/
structure Chronicle (Handler : Type) where
  history : History Handler
  /-- What connections brought, each with its number. -/
  brought : List (Nat × Except IoKind Bytes) := []
  /-- What the receiver did outside. -/
  orders : List (Order Handler) := []

namespace Chronicle

/-- A receiver that was just made. -/
def opened (bindAddress : Address) (limits : ReceiveLimits) : Chronicle Handler :=
  { history := .opened bindAddress limits }

/-- The turn that an event gives to a task, with how handlers behave in it. -/
def step (chronicle : Chronicle Handler) (occurrence : Conduct Handler × Event Handler) :
    Chronicle Handler where
  history := chronicle.history.step occurrence.1 occurrence.2
  brought := chronicle.brought ++ chronicle.history.brings occurrence.2
  orders := chronicle.orders ++ Effect.orders (chronicle.history.turn occurrence.1 occurrence.2).2

def run (chronicle : Chronicle Handler) (occurrences : List (Conduct Handler × Event Handler)) :
    Chronicle Handler :=
  occurrences.foldl step chronicle

/-- What tasks do in their turns is what happens in some moments. -/
theorem run_moments (bindAddress : Address) (limits : ReceiveLimits)
    (occurrences : List (Conduct Handler × Event Handler)) :
    ∃ moments : List (Moment Handler),
      let chronicle := (opened bindAddress limits).run occurrences
      let reached := (Relay.opened bindAddress limits).run moments
      reached.receiver = chronicle.history.receiver ∧ reached.orders = chronicle.orders ∧
        reached.brought = chronicle.brought := by
  induction occurrences using List.reverseRecOn with
  | nil => exact ⟨[], rfl, rfl, rfl⟩
  | append_singleton occurrences occurrence ih =>
      obtain ⟨moments, there, orders, brought⟩ := ih
      generalize before : (opened bindAddress limits).run occurrences = chronicle
        at there orders brought
      have distinct := (Relay.run_relayed bindAddress limits moments).keys
      rw [there] at distinct
      obtain ⟨more, goesOn⟩ :=
        turn_comprises occurrence.1 chronicle.history distinct occurrence.2
      obtain ⟨further, others, log⟩ := goesOn _ there
      have last : (opened bindAddress limits).run (occurrences ++ [occurrence]) =
          chronicle.step occurrence := by
        rw [← before]
        exact List.foldl_append
      refine ⟨moments ++ more, ?_⟩
      rw [last, Relay.run_append]
      rw [orders] at others
      rw [brought] at log
      exact ⟨further, others, log⟩

end Chronicle

end DatagramReceiver

end ReliableTransport
