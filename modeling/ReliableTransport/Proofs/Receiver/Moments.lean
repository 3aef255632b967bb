import Mathlib.Algebra.GroupWithZero.Nat
import ReliableTransport.Proofs.Receiver.Deeds
/-!
This module follows a receiver moment by moment. In a moment one call is made, one connection is
accepted, or one loop takes the next thing that its connection brought. Handlers react to each as
they like, whatever they did before. They may call the receiver themselves, which is a moment of its
own. What connections bring and what handlers are told of is kept in logs.
-/

namespace ReliableTransport

namespace DatagramReceiver

variable {Handler : Type}

/-- What can happen to a receiver at once. -/
inductive Moment (Handler : Type) where
  | call (number : Nat) (made : Call Handler)
  | answer (role : Role) (result : Except Failure Unit)
  | abandon (role : Role)
  /-- The loop of a socket takes the next arrival. -/
  | accept (conduct : Conduct Handler) (socket : Nat)
  /-- The loop of a connection takes the next thing that the connection brought, or finds its
  end. -/
  | hear (conduct : Conduct Handler) (id : Nat)
  /-- A loop that was told to end does so. -/
  | quit (id : Nat)

/-- A connection that somebody holds has brought some receptions that are still to be taken. -/
def left (receiver : DatagramReceiver Handler) (connection : Nat)
    (receptions : List (Except IoKind Bytes)) : DatagramReceiver Handler :=
  receiver.changeInflow connection fun inflow => { inflow with receptions }

/-- A loop takes the next thing that its connection brought, or finds its end. -/
def take (conduct : Conduct Handler) (loop : Loop) (receiver : DatagramReceiver Handler) :
    ReceiverTurn Handler :=
  let inflow := receiver.inflow loop.connection.number
  match inflow.receptions with
  | .ok data :: rest =>
    (receiver.left loop.connection.number rest).deliver conduct (.receiveLoop loop.id)
      { remote := loop.connection.remote, data }
  | .error kind :: _ => receiver.conclude conduct loop (.failed kind)
  | [] => if inflow.closed then receiver.conclude conduct loop .closed else (receiver, [])

/-- The data that a loop takes next, with its connection. -/
def passes (receiver : DatagramReceiver Handler) (loop : Loop) : List (Connection × Bytes) :=
  match (receiver.inflow loop.connection.number).receptions with
  | .ok data :: _ => [(loop.connection, data)]
  | _ => []

namespace Moment

def turn (receiver : DatagramReceiver Handler) : Moment Handler → ReceiverTurn Handler
  | call number made => receiver.begin (.caller number) made
  | answer role result => receiver.bound role result
  | abandon role => ({ receiver with acceptor := receiver.acceptor.forgetStart role }, [])
  | accept conduct socket =>
    if receiver.acceptor.goesOn socket then
      acceptEach conduct socket 1 receiver.arrivals receiver
    else receiver.endAccepting socket
  | hear conduct id =>
    match receiver.loop? id with
    | some loop => receiver.take conduct loop
    | none => (receiver, [])
  | quit id =>
    match receiver.loop? id with
    | some loop => if loop.aborted then receiver.endLoop loop else (receiver, [])
    | none => (receiver, [])

/-- What a connection brings in a moment. It is lost if nobody holds the connection. -/
def brings (receiver : DatagramReceiver Handler) : Moment Handler → List (Nat × Except IoKind Bytes)
  | call _ (.bring connection receptions) =>
    if (receiver.inflows.lookup connection).isSome then
      receptions.map fun reception => (connection, reception)
    else []
  | _ => []

/-- What a loop passes on to the handlers in a moment. -/
def delivers (receiver : DatagramReceiver Handler) : Moment Handler → List (Connection × Bytes)
  | hear _ id =>
    match receiver.loop? id with
    | some loop => receiver.passes loop
    | none => []
  | _ => []

end Moment

/-- A receiver and what happened to it so far. -/
structure Relay (Handler : Type) where
  receiver : DatagramReceiver Handler
  /-- What connections brought, each with its number. -/
  brought : List (Nat × Except IoKind Bytes) := []
  /-- What was passed on to handlers, each with its connection. -/
  delivered : List (Connection × Bytes) := []
  /-- What the receiver did outside. -/
  orders : List (Order Handler) := []

namespace Relay

/-- A receiver that was just made. -/
def opened (bindAddress : Address) (limits : ReceiveLimits) : Relay Handler :=
  { receiver := { acceptor := { bindAddress, limits } } }

def step (relay : Relay Handler) (moment : Moment Handler) : Relay Handler where
  receiver := (moment.turn relay.receiver).1
  brought := relay.brought ++ moment.brings relay.receiver
  delivered := relay.delivered ++ moment.delivers relay.receiver
  orders := relay.orders ++ Effect.orders (moment.turn relay.receiver).2

def run (relay : Relay Handler) (moments : List (Moment Handler)) : Relay Handler :=
  moments.foldl step relay

theorem run_append (relay : Relay Handler) (moments more : List (Moment Handler)) :
    relay.run (moments ++ more) = (relay.run moments).run more :=
  List.foldl_append

end Relay

/-- What one connection brought. -/
def receptionsOf (brought : List (Nat × Except IoKind Bytes)) (number : Nat) :
    List (Except IoKind Bytes) :=
  (about Prod.fst brought number).map Prod.snd

/-- What was passed on from one connection. -/
def dataOf (delivered : List (Connection × Bytes)) (number : Nat) : List Bytes :=
  (about (fun delivery => delivery.1.number) delivered number).map Prod.snd

theorem receptionsOf_append (brought more : List (Nat × Except IoKind Bytes)) (number : Nat) :
    receptionsOf (brought ++ more) number =
      receptionsOf brought number ++ receptionsOf more number := by
  rw [receptionsOf, about_append, List.map_append]
  rfl

theorem dataOf_append (delivered more : List (Connection × Bytes)) (number : Nat) :
    dataOf (delivered ++ more) number = dataOf delivered number ++ dataOf more number := by
  rw [dataOf, about_append, List.map_append]
  rfl

/-- A connection brings its own receptions only. -/
theorem receptionsOf_single (receptions : List (Except IoKind Bytes)) (connection number : Nat) :
    receptionsOf (receptions.map fun reception => (connection, reception)) number =
      if number = connection then receptions else [] := by
  rw [receptionsOf]
  split
  next same =>
    subst same
    rw [about_eq_self (by simp), List.map_map]
    exact List.map_id receptions
  next other =>
    rw [about_eq_nil, List.map_nil]
    simpa using fun _ _ => Ne.symm other

theorem dataOf_single (connection : Connection) (data : Bytes) (number : Nat) :
    dataOf [(connection, data)] number = if number = connection.number then [data] else [] := by
  rw [dataOf, about, List.filter_singleton]
  by_cases same : connection.number = number
  · simp [same]
  · simp [same, Ne.symm same]

/-- What a connection gives until it fails for the first time. -/
def intact : List (Except IoKind Bytes) → List Bytes
  | .ok data :: rest => data :: intact rest
  | _ => []

/-- Data that came first came before any failure. -/
theorem prefix_intact {data : List Bytes} {receptions : List (Except IoKind Bytes)}
    (first : data.map .ok <+: receptions) : data <+: intact receptions := by
  induction data generalizing receptions with
  | nil => exact List.nil_prefix
  | cons head rest ih =>
      obtain ⟨later, rfl⟩ := first
      exact List.cons_prefix_cons.mpr ⟨rfl, ih ⟨later, rfl⟩⟩

section Inflows

variable (receiver : DatagramReceiver Handler) (connection other : Nat)

/-- What comes in on connections, what the next one is called, and how much was received. -/
def intake : List (Nat × Inflow) × Nat × UInt64 :=
  (receiver.inflows, receiver.nextConnection, receiver.bytesReceived)

variable {receiver} in
theorem intake_eq_iff {inflows : List (Nat × Inflow)} {nextConnection : Nat} {bytes : UInt64} :
    receiver.intake = (inflows, nextConnection, bytes) ↔
      receiver.inflows = inflows ∧ receiver.nextConnection = nextConnection ∧
        receiver.bytesReceived = bytes := by
  rw [intake, Prod.mk.injEq, Prod.mk.injEq]

@[simp] theorem complyAll_intake (commands : List Command) :
    (receiver.complyAll commands).intake = receiver.intake := by
  obtain ⟨_, _, _, same⟩ := receiver.complyAll_frame commands
  rw [same]
  rfl

theorem lookup_changeInflow (change : Inflow → Inflow) :
    (receiver.changeInflow connection change).inflows.lookup other =
      if other = connection then (receiver.inflows.lookup other).map change
      else receiver.inflows.lookup other := by
  rw [changeInflow]
  dsimp only
  induction receiver.inflows with
  | nil => simp
  | cons entry rest ih =>
      obtain ⟨key, inflow⟩ := entry
      rw [List.map_cons]
      by_cases own : other = key
      · subst own
        by_cases changed : other = connection <;> simp [changed]
      · have different : (other == key) = false := beq_eq_false_iff_ne.mpr own
        have same : (if key = connection then (key, change inflow) else (key, inflow)).1 = key := by
          split <;> rfl
        rw [List.lookup_cons, same, different, List.lookup_cons, different]
        exact ih

@[simp] theorem changeInflow_keys (change : Inflow → Inflow) :
    (receiver.changeInflow connection change).inflows.map Prod.fst =
      receiver.inflows.map Prod.fst := by
  rw [changeInflow]
  dsimp only
  rw [List.map_map]
  refine List.map_congr_left fun entry _ => ?_
  rw [Function.comp_apply]
  split <;> rfl

end Inflows

/-- How a moment changes what comes in, by what connections bring and what is passed on. -/
inductive Flows (receiver after : DatagramReceiver Handler) :
    List (Nat × Except IoKind Bytes) → List (Connection × Bytes) → Prop where
  | keeps (same : after.intake = receiver.intake) : Flows receiver after [] []
  /-- A new connection is there. -/
  | opens (same : after.intake =
      (receiver.inflows ++ [(receiver.nextConnection, ({} : Inflow))],
        receiver.nextConnection + 1, receiver.bytesReceived)) : Flows receiver after [] []
  /-- A connection brings something. -/
  | adds {connection : Nat} {receptions : List (Except IoKind Bytes)}
      (same : after.intake = (receiver.changeInflow connection fun inflow =>
        { inflow with receptions := inflow.receptions ++ receptions }).intake) :
      Flows receiver after
        (if (receiver.inflows.lookup connection).isSome then
          receptions.map fun reception => (connection, reception)
        else []) []
  /-- The peer closes a connection. -/
  | shuts {connection : Nat}
      (same : after.intake = (receiver.changeInflow connection fun inflow =>
        { inflow with closed := true }).intake) : Flows receiver after [] []
  /-- Data is passed on. -/
  | takes {connection : Connection} {data : Bytes} {rest : List (Except IoKind Bytes)}
      (found : (receiver.inflow connection.number).receptions = .ok data :: rest)
      (same : after.intake = ((receiver.left connection.number rest).withBytes
        (receiver.bytesReceived + UInt64.ofNat data.length)).intake) :
      Flows receiver after [] [(connection, data)]
  /-- Nobody holds a connection any more. -/
  | drops {connection : Nat}
      (same : after.intake = (receiver.inflows.filter fun entry => entry.1 != connection,
        receiver.nextConnection, receiver.bytesReceived)) : Flows receiver after [] []

section Flows

variable (receiver : DatagramReceiver Handler)

theorem begin_flows (number : Nat) (made : Call Handler) :
    Flows receiver (receiver.begin (.caller number) made).1
      ((Moment.call number made).brings receiver) [] := by
  cases made with
  | start =>
      rw [begin]
      split <;> exact .keeps rfl
  | stop =>
      rw [begin, Turn.andThen_fst, stop_fst]
      exact .keeps rfl
  | disconnect remote =>
      have same : (receiver.begin (.caller number) (.disconnect remote)).1 =
          receiver.comply (.disconnect remote) := receiver.disconnect_fst remote
      rw [same]
      exact .keeps rfl
  | subscribe occasion handler => cases occasion <;> exact .keeps rfl
  | unsubscribe occasion id => cases occasion <;> exact .keeps rfl
  | arrive remote => exact .opens rfl
  | arriveFailed failure => exact .keeps rfl
  | bring connection receptions => exact .adds rfl
  | hangUp connection => exact .shuts rfl

theorem bound_flows (role : Role) (result : Except Failure Unit) :
    Flows receiver (receiver.bound role result).1 [] [] := by
  rw [bound]
  split <;> exact .keeps rfl

theorem register_intake (connection : Connection) :
    (receiver.register connection).1.intake = receiver.intake := by
  rw [register, Turn.andThen_fst, abortEach_eq]
  rfl

/-- Nobody holds a connection that a handler vetoes. -/
theorem takeOver_intake (conduct : Conduct Handler) (task : Role) (connection : Connection) :
    (receiver.takeOver conduct task connection).1.intake =
      if conduct.allows receiver.acceptHandlers.handlers connection.remote then receiver.intake
      else (receiver.inflows.filter fun entry => entry.1 != connection.number,
        receiver.nextConnection, receiver.bytesReceived) := by
  rw [takeOver_fst]
  dsimp only
  split
  · rw [register_intake, complyAll_intake]
  · obtain ⟨_, _, _, same⟩ := receiver.complyAll_frame
      (conduct.onAsked receiver.acceptHandlers.handlers connection.remote)
    rw [same]
    rfl

/-- A loop that takes one arrival asks about it, and then it goes on or finds that it was
stopped. -/
theorem turn_accept {conduct : Conduct Handler} {socket : Nat} {connection : Connection}
    {rest : List (Except Failure Connection)} (goesOn : receiver.acceptor.goesOn socket = true)
    (arrivals : receiver.arrivals = .ok connection :: rest) :
    (Moment.accept conduct socket).turn receiver =
      Turn.andThen
        ((receiver.withArrivals rest).takeOver conduct (.acceptLoop socket) connection)
        fun receiver =>
          if receiver.acceptor.goesOn socket then
            (receiver.withArrivals rest, [.aside (.acceptLoop socket)])
          else receiver.endAccepting socket := by
  rw [Moment.turn, if_pos goesOn, arrivals]
  rfl

theorem accept_flows (conduct : Conduct Handler) (socket : Nat) :
    Flows receiver ((Moment.accept conduct socket).turn receiver).1 [] [] := by
  by_cases goesOn : receiver.acceptor.goesOn socket = true
  · match arrivals : receiver.arrivals with
    | [] =>
        rw [Moment.turn, if_pos goesOn, arrivals]
        exact .keeps rfl
    | .error failure :: rest =>
        rw [Moment.turn, if_pos goesOn, arrivals, acceptEach]
        split <;> exact .keeps rfl
    | .ok connection :: rest =>
        have same : ((Moment.accept conduct socket).turn receiver).1.intake =
            ((receiver.withArrivals rest).takeOver conduct (.acceptLoop socket)
              connection).1.intake := by
          rw [receiver.turn_accept goesOn arrivals, Turn.andThen_fst]
          split <;> rfl
        rw [takeOver_intake] at same
        split at same
        · exact .keeps same
        · exact .drops same
  · rw [Moment.turn, if_neg goesOn]
    exact .keeps rfl

theorem conclude_flows (conduct : Conduct Handler) (loop : Loop) (reason : EndReason) :
    Flows receiver (receiver.conclude conduct loop reason).1 [] [] := by
  rw [conclude, Turn.andThen_fst]
  split
  · rw [tellEndEach_fst]
    exact .drops (complyAll_intake _ _)
  · exact .drops rfl

theorem take_flows (conduct : Conduct Handler) (loop : Loop) :
    Flows receiver (receiver.take conduct loop).1 [] (receiver.passes loop) := by
  match found : (receiver.inflow loop.connection.number).receptions with
  | .ok data :: rest =>
      simp only [take, passes, found]
      refine .takes found ?_
      rw [deliver_fst, complyAll_intake]
      rfl
  | .error kind :: rest =>
      simp only [take, passes, found]
      exact receiver.conclude_flows conduct loop (.failed kind)
  | [] =>
      simp only [take, passes, found]
      split
      · exact receiver.conclude_flows conduct loop .closed
      · exact .keeps rfl

/-- Every moment changes what comes in as the logs say. -/
theorem Moment.flows (moment : Moment Handler) :
    Flows receiver (moment.turn receiver).1 (moment.brings receiver)
      (moment.delivers receiver) := by
  cases moment with
  | call number made => exact receiver.begin_flows number made
  | answer role result => exact receiver.bound_flows role result
  | abandon role => exact .keeps rfl
  | accept conduct socket => exact receiver.accept_flows conduct socket
  | hear conduct id =>
      rw [Moment.turn, Moment.delivers]
      cases receiver.loop? id with
      | none => exact .keeps rfl
      | some loop => exact receiver.take_flows conduct loop
  | quit id =>
      rw [Moment.turn]
      split
      · split
        · exact .drops rfl
        · exact .keeps rfl
      · exact .keeps rfl

end Flows

/-- What a receiver owes to its logs. What was passed on from a connection came in first, and as
long as somebody holds the connection, the rest of what came in is still to be taken. -/
structure Relayed (receiver : DatagramReceiver Handler) (brought : List (Nat × Except IoKind Bytes))
    (delivered : List (Connection × Bytes)) : Prop where
  keys : (receiver.inflows.map Prod.fst).Nodup
  known : ∀ key ∈ receiver.inflows.map Prod.fst, key < receiver.nextConnection
  logged : ∀ entry ∈ brought, entry.1 < receiver.nextConnection
  passed : ∀ number, (dataOf delivered number).map .ok <+: receptionsOf brought number
  held : ∀ number inflow, receiver.inflows.lookup number = some inflow →
    receptionsOf brought number = (dataOf delivered number).map .ok ++ inflow.receptions
  counted : receiver.bytesReceived =
    UInt64.ofNat (delivered.map fun delivery => delivery.2.length).sum

namespace Relayed

variable {receiver after : DatagramReceiver Handler} {brought : List (Nat × Except IoKind Bytes)}
  {delivered : List (Connection × Bytes)}

/-- A connection that nobody has heard of has brought nothing. -/
theorem fresh (relayed : Relayed receiver brought delivered) :
    receptionsOf brought receiver.nextConnection = [] ∧
      dataOf delivered receiver.nextConnection = [] := by
  have none : receptionsOf brought receiver.nextConnection = [] := by
    rw [receptionsOf, about_eq_nil, List.map_nil]
    exact fun entry among => Nat.ne_of_lt (relayed.logged entry among)
  have passed := relayed.passed receiver.nextConnection
  rw [none, List.prefix_nil, List.map_eq_nil_iff] at passed
  exact ⟨none, passed⟩

theorem keep (relayed : Relayed receiver brought delivered)
    (same : after.intake = receiver.intake) : Relayed after brought delivered := by
  obtain ⟨inflows, nextConnection, bytes⟩ := intake_eq_iff.mp same
  obtain ⟨keys, known, logged, passed, held, counted⟩ := relayed
  exact ⟨inflows ▸ keys, by rwa [inflows, nextConnection], by rwa [nextConnection], passed,
    inflows ▸ held, bytes ▸ counted⟩

/-- What came in on a connection may change by what it brings and what is taken of it. -/
theorem change (relayed : Relayed receiver brought delivered) {connection : Nat}
    {update : Inflow → Inflow} {more : List (Nat × Except IoKind Bytes)}
    {further : List (Connection × Bytes)}
    (logged : ∀ entry ∈ more, entry.1 < receiver.nextConnection)
    (own : ∀ number, number ≠ connection →
      receptionsOf more number = [] ∧ dataOf further number = [])
    (held : ∀ inflow, receiver.inflows.lookup connection = some inflow →
      inflow.receptions ++ receptionsOf more connection =
        (dataOf further connection).map .ok ++ (update inflow).receptions)
    (gone : receiver.inflows.lookup connection = none → dataOf further connection = [])
    (same : after.intake = ((receiver.changeInflow connection update).withBytes
      (receiver.bytesReceived +
        UInt64.ofNat (further.map fun delivery => delivery.2.length).sum)).intake) :
    Relayed after (brought ++ more) (delivered ++ further) := by
  suffices changed : Relayed
      ((receiver.changeInflow connection update).withBytes (receiver.bytesReceived +
        UInt64.ofNat (further.map fun delivery => delivery.2.length).sum))
      (brought ++ more) (delivered ++ further) from changed.keep same
  have joined (inflow : Inflow) (found : receiver.inflows.lookup connection = some inflow) :
      receptionsOf (brought ++ more) connection =
        (dataOf (delivered ++ further) connection).map .ok ++ (update inflow).receptions := by
    rw [receptionsOf_append, relayed.held connection inflow found, List.append_assoc,
      held inflow found, dataOf_append, List.map_append, List.append_assoc]
  have others {number : Nat} (other : number ≠ connection) :
      receptionsOf (brought ++ more) number = receptionsOf brought number ∧
        dataOf (delivered ++ further) number = dataOf delivered number := by
    obtain ⟨unsaid, unheard⟩ := own number other
    rw [receptionsOf_append, dataOf_append, unsaid, unheard]
    exact ⟨List.append_nil _, List.append_nil _⟩
  exact {
    keys := (receiver.changeInflow_keys connection update).symm ▸ relayed.keys
    known := (receiver.changeInflow_keys connection update).symm ▸ relayed.known
    logged := fun entry among =>
      (List.mem_append.mp among).elim (relayed.logged entry) (logged entry)
    passed := fun number => by
      by_cases is : number = connection
      · subst is
        cases found : receiver.inflows.lookup number with
        | some inflow => exact ⟨_, (joined inflow found).symm⟩
        | none =>
            rw [receptionsOf_append, dataOf_append, gone found, List.append_nil]
            exact (relayed.passed number).trans (List.prefix_append _ _)
      · rw [(others is).1, (others is).2]
        exact relayed.passed number
    held := fun number inflow found => by
      have lookup := (receiver.lookup_changeInflow connection number update).symm.trans found
      by_cases is : number = connection
      · subst is
        rw [if_pos rfl, Option.map_eq_some_iff] at lookup
        obtain ⟨former, before, rfl⟩ := lookup
        exact joined former before
      · rw [if_neg is] at lookup
        rw [(others is).1, (others is).2]
        exact relayed.held number inflow lookup
    counted := by
      rw [List.map_append, List.sum_append, UInt64.ofNat_add, ← relayed.counted]
      rfl }

/-- What came in on a connection may change while nothing is taken. -/
theorem amend (relayed : Relayed receiver brought delivered) {connection : Nat}
    {update : Inflow → Inflow} {more : List (Nat × Except IoKind Bytes)}
    (logged : ∀ entry ∈ more, entry.1 < receiver.nextConnection)
    (own : ∀ number, number ≠ connection → receptionsOf more number = [])
    (held : ∀ inflow, receiver.inflows.lookup connection = some inflow →
      inflow.receptions ++ receptionsOf more connection = (update inflow).receptions)
    (same : after.intake = (receiver.changeInflow connection update).intake) :
    Relayed after (brought ++ more) (delivered ++ []) := by
  refine relayed.change logged (fun number other => ⟨own number other, rfl⟩) held
    (fun _ => rfl) (same.trans ?_)
  have uncounted : receiver.bytesReceived + UInt64.ofNat 0 = receiver.bytesReceived :=
    UInt64.add_zero _
  exact intake_eq_iff.mpr ⟨rfl, rfl, uncounted.symm⟩

/-- A connection that was dropped stays as it is in the logs. -/
theorem drop (relayed : Relayed receiver brought delivered) {connection : Nat}
    (same : after.intake = (receiver.inflows.filter fun entry => entry.1 != connection,
      receiver.nextConnection, receiver.bytesReceived)) : Relayed after brought delivered := by
  obtain ⟨inflows, nextConnection, bytes⟩ := intake_eq_iff.mp same
  obtain ⟨keys, known, logged, passed, held, counted⟩ := relayed
  have fewer : (after.inflows.map Prod.fst).Sublist (receiver.inflows.map Prod.fst) := by
    rw [inflows]
    exact List.filter_sublist.map _
  refine ⟨keys.sublist fewer, fun key among => ?_, by rwa [nextConnection], passed,
    fun number inflow found => ?_, bytes ▸ counted⟩
  · rw [nextConnection]
    exact known key (fewer.subset among)
  · rw [inflows, lookup_struck] at found
    split at found
    · cases found
    · exact held number inflow found

/-- A new connection is there. -/
theorem add (relayed : Relayed receiver brought delivered)
    (same : after.intake = (receiver.inflows ++ [(receiver.nextConnection, ({} : Inflow))],
      receiver.nextConnection + 1, receiver.bytesReceived)) : Relayed after brought delivered := by
  obtain ⟨inflows, nextConnection, bytes⟩ := intake_eq_iff.mp same
  have keys : after.inflows.map Prod.fst =
      receiver.inflows.map Prod.fst ++ [receiver.nextConnection] := by
    rw [inflows, List.map_append]
    rfl
  refine ⟨?_, ?_, fun entry among => ?_, relayed.passed, fun number inflow found => ?_,
    bytes ▸ relayed.counted⟩
  · rw [keys, List.nodup_append]
    refine ⟨relayed.keys, by simp, fun key among other is => ?_⟩
    rw [List.mem_singleton.mp is]
    exact Nat.ne_of_lt (relayed.known key among)
  · rw [keys, nextConnection]
    intro key among
    rcases List.mem_append.mp among with former | last
    · exact Nat.lt_succ_of_lt (relayed.known key former)
    · rw [List.mem_singleton.mp last]
      exact Nat.lt_succ_self _
  · rw [nextConnection]
    exact Nat.lt_succ_of_lt (relayed.logged entry among)
  · rw [inflows, List.lookup_append] at found
    cases former : receiver.inflows.lookup number with
    | some before =>
        rw [former, Option.some_or] at found
        obtain rfl := Option.some.inj found
        exact relayed.held number before former
    | none =>
        rw [former, Option.none_or, List.lookup_cons] at found
        by_cases last : number = receiver.nextConnection
        · subst last
          obtain rfl : ({} : Inflow) = inflow := by simpa using found
          rw [relayed.fresh.1, relayed.fresh.2]
          rfl
        · rw [beq_eq_false_iff_ne.mpr last] at found
          cases found

/-- The logs grow as what comes in changes. -/
theorem step (relayed : Relayed receiver brought delivered)
    {more : List (Nat × Except IoKind Bytes)} {further : List (Connection × Bytes)}
    (flows : Flows receiver after more further) :
    Relayed after (brought ++ more) (delivered ++ further) := by
  cases flows with
  | keeps same =>
      rw [List.append_nil, List.append_nil]
      exact relayed.keep same
  | opens same =>
      rw [List.append_nil, List.append_nil]
      exact relayed.add same
  | drops same =>
      rw [List.append_nil, List.append_nil]
      exact relayed.drop same
  | @adds connection receptions same =>
      cases found : receiver.inflows.lookup connection with
      | none =>
          refine relayed.amend (by simp) (fun _ _ => rfl) (fun inflow is => ?_) same
          exact nomatch found.symm.trans is
      | some inflow =>
          have there : connection ∈ receiver.inflows.map Prod.fst :=
            List.mem_map.mpr ⟨_, mem_of_lookup found, rfl⟩
          refine relayed.amend ?_ (fun number other => ?_) (fun _ _ => ?_) same
          · simpa using fun _ _ => relayed.known connection there
          · exact (receptionsOf_single receptions connection number).trans (if_neg other)
          · have own := receptionsOf_single receptions connection connection
            rw [if_pos rfl] at own
            exact congrArg _ own
  | @shuts connection same =>
      refine relayed.amend (by simp) (fun _ _ => rfl) (fun _ _ => ?_) same
      exact List.append_nil _
  | @takes connection data rest found same =>
      have counts : after.intake = ((receiver.changeInflow connection.number fun inflow =>
          { inflow with receptions := rest }).withBytes
            (receiver.bytesReceived + UInt64.ofNat (data.length + 0))).intake := same
      refine relayed.change (by simp) (fun number other => ⟨rfl, ?_⟩) (fun former is => ?_)
        (fun gone => ?_) counts
      · rw [dataOf_single, if_neg other]
      · rw [inflow, is, Option.getD_some] at found
        rw [dataOf_single, if_pos rfl, found]
        exact List.append_nil _
      · rw [inflow, gone] at found
        cases found

end Relayed

namespace Relay

/-- Whatever happens, the logs say what came in and what was passed on. -/
theorem run_relayed (bindAddress : Address) (limits : ReceiveLimits)
    (moments : List (Moment Handler)) :
    let reached := (opened bindAddress limits).run moments
    Relayed reached.receiver reached.brought reached.delivered := by
  have step (relay : Relay Handler) (moment : Moment Handler)
      (relayed : Relayed relay.receiver relay.brought relay.delivered) :
      Relayed (relay.step moment).receiver (relay.step moment).brought
        (relay.step moment).delivered :=
    relayed.step (moment.flows relay.receiver)
  induction moments using List.reverseRecOn with
  | nil => exact ⟨List.nodup_nil, nofun, nofun, fun _ => List.nil_prefix, nofun, rfl⟩
  | append_singleton moments moment ih =>
      rw [run_append]
      exact step _ moment ih

end Relay

end DatagramReceiver

end ReliableTransport
