import ReliableTransport.DatagramSender
import ReliableTransport.Proofs.Turnstile
/-!
This module follows the calls on a sender of datagrams. Calls begin, have turns, get answers from
the sockets and are given up in any order. Each has a number.
-/

namespace ReliableTransport

namespace DatagramSender

/-- The message that a call sends, if it sends one. -/
def Call.delivery? : Call → Option Delivery
  | .send delivery => some delivery
  | .sendRange data offset length => (Word.range? data offset length).map .whole
  | .connect | .close => none

/-- The message that a socket is given. -/
def Order.delivery? : Order → Option Delivery
  | .send _ delivery => some delivery
  | .openSocket _ | .closeSocket _ => none

/-- What a turn asks of the sockets, for which calls. -/
def asked (effects : List (Effect Nat Order Result)) : List (Nat × Order) :=
  effects.filterMap fun effect =>
    match effect with
    | .order number what => some (number, what)
    | _ => none

/-- A sender and what happened to it so far. -/
structure Usage where
  sender : DatagramSender Nat
  /-- The calls that were made. The number of a call is its place among them. -/
  calls : List Call := []
  /-- What was asked of the sockets, for which calls. -/
  orders : List (Nat × Order) := []
  /-- The calls that are over, with their results. -/
  endings : List (Nat × Result) := []

namespace Usage

/-- What can happen to a sender. -/
inductive Event where
  | call (call : Call)
  | turn (number : Nat)
  | answer (number : Nat) (answer : Answer)
  | abandon (number : Nat)

/-- Takes over what a turn did. -/
def took (usage : Usage) (turn : SenderTurn Nat) : Usage :=
  { usage with
    sender := turn.1
    orders := usage.orders ++ asked turn.2
    endings := usage.endings ++ Effect.results turn.2 }

def step (usage : Usage) : Event → Usage
  | .call call =>
    { usage with calls := usage.calls ++ [call] }.took
      (component.start 0 usage.calls.length call usage.sender)
  | .turn number => usage.took (component.resume 0 number usage.sender)
  | .answer number answer => usage.took (component.answer 0 number answer usage.sender)
  | .abandon number => usage.took (component.abandon number usage.sender)

/-- The message that a call sends. -/
def Sends (usage : Usage) (number : Nat) (delivery : Delivery) : Prop :=
  usage.calls[number]?.bind Call.delivery? = some delivery

/-- The message that a socket was given for a call. -/
def given? (usage : Usage) (number : Nat) : Option Delivery :=
  (usage.orders.lookup number).bind Order.delivery?

/-- A new call has its first turn. -/
def accept (usage : Usage) (call : Call) : Usage := { usage with calls := usage.calls ++ [call] }

/-- A call joins the line for the socket. -/
def enter (usage : Usage) (number : Nat) : Usage :=
  { usage with
    sender := { usage.sender with turnstile := (usage.sender.turnstile.enter number).1 } }

/-- A call waits at a point. -/
def park (usage : Usage) (number : Nat) (stage : Stage) : Usage :=
  { usage with sender := usage.sender.park number stage }

/-- A call asks something of the sockets. -/
def ask (usage : Usage) (number : Nat) (order : Order) : Usage :=
  { usage with orders := usage.orders ++ [(number, order)] }

/-- The result of a send is counted. -/
def count (usage : Usage) (result : Except Failure Nat) : Usage :=
  { usage with sender := usage.sender.countSent result }

/-- A call leaves the line. -/
def depart (usage : Usage) (number : Nat) : Usage :=
  { usage with sender := (usage.sender.depart number).1 }

/-- A call is over. -/
def conclude (usage : Usage) (number : Nat) (result : Result) : Usage :=
  { usage with endings := usage.endings ++ [(number, result)] }

variable {usage : Usage} {number : Nat}

/-- A turn that does nothing changes nothing. -/
theorem took_nothing : usage.took (usage.sender, []) = usage := by
  simp [took, asked, Effect.results]

/-- Whoever is let in next is only woken. -/
theorem depart_quiet (sender : DatagramSender Nat) (number : Nat) :
    asked (sender.depart number).2 = [] ∧ Effect.results (sender.depart number).2 = [] := by
  rw [DatagramSender.depart]
  generalize sender.turnstile.leave number = left
  obtain ⟨turnstile, next⟩ := left
  cases next <;> exact ⟨rfl, rfl⟩

theorem took_depart : usage.took (usage.sender.depart number) = usage.depart number := by
  obtain ⟨nothing, none⟩ := depart_quiet usage.sender number
  simp [took, depart, nothing, none]

theorem took_finish (sender : DatagramSender Nat) (result : Result) :
    usage.took (sender.finish number result) =
      ({ usage with sender }.depart number).conclude number result := by
  obtain ⟨nothing, none⟩ := depart_quiet sender number
  have told : asked ((sender.depart number).2 ++ [.done number result]) = [] := by
    rw [asked, List.filterMap_append, ← asked, nothing]
    rfl
  have ended : Effect.results ((sender.depart number).2 ++ [.done number result]) =
      [(number, result)] := by
    rw [Effect.results_append, none]
    rfl
  simp [took, finish, depart, conclude, told, ended]

/-- A call that is given the socket for a send asks for the send. -/
theorem took_send (usage : Usage) (number : Nat) (delivery : Delivery) {socket : Nat}
    (connected : usage.sender.socket = some socket) :
    usage.took (usage.sender.proceed number (.send delivery)) =
      (usage.park number (.sending socket)).ask number (.send socket delivery) := by
  simp [took, proceed, connected, DatagramSender.park, park, ask, asked, Effect.results]

/-- A call that comes while the socket is in use waits in the line. -/
theorem took_ask_of_busy (usage : Usage) (number : Nat) (job : Job) {other : Nat}
    (busy : usage.sender.turnstile.inside = some other) :
    usage.took (usage.sender.ask number job) = (usage.enter number).park number (.queued job) := by
  simp [took, DatagramSender.ask, Turnstile.enter_of_busy busy, enter, park, asked, Effect.results]

/-- A call that comes while nobody uses the socket goes on at once. -/
theorem took_ask_of_idle (usage : Usage) (number : Nat) (job : Job)
    (idle : usage.sender.turnstile.inside = none) :
    usage.took (usage.sender.ask number job) =
      (usage.enter number).took ((usage.enter number).sender.proceed number job) := by
  simp [took, DatagramSender.ask, Turnstile.enter_of_idle idle, enter]

/-- A call sends the same when others are made behind it. -/
theorem Sends.accept {delivery : Delivery} (sends : usage.Sends number delivery) (call : Call) :
    (usage.accept call).Sends number delivery := by
  obtain ⟨made, found, gives⟩ := Option.bind_eq_some_iff.mp sends
  obtain ⟨inside, _⟩ := List.getElem?_eq_some_iff.mp found
  rw [Sends, Usage.accept, List.getElem?_append_left inside]
  exact sends

theorem sends_of_new (usage : Usage) {call : Call} {delivery : Delivery}
    (sends : call.delivery? = some delivery) :
    (usage.accept call).Sends usage.calls.length delivery := by
  rw [Sends, accept, List.getElem?_concat_length]
  exact sends

/-- Counting a result changes the count and whether the sender is connected. -/
theorem countSent_eq (sender : DatagramSender Nat) (result : Except Failure Nat) :
    ∃ bytesSent connected, sender.countSent result = { sender with bytesSent, connected } := by
  cases result with
  | ok length => exact ⟨_, sender.connected, rfl⟩
  | error failure =>
      by_cases transient : failure.isTransientIo = true
      · exact ⟨sender.bytesSent, false, if_pos transient⟩
      · exact ⟨sender.bytesSent, sender.connected, if_neg transient⟩

/-- A call that waits at a new point waits there, and the others wait where they did. -/
theorem lookup_park (other : Nat) (stage : Stage) :
    (usage.park number stage).sender.calls.lookup other =
      if other = number then some stage else usage.sender.calls.lookup other :=
  lookup_moved usage.sender.calls number stage other

/-- A call that leaves waits nowhere, and the others wait where they did. -/
theorem lookup_depart (other : Nat) :
    (usage.depart number).sender.calls.lookup other =
      if other = number then none else usage.sender.calls.lookup other :=
  lookup_struck usage.sender.calls number other

end Usage

/-- A call that ends answers its result, and nobody else ends with it. -/
theorem results_finish (sender : DatagramSender Nat) (number : Nat) (result : Result) :
    Effect.results (sender.finish number result).2 = [(number, result)] := by
  rw [finish, Effect.results_append, (Usage.depart_quiet sender number).2]
  rfl

end DatagramSender

end ReliableTransport
