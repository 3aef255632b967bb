import ReliableTransport.Proofs.Outbox.Dispatch
import ReliableTransport.Proofs.Sender.Deeds
/-!
This module says what becomes of a range of a buffer that is to be sent. A range that leaves the
buffer is refused before anything else happens, also if its end is no 64-bit number. Any other range
is a message like one that is sent whole, for an outbox as for a sender of datagrams, and nothing
that happens afterwards tells the difference.
-/

namespace ReliableTransport

/-- The message is the part of the data behind an offset that has a length. -/
def Bytes.IsPart (data : Bytes) (offset length : Nat) (message : Bytes) : Prop :=
  ∃ before behind, data = before ++ message ++ behind ∧ before.length = offset ∧
    message.length = length

namespace Word

/-- The sum of two numbers is there exactly if it does not wrap around. -/
theorem sum?_eq (left right : UInt64) :
    sum? left right =
      if left.toNat + right.toNat < UInt64.size then some (left + right) else none := by
  have wraps : left + right < left ↔ ¬ left.toNat + right.toNat < UInt64.size := by
    have := left.toNat_lt
    have := right.toNat_lt
    rw [UInt64.lt_iff_toNat_lt, UInt64.toNat_add, UInt64.size]
    omega
  simp only [sum?, wraps, ite_not]

variable {data : Bytes}

/-- A range is there exactly if the exact sum of its ends stays within the data. -/
theorem range?_eq (bounded : data.length < UInt64.size) (offset length : UInt64) :
    range? data offset length =
      if offset.toNat + length.toNat ≤ data.length then
        some ((data.drop offset.toNat).take length.toNat)
      else none := by
  rw [range?, sum?_eq]
  by_cases exact : offset.toNat + length.toNat < UInt64.size
  · have total : (offset + length).toNat = offset.toNat + length.toNat := by
      rw [UInt64.toNat_add]
      exact Nat.mod_eq_of_lt exact
    rw [if_pos exact]
    simp only [total, ← Nat.not_le, ite_not]
  · rw [if_neg exact, if_neg (by omega)]

theorem range?_eq_none_iff (bounded : data.length < UInt64.size) (offset length : UInt64) :
    range? data offset length = none ↔ data.length < offset.toNat + length.toNat := by
  rw [range?_eq bounded]
  split <;> simp <;> omega

/-- What is found in a range is the part of the data that the range names. -/
theorem isPart_of_range? (bounded : data.length < UInt64.size) {offset length : UInt64}
    {message : Bytes} (found : range? data offset length = some message) :
    data.IsPart offset.toNat length.toNat message := by
  rw [range?_eq bounded] at found
  split at found
  · next within =>
    cases found
    refine ⟨data.take offset.toNat, (data.drop offset.toNat).drop length.toNat, ?_, ?_, ?_⟩
    · rw [List.append_assoc, List.take_append_drop, List.take_append_drop]
    · rw [List.length_take]
      omega
    · rw [List.length_take, List.length_drop]
      omega
  · cases found

end Word

namespace Outbox

open Mailbox (Role)

variable {Handler : Type}

section Start

variable {data : Bytes} {offset length : UInt64}

theorem start_of_outside (outside : Word.range? data offset length = none)
    (outbox : Outbox Handler) (task : Role) :
    outbox.start task (.sendRange data offset length) =
      (outbox, [.done task (.checked (.error (.invalidOperation .rangeOutsideBuffer)))]) := by
  simp only [start, outside]

/-- A range that is found is queued as a message is. Only the answer says that it was checked. -/
theorem start_of_found {message : Bytes} (found : Word.range? data offset length = some message)
    (outbox : Outbox Handler) (task : Role) :
    outbox.start task (.sendRange data offset length) =
      (outbox.queue [message],
        (outbox.queue [message]).mailbox.wakeWorker ++ [.done task (.checked (.ok ()))]) := by
  simp only [start, found]

/-- A send is answered that its range leaves the buffer exactly if no range is found. -/
theorem refused_iff (outbox : Outbox Handler) (task : Role) :
    (task, .checked (.error (.invalidOperation .rangeOutsideBuffer))) ∈
        Effect.results (outbox.start task (.sendRange data offset length)).2 ↔
      Word.range? data offset length = none := by
  cases found : Word.range? data offset length with
  | none =>
      rw [start_of_outside found]
      exact iff_of_true List.mem_cons_self rfl
  | some message =>
      rw [start_of_found found, Effect.results_append, Mailbox.results_wakeWorker]
      refine iff_of_false (fun told => ?_) nofun
      cases List.mem_singleton.mp told

end Start

namespace Dispatch

/-- The event without ranges: what is found in a range is sent as a message, and nothing happens if
the range leaves its buffer. -/
def Event.plain? : Event Handler → Option (Event Handler)
  | .call caller (.sendRange data offset length) =>
    (Word.range? data offset length).map fun message => .call caller (.send [message])
  | event => some event

/-- Runs that differ in what callers were answered, and in nothing else. -/
structure Matches (left right : Dispatch Handler) : Prop where
  outbox : left.outbox = right.outbox
  submitted : left.submitted = right.submitted
  sends : left.sends = right.sends
  orders : Effect.orders left.effects = Effect.orders right.effects

namespace Matches

variable {left right : Dispatch Handler}

theorem turn (matched : Matches left right) (event : Event Handler) :
    left.turn event = right.turn event := by
  cases event with
  | call caller made => rw [Dispatch.turn, Dispatch.turn, matched.outbox]
  | resume task ending => rw [Dispatch.turn, Dispatch.turn, matched.outbox]
  | land ending => rw [Dispatch.turn, Dispatch.turn, matched.outbox, matched.sends]
  | abandon task => rw [Dispatch.turn, Dispatch.turn, matched.outbox]

/-- Events that submit the same messages, and whose turns differ in their answers. -/
theorem step (matched : Matches left right) {event other : Event Handler}
    (outbox : (left.turn event).1 = (right.turn other).1)
    (orders : Effect.orders (left.turn event).2 = Effect.orders (right.turn other).2)
    (messages : event.messages = other.messages) (ending : event.ending = other.ending) :
    Matches (left.step event) (right.step other) := by
  refine ⟨outbox, ?_, ?_, ?_⟩
  · simp only [Dispatch.step, matched.submitted, messages]
  · simp only [Dispatch.step, begun, Send.begun, matched.sends, outbox, orders, ending]
  · simp only [Dispatch.step, Effect.orders_append, matched.orders, orders]

/-- The same event keeps runs alike. -/
theorem same (matched : Matches left right) (event : Event Handler) :
    Matches (left.step event) (right.step event) := by
  have turn := matched.turn event
  exact matched.step (by rw [turn]) (by rw [turn]) rfl rfl

variable {data : Bytes} {offset length : UInt64}

/-- A range that leaves its buffer might as well not be sent. -/
theorem skip (matched : Matches left right) (caller : Nat)
    (outside : Word.range? data offset length = none) :
    Matches left (right.step (.call caller (.sendRange data offset length))) := by
  have turned : right.turn (.call caller (.sendRange data offset length)) =
      (right.outbox, [.done (.caller caller)
        (.checked (.error (.invalidOperation .rangeOutsideBuffer)))]) :=
    start_of_outside outside right.outbox (.caller caller)
  have silent :
      Event.messages (.call caller (.sendRange data offset length) : Event Handler) = [] := by
    simp [Event.messages, Call.messages, outside]
  rw [step_eq turned, silent, List.append_nil]
  refine ⟨matched.outbox, matched.submitted, ?_, ?_⟩
  · exact matched.sends.trans (List.append_nil _).symm
  · rw [Effect.orders_append, matched.orders]
    exact (List.append_nil _).symm

/-- What is found in a range might as well be sent as a message. -/
theorem replace (matched : Matches left right) (caller : Nat) {message : Bytes}
    (found : Word.range? data offset length = some message) :
    Matches (left.step (.call caller (.send [message])))
      (right.step (.call caller (.sendRange data offset length))) := by
  let queued := right.outbox.queue [message]
  have ranged : right.turn (.call caller (.sendRange data offset length)) =
      (queued, queued.mailbox.wakeWorker ++ [.done (.caller caller) (.checked (.ok ()))]) :=
    start_of_found found right.outbox (.caller caller)
  have sent : left.turn (.call caller (.send [message])) =
      (queued, queued.mailbox.wakeWorker ++ [.done (.caller caller) .done]) := matched.turn _
  refine matched.step ?_ ?_ ?_ rfl
  · rw [sent, ranged]
  · rw [sent, ranged, Effect.orders_append, Effect.orders_append]
    rfl
  · simp [Event.messages, Call.messages, found]

/-- One event without ranges, if it happens at all, keeps runs alike. -/
theorem plain (matched : Matches left right) (event : Event Handler) :
    Matches (event.plain?.elim left left.step) (right.step event) := by
  cases event with
  | call caller made =>
      cases made with
      | sendRange data offset length =>
          rw [Event.plain?]
          cases found : Word.range? data offset length with
          | none => exact matched.skip caller found
          | some message => exact matched.replace caller found
      | _ => exact matched.same _
  | _ => exact matched.same _

end Matches

/-- An outbox takes what is found in ranges as messages of their own, and never tells the
difference. -/
theorem run_plain {left right : Dispatch Handler} (matched : Matches left right)
    (events : List (Event Handler)) :
    Matches (left.run (events.filterMap Event.plain?)) (right.run events) := by
  induction events generalizing left right with
  | nil => exact matched
  | cons event rest ih =>
      have first := matched.plain event
      rw [List.filterMap_cons]
      cases replaced : event.plain? with
      | none =>
          rw [replaced] at first
          exact ih first
      | some other =>
          rw [replaced] at first
          exact ih first

end Dispatch

end Outbox

namespace DatagramSender

/-- The call without a range: what is found in the range is sent as a message. A range that leaves
its buffer is kept, as the call has a number. -/
def Call.plain : Call → Call
  | .sendRange data offset length =>
    (Word.range? data offset length).elim (.sendRange data offset length) fun message =>
      .send (.whole message)
  | call => call

theorem Call.plain_of_outside {data : Bytes} {offset length : UInt64}
    (outside : Word.range? data offset length = none) :
    (Call.sendRange data offset length).plain = .sendRange data offset length := by
  rw [Call.plain, outside]
  rfl

theorem Call.plain_of_found {data message : Bytes} {offset length : UInt64}
    (found : Word.range? data offset length = some message) :
    (Call.sendRange data offset length).plain = .send (.whole message) := by
  rw [Call.plain, found]
  rfl

theorem Call.job?_plain (call : Call) : call.plain.job? = call.job? := by
  cases call with
  | sendRange data offset length =>
      cases found : Word.range? data offset length with
      | none => rw [Call.plain_of_outside found]
      | some message =>
          rw [Call.plain_of_found found, Call.job?, Call.job?, found]
          rfl
  | _ => rfl

/-- A sender takes what is found in a range as a message of its own. -/
theorem begin_plain (sender : DatagramSender Nat) (number : Nat) (call : Call) :
    sender.begin number call.plain = sender.begin number call := by
  rw [begin_eq, begin_eq, call.job?_plain]

/-- No other send fails as one whose range leaves its buffer. -/
theorem begin_send_unrefused (sender : DatagramSender Nat) (number : Nat) (delivery : Delivery) :
    (number, .sent (.error (.invalidOperation .rangeOutsideBuffer))) ∉
      Effect.results (sender.begin number (.send delivery)).2 := by
  have lacking (sender : DatagramSender Nat) :
      sender.noSocket ≠ .invalidOperation .rangeOutsideBuffer := by
    rw [noSocket]
    split <;> nofun
  rw [begin, ask]
  -- A send ends in its first turn only if it finds the turnstile free and no socket.
  cases inside : sender.turnstile.inside with
  | some other =>
      rw [Turnstile.enter_of_busy inside]
      exact List.not_mem_nil
  | none =>
      rw [Turnstile.enter_of_idle inside]
      cases owns : sender.socket with
      | some socket =>
          simp only [if_true, proceed]
          exact List.not_mem_nil
      | none =>
          simp only [if_true, proceed, results_finish, List.mem_singleton]
          simpa using (lacking _).symm

theorem begin_of_outside {data : Bytes} {offset length : UInt64}
    (outside : Word.range? data offset length = none) (sender : DatagramSender Nat) (number : Nat) :
    sender.begin number (.sendRange data offset length) =
      (sender, [.done number (.sent (.error (.invalidOperation .rangeOutsideBuffer)))]) := by
  simp only [begin, outside]

/-- A sender takes what is found in a range as a message. -/
theorem begin_of_found {data message : Bytes} {offset length : UInt64}
    (found : Word.range? data offset length = some message) (sender : DatagramSender Nat)
    (number : Nat) :
    sender.begin number (.sendRange data offset length) =
      sender.begin number (.send (.whole message)) := by
  rw [← Call.plain_of_found found, begin_plain]

/-- A send ends because its range leaves the buffer exactly if no range is found. -/
theorem refused_iff {data : Bytes} {offset length : UInt64} (sender : DatagramSender Nat)
    (number : Nat) :
    (number, .sent (.error (.invalidOperation .rangeOutsideBuffer))) ∈
        Effect.results (sender.begin number (.sendRange data offset length)).2 ↔
      Word.range? data offset length = none := by
  cases found : Word.range? data offset length with
  | none =>
      rw [begin_of_outside found]
      exact iff_of_true List.mem_cons_self rfl
  | some message =>
      rw [begin_of_found found]
      exact iff_of_false (begin_send_unrefused sender number (.whole message)) nofun

/-- What a sender does with a send in the turn in which it is called. -/
structure Undertakes (sender : DatagramSender Nat) (call : Nat) (delivery : Delivery)
    (turn : SenderTurn Nat) : Prop where
  /-- The call joins the line behind the one that has the socket. -/
  waits : ∀ other, sender.turnstile.inside = some other →
    turn = ({ sender with
      turnstile := { sender.turnstile with queue := sender.turnstile.queue ++ [call] } }.park call
        (.queued (.send delivery)), [])
  /-- A call that finds nobody inside has its message sent on the socket. -/
  sends : sender.turnstile.inside = none → ∀ socket, sender.socket = some socket →
    turn = ({ sender with turnstile := { sender.turnstile with inside := some call } }.park call
      (.sending socket), [.order call (.send socket delivery)])
  /-- Without a socket it fails at once, and leaves the next call to have its turn. -/
  fails : sender.turnstile.inside = none → sender.socket = none →
    turn = { sender with turnstile := { sender.turnstile with inside := some call } }.finish call
      (.sent (.error sender.noSocket))

theorem begin_send_undertakes (sender : DatagramSender Nat) (call : Nat) (delivery : Delivery) :
    sender.Undertakes call delivery (sender.begin call (.send delivery)) where
  waits other busy := by
    simp only [begin, ask, Turnstile.enter_of_busy busy, Bool.false_eq_true, if_false]
  sends idle socket owns := by
    simp only [begin, ask, Turnstile.enter_of_idle idle, if_true, proceed, owns]
  fails idle bare := by
    simp only [begin, ask, Turnstile.enter_of_idle idle, if_true, proceed, bare, noSocket]

/-- A send that waited has its message sent on the socket once it is let in. -/
theorem resume_of_queued_send {sender : DatagramSender Nat} {call socket : Nat}
    {delivery : Delivery} (waits : sender.calls.lookup call = some (.queued (.send delivery)))
    (inside : sender.turnstile.inside = some call) (owns : sender.socket = some socket) :
    sender.resume call =
      (sender.park call (.sending socket), [.order call (.send socket delivery)]) := by
  simp only [resume, waits, inside, if_true, proceed, owns]

namespace Usage

def Event.plain : Event → Event
  | .call made => .call made.plain
  | event => event

/-- The same usage by calls without ranges. -/
def plain (usage : Usage) : Usage := { usage with calls := usage.calls.map Call.plain }

theorem turn_plain (usage : Usage) (event : Event) :
    usage.plain.turn event.plain = usage.turn event := by
  cases event with
  | call made =>
      show component.start 0 (usage.calls.map Call.plain).length made.plain usage.sender = _
      rw [List.length_map]
      exact begin_plain usage.sender usage.calls.length made
  | _ => rfl

theorem step_plain (usage : Usage) (event : Event) :
    usage.plain.step event.plain = (usage.step event).plain := by
  cases event with
  | call made =>
      have same : usage.plain.turn (.call made.plain) = usage.turn (.call made) :=
        turn_plain usage (.call made)
      show (usage.plain.accept made.plain).took (usage.plain.turn (.call made.plain)) =
        ((usage.accept made).took (usage.turn (.call made))).plain
      rw [same]
      simp only [accept, plain, took, List.map_append, List.map_singleton]
  | _ => rfl

theorem deeds_plain (usage : Usage) (event : Event) :
    usage.plain.deeds event.plain = usage.deeds event := by
  have gains : usage.plain.gains? event.plain = usage.gains? event := by
    cases event with
    | call made => simp only [Event.plain, gains?, plain, Call.job?_plain, List.length_map]
    | turn number => rfl
    | answer number answer =>
        cases answer with
        | opened result => cases result <;> rfl
        | closed => rfl
        | sent result => rfl
    | abandon number => rfl
  rw [deeds, deeds, turn_plain, gains]

end Usage

namespace History

/-- The same history by calls without ranges. -/
def plain (history : History) : History := { history with usage := history.usage.plain }

/-- A sender takes what is found in ranges as messages of their own, and never tells the
difference. -/
theorem run_plain (history : History) (events : List Usage.Event) :
    history.plain.run (events.map Usage.Event.plain) = (history.run events).plain := by
  induction events generalizing history with
  | nil => rfl
  | cons event rest ih =>
      have first : history.plain.step event.plain = (history.step event).plain := by
        simp only [step, plain, Usage.step_plain, Usage.deeds_plain]
      rw [List.map_cons, run, List.foldl_cons, first]
      exact ih (history.step event)

end History

end DatagramSender

namespace Word

/-- A range that leaves its buffer is refused, and the refusal is the only thing that happens. -/
structure Refused (Handler : Type) (data : Bytes) (offset length : UInt64) : Prop where
  outbox : ∀ (outbox : Outbox Handler) task, outbox.start task (.sendRange data offset length) =
    (outbox, [.done task (.checked (.error (.invalidOperation .rangeOutsideBuffer)))])
  sender : ∀ (sender : DatagramSender Nat) call, sender.begin call (.sendRange data offset length) =
    (sender, [.done call (.sent (.error (.invalidOperation .rangeOutsideBuffer)))])

/-- A range within its buffer goes the way of a message that is sent whole. -/
structure PassedOn (Handler : Type) (data : Bytes) (offset length : UInt64) (message : Bytes) :
    Prop where
  part : data.IsPart offset.toNat length.toNat message
  /-- An outbox queues the message, if it is open. -/
  queued : ∀ (outbox : Outbox Handler) task,
    outbox.Takes [message] (outbox.start task (.sendRange data offset length)).1
  /-- An outbox does what it does for a plain send, and only answers that the range was checked. -/
  outbox : ∀ (outbox : Outbox Handler) task,
    let turn := outbox.start task (.sendRange data offset length)
    let plain := outbox.start task (.send [message])
    turn.1 = plain.1 ∧ ∃ woken, turn.2 = woken ++ [.done task (.checked (.ok ()))] ∧
      plain.2 = woken ++ [.done task .done]
  /-- A sender has the message wait for its turn, sends it, or says that it has no socket. -/
  undertaken : ∀ (sender : DatagramSender Nat) call, sender.Undertakes call (.whole message)
    (sender.begin call (.sendRange data offset length))
  /-- A sender does what it does for a plain send. -/
  sender : ∀ (sender : DatagramSender Nat) call,
    sender.begin call (.sendRange data offset length) = sender.begin call (.send (.whole message))
  /-- A sender that had the message wait sends it when the call is let in. -/
  resumed : ∀ (later : DatagramSender Nat) call socket,
    later.calls.lookup call = some (.queued (.send (.whole message))) →
    later.turnstile.inside = some call → later.socket = some socket →
    later.resume call =
      (later.park call (.sending socket), [.order call (.send socket (.whole message))])

theorem refused_of_outside {data : Bytes} {offset length : UInt64}
    (outside : range? data offset length = none) (Handler : Type) :
    Refused Handler data offset length where
  outbox := Outbox.start_of_outside outside
  sender := DatagramSender.begin_of_outside outside

theorem passedOn_of_found {data message : Bytes} {offset length : UInt64}
    (bounded : data.length < UInt64.size) (found : range? data offset length = some message)
    (Handler : Type) : PassedOn Handler data offset length message where
  part := isPart_of_range? bounded found
  queued outbox task := by
    rw [Outbox.start_of_found found]
    exact outbox.queue_takes [message]
  outbox outbox task := by
    rw [Outbox.start_of_found found]
    exact ⟨rfl, _, rfl, rfl⟩
  undertaken sender call := by
    rw [DatagramSender.begin_of_found found]
    exact sender.begin_send_undertakes call (.whole message)
  sender := DatagramSender.begin_of_found found
  resumed _ _ _ := DatagramSender.resume_of_queued_send

/-- Whatever state they are in, an outbox and a sender of datagrams refuse a range exactly if the
exact sum of its offset and its length exceeds the buffer. Otherwise the part of the buffer that the
range names is passed on as one message. So a run is the same run if every range is sent as its
message, or left out where it leaves its buffer. -/
theorem ranges_as_messages {Handler : Type} {data : Bytes} (bounded : data.length < UInt64.size)
    (offset length : UInt64) :
    let exceeds : Prop := data.length < offset.toNat + length.toNat
    let refusal : Failure := .invalidOperation .rangeOutsideBuffer
    (∀ (outbox : Outbox Handler) task,
      (task, .checked (.error refusal)) ∈
        Effect.results (outbox.start task (.sendRange data offset length)).2 ↔ exceeds) ∧
      (∀ (sender : DatagramSender Nat) call,
        (call, .sent (.error refusal)) ∈
          Effect.results (sender.begin call (.sendRange data offset length)).2 ↔ exceeds) ∧
      (exceeds → Refused Handler data offset length) ∧
      (¬ exceeds → ∃ message, PassedOn Handler data offset length message) ∧
      (∀ (dispatch : Outbox.Dispatch Handler) events,
        (dispatch.run (events.filterMap Outbox.Dispatch.Event.plain?)).Matches
          (dispatch.run events)) ∧
      ∀ (history : DatagramSender.History) events,
        history.plain.run (events.map DatagramSender.Usage.Event.plain) =
          (history.run events).plain := by
  intro exceeds refusal
  have missing := range?_eq_none_iff bounded offset length
  refine ⟨fun outbox task => (outbox.refused_iff task).trans missing,
    fun sender call => (sender.refused_iff call).trans missing,
    fun outside => refused_of_outside (missing.mpr outside) Handler, fun within => ?_,
    fun dispatch => Outbox.Dispatch.run_plain ⟨rfl, rfl, rfl, rfl⟩,
    DatagramSender.History.run_plain⟩
  obtain ⟨message, found⟩ := Option.ne_none_iff_exists'.mp (mt missing.mp within)
  exact ⟨message, passedOn_of_found bounded found Handler⟩

/-- A buffer of three bytes. A range of two bytes from the last 64-bit number on would end at the
first byte if sums wrapped around, and the two bytes behind the first one reach up to its end. -/
theorem ranges_as_messages_wrapping :
    let data : Bytes := [1, 2, 3]
    data.length < UInt64.size ∧ 18446744073709551615 + (2 : UInt64) = 1 ∧
      Refused String data 18446744073709551615 2 ∧ PassedOn String data 1 2 [2, 3] := by
  intro data
  have bounded : data.length < UInt64.size := by decide
  obtain ⟨-, -, refused, -⟩ := @ranges_as_messages String data bounded 18446744073709551615 2
  obtain ⟨-, -, -, sent, -⟩ := @ranges_as_messages String data bounded 1 2
  obtain ⟨message, passed⟩ := sent (by decide)
  refine ⟨bounded, by decide, refused (by decide), ?_⟩
  obtain ⟨before, behind, split, first, size⟩ := passed.part
  obtain ⟨one, rfl⟩ := List.length_eq_one_iff.mp first
  obtain ⟨two, three, rfl⟩ := List.length_eq_two.mp size
  obtain ⟨rfl, rfl, rfl, -⟩ : 1 = one ∧ 2 = two ∧ 3 = three ∧ [] = behind := by
    simpa [data] using split
  exact passed

end Word

end ReliableTransport
