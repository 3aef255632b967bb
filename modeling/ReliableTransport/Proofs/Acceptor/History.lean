import ReliableTransport.Acceptor
/-!
This module follows the starts and the stops of an acceptor. Calls begin, their sockets come to be
bound or not, starts are given up, and the loops of the sockets take their turns, all in any order.
-/

namespace ReliableTransport

namespace Acceptor

/-- An acceptor and what happened to it so far. -/
structure History where
  acceptor : Acceptor Role
  /-- The calls that were made. The number of a call is its place among them. -/
  calls : List Call := []
  /-- What was asked of the outside. -/
  orders : List Order := []
  /-- The calls that are over, with their results. -/
  endings : List (Role × Result) := []
  /-- The bound sockets that came to the starts that waited for them. -/
  reached : List Nat := []
  /-- The starts that were given up before their sockets were bound. -/
  dropped : List (Role × Start) := []

/-- What can happen to an acceptor. -/
inductive Event where
  | call (call : Call)
  | turn (role : Role)
  | answer (role : Role) (answer : Answer)
  | abandon (role : Role)

/-- The event stops the acceptor: somebody calls for it, or whoever takes a connection over. -/
def Event.Stops : Event → Prop
  | .call .stop | .answer (.loop _) (.handedOver true) => True
  | _ => False

def Event.isCall : Event → Bool
  | .call _ => true
  | _ => false

/-- The loops go on. Some may be over, and none that was stopped goes on again. -/
structure Thins (loops later : List Loop) : Prop where
  sockets : (later.map Loop.socket).Sublist (loops.map Loop.socket)
  kept : ∀ loop ∈ later, ∃ former ∈ loops,
    former.socket = loop.socket ∧ former.stopped = loop.stopped

theorem Thins.refl (loops : List Loop) : Thins loops loops :=
  ⟨List.Sublist.refl _, fun loop among => ⟨loop, among, rfl, rfl⟩⟩

theorem Thins.trans {loops later last : List Loop} (first : Thins loops later)
    (second : Thins later last) : Thins loops last := by
  refine ⟨second.sockets.trans first.sockets, fun loop among => ?_⟩
  obtain ⟨former, before, socket, stopped⟩ := second.kept loop among
  obtain ⟨origin, earliest, same, both⟩ := first.kept former before
  exact ⟨origin, earliest, same.trans socket, both.trans stopped⟩

theorem thins_endLoop (acceptor : Acceptor Role) (socket : Nat) :
    Thins acceptor.loops (acceptor.endLoop socket).loops :=
  ⟨List.filter_sublist.map _, fun loop among => ⟨loop, (List.mem_filter.mp among).1, rfl, rfl⟩⟩

theorem thins_beginLoop (acceptor : Acceptor Role) (socket : Nat) :
    Thins acceptor.loops (acceptor.beginLoop socket).loops := by
  refine ⟨?_, fun loop among => ?_⟩
  · have same : (acceptor.beginLoop socket).loops.map Loop.socket =
        acceptor.loops.map Loop.socket := by
      rw [beginLoop, List.map_map]
      refine List.map_congr_left fun loop _ => ?_
      rw [Function.comp]
      split <;> rfl
    exact same ▸ List.Sublist.refl _
  · obtain ⟨former, before, rfl⟩ := List.mem_map.mp among
    refine ⟨former, before, ?_⟩
    split <;> exact ⟨rfl, rfl⟩

namespace History

/-- An acceptor that was just made. -/
def opened (bindAddress : Address) (limits : ReceiveLimits) : History :=
  { acceptor := { bindAddress, limits } }

/-- The turn that an event gives to a task. -/
def turn (history : History) : Event → AcceptorTurn
  | .call call => component.start 0 (.caller history.calls.length) call history.acceptor
  | .turn role => component.resume 0 role history.acceptor
  | .answer role answer => component.answer 0 role answer history.acceptor
  | .abandon role => component.abandon role history.acceptor

/-- The start that a task waits with. -/
def start? (history : History) (role : Role) : Option Start := history.acceptor.starts.lookup role

/-- Takes an event down. -/
def note (history : History) : Event → History
  | .call call => { history with calls := history.calls ++ [call] }
  | .answer (.caller number) (.bound (.ok _)) =>
    { history with
      reached := history.reached ++ (history.start? (.caller number)).toList.map Start.socket }
  | .abandon role =>
    { history with
      dropped := history.dropped ++ (history.start? role).toList.map fun start => (role, start) }
  | _ => history

/-- Takes over what a turn did. -/
def took (history : History) (turn : AcceptorTurn) : History :=
  { history with
    acceptor := turn.1
    orders := history.orders ++ Effect.orders turn.2
    endings := history.endings ++ Effect.results turn.2 }

def step (history : History) (event : Event) : History :=
  (history.note event).took (history.turn event)

def run (history : History) (events : List Event) : History := events.foldl step history

theorem run_append (history : History) (events more : List Event) :
    history.run (events ++ more) = (history.run events).run more :=
  List.foldl_append

/-- A new call has its first turn. -/
def accept (history : History) (call : Call) : History :=
  { history with calls := history.calls ++ [call] }

/-- A start asks for its socket. -/
def bind (history : History) (role : Role) : History :=
  { history with
    acceptor := { history.acceptor with
      phase := .starting
      generation := history.acceptor.generation + 1
      nextSocket := history.acceptor.nextSocket + 1
      starts := history.acceptor.starts ++
        [(role, ⟨history.acceptor.generation + 1, history.acceptor.nextSocket⟩)] }
    orders := history.orders ++ [.bind history.acceptor.nextSocket] }

/-- The acceptor is stopped, and its socket is closed. -/
def halt (history : History) : History :=
  { history with
    acceptor := history.acceptor.stop.1
    orders := history.orders ++ history.acceptor.active.toList.map .close }

/-- A start waits no longer. -/
def forget (history : History) (role : Role) : History :=
  { history with acceptor := history.acceptor.forgetStart role }

/-- A bound socket comes to its start. -/
def reach (history : History) (socket : Nat) : History :=
  { history with reached := history.reached ++ [socket] }

def install (history : History) (socket : Nat) : History :=
  { history with acceptor := history.acceptor.install socket }

def close (history : History) (socket : Nat) : History :=
  { history with orders := history.orders ++ [.close socket] }

/-- The socket of a start is not to be had. -/
def fail (history : History) : History :=
  { history with acceptor := { history.acceptor with phase := .stopped } }

def drop (history : History) (role : Role) (start : Start) : History :=
  { history with dropped := history.dropped ++ [(role, start)] }

/-- A loop has had a turn. -/
def work (history : History) (loops : List Loop) (orders : List Order) : History :=
  { history with
    acceptor := { history.acceptor with loops }
    orders := history.orders ++ orders }

/-- A call is over. -/
def conclude (history : History) (role : Role) (result : Result) : History :=
  { history with endings := history.endings ++ [(role, result)] }

/-- The task of the next call. -/
def next (history : History) : Role := .caller history.calls.length

/-- A start goes on while nothing else was started or stopped. -/
def Current (history : History) (start : Start) : Prop :=
  start.generation = history.acceptor.generation

/-- A turn changes nothing but the loops, and closes no socket. -/
inductive Works (history : History) : History → Prop where
  | turn {loops : List Loop} {orders : List Order} (thins : Thins history.acceptor.loops loops)
      (unclosed : ∀ socket, .close socket ∉ orders) : Works history (history.work loops orders)

/-- What can happen, event by event. -/
inductive Happens (history : History) : Event → History → Prop where
  | begins (stopped : history.acceptor.phase = .stopped) :
      Happens history (.call .start) ((history.accept .start).bind history.next)
  | refuses (busy : history.acceptor.phase ≠ .stopped) :
      Happens history (.call .start)
        ((history.accept .start).conclude history.next
          (.started (.error history.acceptor.refusal)))
  | stops :
      Happens history (.call .stop) ((history.accept .stop).halt.conclude history.next .stopped)
  | installs {number : Nat} {start : Start}
      (found : history.start? (.caller number) = some start)
      (starting : history.acceptor.phase = .starting) (current : history.Current start) :
      Happens history (.answer (.caller number) (.bound (.ok ())))
        ((((history.forget (.caller number)).reach start.socket).install start.socket).conclude
          (.caller number) (.started (.ok ())))
  /-- The socket of a start is bound that was overtaken. -/
  | discards {number : Nat} {start : Start}
      (found : history.start? (.caller number) = some start)
      (overtaken : history.acceptor.phase = .starting → ¬history.Current start) :
      Happens history (.answer (.caller number) (.bound (.ok ())))
        ((((history.forget (.caller number)).reach start.socket).close start.socket).conclude
          (.caller number) (.started (.error history.acceptor.overtaken)))
  | fails {number : Nat} {start : Start} {failure : Failure}
      (found : history.start? (.caller number) = some start) (current : history.Current start) :
      Happens history (.answer (.caller number) (.bound (.error failure)))
        ((history.forget (.caller number)).fail.conclude (.caller number)
          (.started (.error failure)))
  /-- The socket of a start is not to be had that was overtaken. -/
  | misses {number : Nat} {start : Start} {failure : Failure}
      (found : history.start? (.caller number) = some start)
      (overtaken : ¬history.Current start) :
      Happens history (.answer (.caller number) (.bound (.error failure)))
        ((history.forget (.caller number)).conclude (.caller number) (.started (.error failure)))
  | leaves {role : Role} {start : Start} (found : history.start? role = some start) :
      Happens history (.abandon role) ((history.forget role).drop role start)
  /-- A loop takes a turn, or nobody does. -/
  | works {event : Event} {after : History} (answers : event.isCall = false)
      (goesOn : ¬event.Stops) (works : history.Works after) : Happens history event after
  /-- Whoever took a connection over has the acceptor stopped. -/
  | halts {socket : Nat} {after : History} (works : history.halt.Works after) :
      Happens history (.answer (.loop socket) (.handedOver true)) after

variable {history : History}

theorem took_nothing : history.took (history.acceptor, []) = history := by
  simp [took, Effect.orders, Effect.results]

theorem Works.nothing (history : History) : history.Works history := by
  have works : history.Works (history.work history.acceptor.loops []) :=
    .turn (Thins.refl _) (by simp)
  rwa [work, List.append_nil] at works

theorem Works.trans {after last : History} (first : history.Works after)
    (second : after.Works last) : history.Works last := by
  cases first with
  | turn thins unclosed =>
    cases second with
    | @turn loops orders further closes =>
      have works := Works.turn (thins.trans further) fun socket among =>
        (List.mem_append.mp among).elim (unclosed socket) (closes socket)
      rw [work, ← List.append_assoc] at works
      exact works

theorem took_begin_of_stopped (history : History) (role : Role)
    (stopped : history.acceptor.phase = .stopped) :
    history.took (history.acceptor.begin role .start) = history.bind role := by
  simp [took, Acceptor.begin, beginStart, stopped, bind, Effect.results]

theorem took_begin_of_busy (history : History) (role : Role)
    (busy : history.acceptor.phase ≠ .stopped) :
    history.took (history.acceptor.begin role .start) =
      history.conclude role (.started (.error history.acceptor.refusal)) := by
  simp [took, Acceptor.begin, beginStart, busy, conclude, Effect.orders, Effect.results]

/-- A stop closes the socket, and that is all that it asks for. -/
theorem took_stopFor (history : History) (role : Role) :
    history.took (history.acceptor.stopFor role) = history.halt := by
  cases active : history.acceptor.active <;>
    simp [took, stopFor, stop, active, halt, Effect.orders, Effect.results]

/-- One turn goes on where another one ended. -/
theorem took_append (history : History) (first second : AcceptorTurn) :
    history.took (second.1, first.2 ++ second.2) = (history.took first).took second := by
  simp [took]

theorem took_done (history : History) (role : Role) (result : Result) :
    history.took (history.acceptor, [.done role result]) = history.conclude role result := by
  simp [took, conclude, Effect.orders, Effect.results]

theorem took_begin_stop (history : History) (role : Role) :
    history.took (history.acceptor.begin role .stop) = history.halt.conclude role .stopped := by
  rw [← took_stopFor _ role, ← took_done]
  exact took_append _ (history.acceptor.stopFor role) (_, _)

theorem happens_call (history : History) (call : Call) :
    Happens history (.call call) (history.step (.call call)) := by
  have turn : history.step (.call call) =
      (history.accept call).took ((history.accept call).acceptor.begin history.next call) := rfl
  rw [turn]
  cases call with
  | start =>
      by_cases stopped : history.acceptor.phase = .stopped
      · rw [took_begin_of_stopped (history.accept .start) history.next stopped]
        exact .begins stopped
      · rw [took_begin_of_busy (history.accept .start) history.next stopped]
        exact .refuses stopped
  | stop =>
      rw [took_begin_stop]
      exact .stops

/-- A turn that concludes nothing and changes only the loops. -/
theorem took_loops (history : History) (loops : List Loop)
    (effects : List (Effect Role Order Result)) (quiet : Effect.results effects = []) :
    history.took ({ history.acceptor with loops }, effects) =
      history.work loops (Effect.orders effects) := by
  simp [took, work, quiet]

theorem works_endLoop (history : History) (socket : Nat) :
    history.Works (history.took (history.acceptor.endLoop socket, [])) := by
  rw [endLoop, took_loops history _ [] rfl]
  exact .turn (thins_endLoop history.acceptor socket) (by simp)

theorem works_order (history : History) (role : Role) {order : Order}
    (unclosed : ∀ socket, order ≠ .close socket) :
    history.Works (history.took (history.acceptor, [.order role order])) := by
  have asks := history.took_loops history.acceptor.loops [.order role order] rfl
  rw [asks]
  exact .turn (Thins.refl _) fun socket among => unclosed socket (List.mem_singleton.mp among).symm

/-- A loop that may go on takes the next connection, and otherwise it is over. -/
theorem works_acceptNext (history : History) (socket : Nat) :
    history.Works (history.took (history.acceptor.acceptNext socket)) := by
  rw [acceptNext]
  split
  · exact history.works_order _ (by simp)
  · exact history.works_endLoop socket

theorem works_resumeLoop (history : History) (socket : Nat) :
    history.Works (history.took (history.acceptor.resumeLoop socket)) := by
  have nothing : history.Works (history.took (history.acceptor, [])) := by
    rw [took_nothing]
    exact .nothing history
  rw [resumeLoop]
  split
  · exact nothing
  split
  · exact history.works_endLoop socket
  split
  · exact nothing
  · have begins : history.Works (history.took (history.acceptor.beginLoop socket, [])) := by
      rw [beginLoop, took_loops history _ [] rfl]
      exact .turn (thins_beginLoop history.acceptor socket) (by simp)
    have goesOn := begins.trans (works_acceptNext _ socket)
    rw [← took_append] at goesOn
    exact goesOn

theorem works_accepted (history : History) (socket : Nat) (result : Except Failure Address) :
    history.Works (history.took (history.acceptor.accepted socket result)) := by
  cases result with
  | ok remote =>
      rw [accepted]
      split
      · exact history.works_order _ (by simp)
      · exact history.works_endLoop socket
  | error failure =>
      rw [accepted]
      split
      · split
        · exact history.works_acceptNext socket
        · exact history.works_endLoop socket
      · exact history.works_endLoop socket

theorem happens_turn (history : History) (role : Role) :
    Happens history (.turn role) (history.step (.turn role)) := by
  refine .works rfl id ?_
  cases role with
  | caller number =>
      have turn : history.step (.turn (.caller number)) = history.took (history.acceptor, []) := rfl
      rw [turn, took_nothing]
      exact .nothing history
  | loop socket => exact history.works_resumeLoop socket

theorem bound_of_nobody {acceptor : Acceptor Role} {role : Role}
    (found : acceptor.starts.lookup role = none) (result : Except Failure Unit) :
    acceptor.bound role result = (acceptor, []) := by
  simp only [Acceptor.bound, found]

/-- What becomes of a start whose socket is bound or not to be had. -/
theorem bound_of_waiting {acceptor : Acceptor Role} {role : Role} {start : Start}
    (found : acceptor.starts.lookup role = some start) (result : Except Failure Unit) :
    acceptor.bound role result =
      (((acceptor.forgetStart role).endStart start result).1,
        match ((acceptor.forgetStart role).endStart start result).2 with
        | .failed failure => [.done role (.started (.error failure))]
        | .unwanted socket failure =>
          [.order role (.close socket), .done role (.started (.error failure))]
        | .installed socket => [.ready (.loop socket), .done role (.started (.ok ()))]) := by
  unfold Acceptor.bound
  generalize acceptor.starts.lookup role = waits at found
  subst found
  rfl

section Bound

variable {number : Nat} {start : Start}

/-- A start that goes on makes its bound socket the active one. -/
theorem step_installs (found : history.start? (.caller number) = some start)
    (starting : history.acceptor.phase = .starting) (current : history.Current start) :
    history.step (.answer (.caller number) (.bound (.ok ()))) =
      (((history.forget (.caller number)).reach start.socket).install start.socket).conclude
        (.caller number) (.started (.ok ())) := by
  have ends : (history.acceptor.forgetStart (.caller number)).endStart start (.ok ()) =
      ((history.acceptor.forgetStart (.caller number)).install start.socket,
        .installed start.socket) := by
    simp [endStart, forgetStart, starting, current.symm]
  have turn : history.step (.answer (.caller number) (.bound (.ok ()))) =
      (history.note (.answer (.caller number) (.bound (.ok ())))).took
        (history.acceptor.bound (.caller number) (.ok ())) := rfl
  rw [turn, bound_of_waiting found, ends]
  simp [note, found, took, forget, reach, install, conclude, Effect.orders, Effect.results]

/-- A start that was overtaken closes its bound socket. -/
theorem step_discards (found : history.start? (.caller number) = some start)
    (overtaken : history.acceptor.phase = .starting → ¬history.Current start) :
    history.step (.answer (.caller number) (.bound (.ok ()))) =
      (((history.forget (.caller number)).reach start.socket).close start.socket).conclude
        (.caller number) (.started (.error history.acceptor.overtaken)) := by
  have ends : (history.acceptor.forgetStart (.caller number)).endStart start (.ok ()) =
      (history.acceptor.forgetStart (.caller number),
        .unwanted start.socket history.acceptor.overtaken) := by
    rw [endStart, if_neg]
    · rfl
    · intro both
      rw [Bool.and_eq_true, decide_eq_true_eq, decide_eq_true_eq] at both
      exact overtaken both.1 both.2.symm
  have turn : history.step (.answer (.caller number) (.bound (.ok ()))) =
      (history.note (.answer (.caller number) (.bound (.ok ())))).took
        (history.acceptor.bound (.caller number) (.ok ())) := rfl
  rw [turn, bound_of_waiting found, ends]
  simp [note, found, took, forget, reach, close, conclude, Effect.orders, Effect.results]

/-- A start that goes on leaves the acceptor stopped if its socket is not to be had. -/
theorem step_fails (found : history.start? (.caller number) = some start)
    (current : history.Current start) (failure : Failure) :
    history.step (.answer (.caller number) (.bound (.error failure))) =
      (history.forget (.caller number)).fail.conclude (.caller number)
        (.started (.error failure)) := by
  have ends : (history.acceptor.forgetStart (.caller number)).endStart start (.error failure) =
      ({ history.acceptor.forgetStart (.caller number) with phase := .stopped },
        .failed failure) := by
    simp [endStart, forgetStart, current.symm]
  have turn : history.step (.answer (.caller number) (.bound (.error failure))) =
      history.took (history.acceptor.bound (.caller number) (.error failure)) := rfl
  rw [turn, bound_of_waiting found, ends]
  simp [took, forget, fail, conclude, Effect.orders, Effect.results]

/-- A start that was overtaken leaves the acceptor as it is if its socket is not to be had. -/
theorem step_misses (found : history.start? (.caller number) = some start)
    (overtaken : ¬history.Current start) (failure : Failure) :
    history.step (.answer (.caller number) (.bound (.error failure))) =
      (history.forget (.caller number)).conclude (.caller number)
        (.started (.error failure)) := by
  have ends : (history.acceptor.forgetStart (.caller number)).endStart start (.error failure) =
      (history.acceptor.forgetStart (.caller number), .failed failure) := by
    rw [endStart, if_neg]
    exact Ne.symm overtaken
  have turn : history.step (.answer (.caller number) (.bound (.error failure))) =
      history.took (history.acceptor.bound (.caller number) (.error failure)) := rfl
  rw [turn, bound_of_waiting found, ends]
  simp [took, forget, conclude, Effect.orders, Effect.results]

/-- Nobody waits for the socket. -/
theorem step_bound_of_none (found : history.start? (.caller number) = none)
    (result : Except Failure Unit) :
    history.step (.answer (.caller number) (.bound result)) = history := by
  have turn : history.step (.answer (.caller number) (.bound result)) =
      (history.note (.answer (.caller number) (.bound result))).took
        (history.acceptor.bound (.caller number) result) := rfl
  rw [turn, bound_of_nobody found]
  cases result <;> simp [note, found, took, Effect.orders, Effect.results]

theorem happens_bound (history : History) (number : Nat) (result : Except Failure Unit) :
    Happens history (.answer (.caller number) (.bound result))
      (history.step (.answer (.caller number) (.bound result))) := by
  cases found : history.start? (.caller number) with
  | none =>
      rw [step_bound_of_none found]
      exact .works rfl id (.nothing history)
  | some start =>
      cases result with
      | ok =>
          by_cases wanted : history.acceptor.phase = .starting ∧ history.Current start
          · rw [step_installs found wanted.1 wanted.2]
            exact .installs found wanted.1 wanted.2
          · have overtaken (starting : history.acceptor.phase = .starting) :
                ¬history.Current start := fun current => wanted ⟨starting, current⟩
            rw [step_discards found overtaken]
            exact .discards found overtaken
      | error failure =>
          by_cases current : history.Current start
          · rw [step_fails found current]
            exact .fails found current
          · rw [step_misses found current]
            exact .misses found current

end Bound

theorem happens_answer (history : History) (role : Role) (answer : Answer) :
    Happens history (.answer role answer) (history.step (.answer role answer)) := by
  have nothing : history.Works (history.took (history.acceptor, [])) := by
    rw [took_nothing]
    exact .nothing history
  match role, answer with
  | .caller number, .bound result => exact history.happens_bound number result
  | .caller _, .accepted _ => exact .works rfl id nothing
  | .caller _, .handedOver _ => exact .works rfl id nothing
  | .loop _, .bound _ => exact .works rfl id nothing
  | .loop socket, .accepted result => exact .works rfl id (history.works_accepted socket result)
  | .loop socket, .handedOver true =>
      have turn : history.step (.answer (.loop socket) (.handedOver true)) =
          history.took ((history.halt.acceptor.acceptNext socket).1,
            (history.acceptor.stopFor (.loop socket)).2 ++
              (history.halt.acceptor.acceptNext socket).2) := rfl
      rw [turn, took_append, took_stopFor]
      exact .halts (works_acceptNext history.halt socket)
  | .loop socket, .handedOver false =>
      exact .works rfl id (history.works_acceptNext socket)

/-- A start that waits is given up. -/
theorem step_leaves {role : Role} {start : Start} (found : history.start? role = some start) :
    history.step (.abandon role) = (history.forget role).drop role start := by
  have turn : history.step (.abandon role) =
      (history.note (.abandon role)).took (history.acceptor.forgetStart role, []) := rfl
  simp [turn, note, found, took, forget, drop, Effect.orders, Effect.results]

theorem step_abandon_of_none {role : Role} (found : history.start? role = none) :
    history.step (.abandon role) = history := by
  have turn : history.step (.abandon role) =
      (history.note (.abandon role)).took (history.acceptor.forgetStart role, []) := rfl
  have kept : history.acceptor.forgetStart role = history.acceptor := by
    rw [forgetStart, struck_of_absent (absent_of_lookup found)]
  simp [turn, note, found, kept, took, Effect.orders, Effect.results]

theorem happens_abandon (history : History) (role : Role) :
    Happens history (.abandon role) (history.step (.abandon role)) := by
  cases found : history.start? role with
  | none =>
      rw [step_abandon_of_none found]
      exact .works rfl id (.nothing history)
  | some start =>
      rw [step_leaves found]
      exact .leaves found

theorem happens (history : History) (event : Event) :
    Happens history event (history.step event) := by
  cases event with
  | call call => exact history.happens_call call
  | turn role => exact history.happens_turn role
  | answer role answer => exact history.happens_answer role answer
  | abandon role => exact history.happens_abandon role

end History

end Acceptor

end ReliableTransport
