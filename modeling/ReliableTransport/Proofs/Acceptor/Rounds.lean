import Mathlib.Logic.Function.Basic
import ReliableTransport.Proofs.Acceptor.Ownership
/-!
This module follows an acceptor with the rounds of its loops and its stops taken apart. In a round a
loop looks whether it was told to stop, calls for a connection, hears how the call ended, and hands
the connection over. A stop lets go of the socket, tells the loop, closes the socket and aborts the
loop. Before and after each of these steps anything else can happen, on other threads too.
-/

namespace ReliableTransport

namespace Acceptor

/-- Where the loop of a socket is. -/
inductive Stage where
  /-- It is about to look whether it was told to stop. -/
  | checks
  /-- It is about to call for a connection. -/
  | calls
  /-- It looks whether its call is over. -/
  | polls
  /-- It sleeps until its call may be over. -/
  | waits
  /-- It has a connection that it is about to hand over. -/
  | holds (remote : Address)
  /-- The connection is being taken over. -/
  | hands (remote : Address)

/-- How far the stop of a socket has come. -/
inductive Halt where
  | none
  /-- The acceptor has let go of the socket. -/
  | released
  /-- The loop was told to stop. -/
  | told
  /-- The socket is closed. -/
  | closed
  /-- The loop was aborted, and the stop has returned. -/
  | returned
  deriving DecidableEq

/-- Whether a loop that looks is to go on. -/
def Halt.isOn : Halt → Bool
  | none | released => true
  | told | closed | returned => false

/-- What happens on a socket. -/
inductive Deed where
  /-- A connection is called for. -/
  | accepts
  /-- The call is over, and the loop hears how it ended. -/
  | hears (result : Except Failure Address)
  /-- A connection is handed over. -/
  | hands (remote : Address)
  /-- The stop of the socket returns. -/
  | stops

/-- A socket: where its loop and its stop are, and what happened on it. -/
structure Post where
  stage : Stage := .checks
  halt : Halt := .none
  deeds : List Deed := []

/-- What a step of a loop does to the acceptor and asks of the outside. -/
inductive Act where
  | nothing
  | begins
  | calls
  | hands (remote : Address)
  | ends

namespace Post

/-- The next step of a loop that hears of nothing. A loop that was aborted does not wake up. -/
def go (post : Post) : Post × Act :=
  match post.stage with
  | .checks => if post.halt.isOn then ({ post with stage := .calls }, .begins) else (post, .ends)
  | .calls => ({ post with stage := .polls, deeds := post.deeds ++ [.accepts] }, .calls)
  | .waits =>
    if post.halt = .returned then (post, .ends) else ({ post with stage := .polls }, .nothing)
  | .holds remote =>
    ({ post with stage := .hands remote, deeds := post.deeds ++ [.hands remote] }, .hands remote)
  | .polls | .hands _ => (post, .nothing)

/-- A loop that looks whether its call is over hears how it ended, or goes to sleep. -/
def hear (post : Post) (result : Option (Except Failure Address)) : Post × Act :=
  match post.stage, result with
  | .polls, none => ({ post with stage := .waits }, .nothing)
  | .polls, some (.ok remote) =>
    ({ post with stage := .holds remote, deeds := post.deeds ++ [.hears (.ok remote)] }, .nothing)
  | .polls, some (.error failure) =>
    ({ post with stage := .checks, deeds := post.deeds ++ [.hears (.error failure)] },
      if isReset failure then .nothing else .ends)
  | _, _ => (post, .nothing)

/-- A connection was taken over, and the loop begins its next round. -/
def leave (post : Post) : Post × Act :=
  match post.stage with
  | .hands _ => ({ post with stage := .checks }, .nothing)
  | _ => (post, .nothing)

/-- The next step of the stop. -/
def advance (post : Post) : Post :=
  match post.halt with
  | .released => { post with halt := .told }
  | .told => { post with halt := .closed }
  | .closed => { post with halt := .returned, deeds := post.deeds ++ [.stops] }
  | .none | .returned => post

end Post

def Act.turn (act : Act) (socket : Nat) (acceptor : Acceptor Role) : AcceptorTurn :=
  match act with
  | nothing => (acceptor, [])
  | begins => (acceptor.beginLoop socket, [])
  | calls => (acceptor, [.order (.loop socket) (.accept socket)])
  | hands remote => (acceptor, [.order (.loop socket) (.handOver remote)])
  | ends => (acceptor.endLoop socket, [])

/-- What can happen, one step at a time. -/
inductive Piece where
  | start
  | stop
  /-- Whoever takes a connection over has the acceptor stopped. -/
  | halt
  | bound (number : Nat) (result : Except Failure Unit)
  | abandon (role : Role)
  /-- The stop of a socket goes on. -/
  | advance (socket : Nat)
  /-- The loop of a socket goes on. -/
  | go (socket : Nat)
  /-- The loop of a socket looks whether its call is over. -/
  | hear (socket : Nat) (result : Option (Except Failure Address))
  /-- The connection of a socket was taken over. -/
  | leave (socket : Nat)

/-- An acceptor with its sockets. -/
structure Course where
  history : History
  posts : Nat → Post := fun _ => {}

namespace Course

/-- The sockets when the acceptor lets go of the active one. -/
def release (course : Course) : Nat → Post :=
  match course.history.acceptor.active with
  | none => course.posts
  | some socket =>
    Function.update course.posts socket { course.posts socket with halt := .released }

/-- The loop of a socket takes a step, unless it is over. -/
def move (course : Course) (socket : Nat) (moved : Post × Act) : Course :=
  if (course.history.acceptor.loop? socket).isSome then
    { history := course.history.took (moved.2.turn socket course.history.acceptor)
      posts := Function.update course.posts socket moved.1 }
  else course

def step (course : Course) : Piece → Course
  | .start => { course with history := course.history.step (.call .start) }
  | .stop => { history := course.history.step (.call .stop), posts := course.release }
  | .halt => { history := course.history.halt, posts := course.release }
  | .bound number result =>
    { course with history := course.history.step (.answer (.caller number) (.bound result)) }
  | .abandon role => { course with history := course.history.step (.abandon role) }
  | .advance socket =>
    { course with posts := Function.update course.posts socket (course.posts socket).advance }
  | .go socket => course.move socket (course.posts socket).go
  | .hear socket result => course.move socket ((course.posts socket).hear result)
  | .leave socket => course.move socket (course.posts socket).leave

def run (course : Course) (pieces : List Piece) : Course := pieces.foldl step course

theorem run_append (course : Course) (pieces more : List Piece) :
    course.run (pieces ++ more) = (course.run pieces).run more :=
  List.foldl_append

/-- An acceptor that was just made. -/
def opened (bindAddress : Address) (limits : ReceiveLimits) : Course :=
  { history := History.opened bindAddress limits }

end Course

section Looping

variable (acceptor : Acceptor Role) (socket other : Nat)

/-- A socket has a loop that is not over. -/
theorem looping_iff :
    (acceptor.loop? socket).isSome = true ↔ ∃ loop ∈ acceptor.loops, loop.socket = socket := by
  simp [loop?, List.find?_isSome]

/-- Loops that have changed are those of the same sockets. -/
theorem looping_map {loops : List Loop} {change : Loop → Loop}
    (kept : ∀ loop, (change loop).socket = loop.socket) :
    ((loops.map change).find? fun loop => loop.socket = socket).isSome =
      (loops.find? fun loop => loop.socket = socket).isSome := by
  have same : (fun loop : Loop => decide (loop.socket = socket)) ∘ change =
      fun loop => decide (loop.socket = socket) := by
    funext loop
    rw [Function.comp, kept]
  rw [List.find?_map, same, Option.isSome_map]

theorem looping_beginLoop : ((acceptor.beginLoop other).loop? socket).isSome =
    (acceptor.loop? socket).isSome :=
  looping_map socket fun loop => by split <;> rfl

theorem looping_stop : (acceptor.stop.1.loop? socket).isSome = (acceptor.loop? socket).isSome :=
  looping_map socket fun loop => by split <;> rfl

theorem looping_endLoop : ((acceptor.endLoop other).loop? socket).isSome = true ↔
    socket ≠ other ∧ (acceptor.loop? socket).isSome = true := by
  rw [looping_iff, looping_iff]
  constructor
  · rintro ⟨loop, among, rfl⟩
    obtain ⟨former, kept⟩ := List.mem_filter.mp among
    exact ⟨by simpa using kept, loop, former, rfl⟩
  · rintro ⟨different, loop, among, rfl⟩
    exact ⟨loop, List.mem_filter.mpr ⟨among, by simpa using different⟩, rfl⟩

theorem looping_install : ((acceptor.install other).loop? socket).isSome = true ↔
    socket = other ∨ (acceptor.loop? socket).isSome = true := by
  rw [looping_iff, looping_iff, install]
  simp only [List.mem_append, List.mem_singleton]
  constructor
  · rintro ⟨loop, former | rfl, rfl⟩
    · exact .inr ⟨loop, former, rfl⟩
    · exact .inl rfl
  · rintro (rfl | ⟨loop, among, rfl⟩)
    · exact ⟨_, .inr rfl, rfl⟩
    · exact ⟨loop, .inl among, rfl⟩

end Looping

namespace History

variable {history : History}

/-- A start that begins, or is refused, does nothing to the loops. -/
theorem kept_start (history : History) :
    (history.step (.call .start)).acceptor.loops = history.acceptor.loops ∧
      (history.step (.call .start)).acceptor.active = history.acceptor.active ∧
      (history.step (.call .start)).reached = history.reached := by
  have turn : history.step (.call .start) =
      (history.accept .start).took ((history.accept .start).acceptor.begin history.next .start) :=
    rfl
  rw [turn]
  by_cases stopped : history.acceptor.phase = .stopped
  · rw [took_begin_of_stopped (history.accept .start) history.next stopped]
    exact ⟨rfl, rfl, rfl⟩
  · rw [took_begin_of_busy (history.accept .start) history.next stopped]
    exact ⟨rfl, rfl, rfl⟩

/-- A step of a loop is a piece of work. -/
theorem works_act (history : History) (act : Act) (socket : Nat) :
    history.Works (history.took (act.turn socket history.acceptor)) := by
  cases act with
  | nothing =>
      rw [Act.turn, took_nothing]
      exact .nothing history
  | begins =>
      rw [Act.turn, beginLoop, took_loops history _ [] rfl]
      exact .turn (thins_beginLoop history.acceptor socket) (by simp)
  | calls => exact history.works_order _ (by simp)
  | hands remote => exact history.works_order _ (by simp)
  | ends => exact history.works_endLoop socket

end History

namespace Course

variable {course : Course}

theorem orderly_step (orderly : course.history.Orderly) (piece : Piece) :
    (course.step piece).history.Orderly := by
  have moved (socket : Nat) (moved : Post × Act) :
      (course.move socket moved).history.Orderly := by
    rw [move]
    split
    · exact orderly.works (course.history.works_act moved.2 socket)
    · exact orderly
  cases piece with
  | start => exact (course.history.happens _).orderly orderly
  | stop => exact (course.history.happens _).orderly orderly
  | halt => exact orderly.halt
  | bound number result => exact (course.history.happens _).orderly orderly
  | abandon role => exact (course.history.happens _).orderly orderly
  | advance socket => exact orderly
  | go socket => exact moved _ _
  | hear socket result => exact moved _ _
  | leave socket => exact moved _ _

/-- The same sockets, but for what is new of one. -/
def withPost (course : Course) (socket : Nat) (history : History) (post : Post) : Course where
  history
  posts := Function.update course.posts socket post

section WithPost

variable {socket : Nat} {history : History} {post : Post}

theorem withPost_self (course : Course) (socket : Nat) :
    course.withPost socket course.history (course.posts socket) = course := by
  rw [withPost, Function.update_eq_self]

@[simp] theorem posts_withPost : (course.withPost socket history post).posts socket = post :=
  Function.update_self ..

theorem posts_withPost_of_ne {other : Nat} (different : other ≠ socket) :
    (course.withPost socket history post).posts other = course.posts other :=
  Function.update_of_ne different ..

section Moving

variable (course) (post)

theorem move_withPost (looping : (history.acceptor.loop? socket).isSome = true)
    (moved : Post × Act) : (course.withPost socket history post).move socket moved =
      course.withPost socket (history.took (moved.2.turn socket history.acceptor)) moved.1 := by
  rw [move, withPost, if_pos looping, Function.update_idem]
  rfl

theorem go_withPost (looping : (history.acceptor.loop? socket).isSome = true) :
    (course.withPost socket history post).step (.go socket) =
      course.withPost socket (history.took (post.go.2.turn socket history.acceptor)) post.go.1 := by
  rw [step, posts_withPost]
  exact move_withPost course _ looping _

theorem hear_withPost (looping : (history.acceptor.loop? socket).isSome = true)
    (result : Option (Except Failure Address)) :
    (course.withPost socket history post).step (.hear socket result) =
      course.withPost socket (history.took ((post.hear result).2.turn socket history.acceptor))
        (post.hear result).1 := by
  rw [step, posts_withPost]
  exact move_withPost course _ looping _

theorem leave_withPost (looping : (history.acceptor.loop? socket).isSome = true) :
    (course.withPost socket history post).step (.leave socket) =
      course.withPost socket (history.took (post.leave.2.turn socket history.acceptor))
        post.leave.1 := by
  rw [step, posts_withPost]
  exact move_withPost course _ looping _

end Moving

variable (course) {halt : Halt} (deeds : List Deed)

/-- A loop that begins a round calls for a connection. -/
theorem run_call (looping : (history.acceptor.loop? socket).isSome = true)
    (isOn : halt.isOn = true) :
    (course.withPost socket history { stage := .checks, halt, deeds }).run
        [.go socket, .go socket] =
      course.withPost socket
        (history.took (history.acceptor.beginLoop socket,
          [.order (.loop socket) (.accept socket)]))
        { stage := .polls, halt, deeds := deeds ++ [.accepts] } := by
  let begun := history.took (history.acceptor.beginLoop socket, [])
  have still : (begun.acceptor.loop? socket).isSome = true :=
    (looping_beginLoop history.acceptor socket socket).trans looping
  have begins : (course.withPost socket history { stage := .checks, halt, deeds }).step
      (.go socket) = course.withPost socket begun { stage := .calls, halt, deeds } := by
    rw [go_withPost course _ looping, Post.go, if_pos isOn]
    rfl
  have calls : (course.withPost socket begun { stage := .calls, halt, deeds }).step (.go socket) =
      course.withPost socket
        (begun.took (begun.acceptor, [.order (.loop socket) (.accept socket)]))
        { stage := .polls, halt, deeds := deeds ++ [.accepts] } :=
    go_withPost course _ still
  rw [run, List.foldl_cons, begins, List.foldl_cons, calls, List.foldl_nil]
  exact congrArg (course.withPost socket · _) (History.took_append history
    (history.acceptor.beginLoop socket, []) (begun.acceptor, _)).symm

/-- A loop that begins a round calls for a connection and waits for it. -/
theorem run_accept (looping : (history.acceptor.loop? socket).isSome = true)
    (isOn : halt.isOn = true) :
    (course.withPost socket history { stage := .checks, halt, deeds }).run
        [.go socket, .go socket, .hear socket none] =
      course.withPost socket
        (history.took (history.acceptor.beginLoop socket,
          [.order (.loop socket) (.accept socket)]))
        { stage := .waits, halt, deeds := deeds ++ [.accepts] } := by
  let asked := history.took (history.acceptor.beginLoop socket,
    [.order (.loop socket) (.accept socket)])
  have still : (asked.acceptor.loop? socket).isSome = true :=
    (looping_beginLoop history.acceptor socket socket).trans looping
  have sleeps : (course.withPost socket asked
      { stage := .polls, halt, deeds := deeds ++ [.accepts] }).step (.hear socket none) =
      course.withPost socket asked { stage := .waits, halt, deeds := deeds ++ [.accepts] } :=
    (hear_withPost course _ still none).trans
      (congrArg (course.withPost socket · _) History.took_nothing)
  have pieces : [Piece.go socket, .go socket, .hear socket none] =
      [.go socket, .go socket] ++ [.hear socket none] := rfl
  rw [pieces, run_append, run_call course deeds looping isOn, run, List.foldl_cons, sleeps,
    List.foldl_nil]

/-- A loop that is told to stop is over when it looks. -/
theorem run_end (looping : (history.acceptor.loop? socket).isSome = true)
    (isOff : halt.isOn = false) :
    (course.withPost socket history { stage := .checks, halt, deeds }).run [.go socket] =
      course.withPost socket (history.took (history.acceptor.endLoop socket, []))
        { stage := .checks, halt, deeds } := by
  have last : Post.go { stage := .checks, halt, deeds } =
      ({ stage := .checks, halt, deeds }, .ends) := if_neg (by simp [isOff])
  rw [run, List.foldl_cons, go_withPost course _ looping, last]
  rfl

end WithPost

end Course

end Acceptor

end ReliableTransport
