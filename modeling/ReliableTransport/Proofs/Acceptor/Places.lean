import ReliableTransport.Proofs.Acceptor.Rounds
/-!
This module follows one socket of an acceptor: where its loop and its stop are, and whether it is
the active one. Each step does one of a few things to a socket.
-/

namespace ReliableTransport

namespace Acceptor

/-- How an acceptor stands to a socket, and what is known of the socket. -/
@[ext]
structure Standing where
  /-- The socket is the one that accepts connections. -/
  active : Bool
  /-- The loop of the socket is not over. -/
  looping : Bool
  post : Post

def Act.isEnd : Act → Bool
  | ends => true
  | _ => false

/-- What a step of a loop can do to its socket. -/
inductive Moves (post : Post) : Post → Act → Prop where
  | rests : Moves post post .nothing
  | begins (checks : post.stage = .checks) (isOn : post.halt.isOn = true) :
      Moves post { post with stage := .calls } .begins
  | stops (checks : post.stage = .checks) (isOff : post.halt.isOn = false) : Moves post post .ends
  | calls (calls : post.stage = .calls) :
      Moves post { post with stage := .polls, deeds := post.deeds ++ [.accepts] } .calls
  | sleeps (polls : post.stage = .polls) : Moves post { post with stage := .waits } .nothing
  | wakes (waits : post.stage = .waits) (alive : post.halt ≠ .returned) :
      Moves post { post with stage := .polls } .nothing
  | aborts (waits : post.stage = .waits) (returned : post.halt = .returned) :
      Moves post post .ends
  | gets (polls : post.stage = .polls) (remote : Address) :
      Moves post
        { post with stage := .holds remote, deeds := post.deeds ++ [.hears (.ok remote)] } .nothing
  | skips (polls : post.stage = .polls) {failure : Failure} (reset : isReset failure = true) :
      Moves post
        { post with stage := .checks, deeds := post.deeds ++ [.hears (.error failure)] } .nothing
  | fails (polls : post.stage = .polls) {failure : Failure} (lasting : isReset failure = false) :
      Moves post
        { post with stage := .checks, deeds := post.deeds ++ [.hears (.error failure)] } .ends
  | hands {remote : Address} (holds : post.stage = .holds remote) :
      Moves post { post with stage := .hands remote, deeds := post.deeds ++ [.hands remote] }
        (.hands remote)
  | leaves {remote : Address} (hands : post.stage = .hands remote) :
      Moves post { post with stage := .checks } .nothing

namespace Post

variable (post : Post)

theorem go_moves : Moves post post.go.1 post.go.2 := by
  cases stage : post.stage with
  | checks =>
      simp only [go, stage]
      split
      next isOn => exact .begins stage isOn
      next isOff => exact .stops stage (by simpa using isOff)
  | calls =>
      simp only [go, stage]
      exact .calls stage
  | waits =>
      simp only [go, stage]
      split
      next returned => exact .aborts stage returned
      next alive => exact .wakes stage alive
  | holds remote =>
      simp only [go, stage]
      exact .hands stage
  | polls | hands =>
      simp only [go, stage]
      exact .rests

theorem hear_moves (result : Option (Except Failure Address)) :
    Moves post (post.hear result).1 (post.hear result).2 := by
  cases stage : post.stage with
  | polls =>
      match result with
      | none =>
          simp only [hear, stage]
          exact .sleeps stage
      | some (.ok remote) =>
          simp only [hear, stage]
          exact .gets stage remote
      | some (.error failure) =>
          simp only [hear, stage]
          split
          next reset => exact .skips stage reset
          next lasting => exact .fails stage (by simpa using lasting)
  | checks | calls | waits | holds | hands =>
      simp only [hear, stage]
      exact .rests

theorem leave_moves : Moves post post.leave.1 post.leave.2 := by
  cases stage : post.stage with
  | hands remote =>
      simp only [leave, stage]
      exact .leaves stage
  | checks | calls | polls | waits | holds =>
      simp only [leave, stage]
      exact .rests

end Post

theorem active_turn (act : Act) (acceptor : Acceptor Role) (socket : Nat) :
    (act.turn socket acceptor).1.active = acceptor.active := by
  cases act <;> rfl

/-- A loop goes on until it is over, and the loops of other sockets are not concerned. -/
theorem looping_turn (act : Act) (acceptor : Acceptor Role) (socket other : Nat) :
    ((act.turn other acceptor).1.loop? socket).isSome = true ↔
      (socket = other → act.isEnd = false) ∧ (acceptor.loop? socket).isSome = true := by
  cases act with
  | nothing | calls | hands => simp [Act.turn, Act.isEnd]
  | begins => simp [Act.turn, Act.isEnd, looping_beginLoop]
  | ends => simp [Act.turn, Act.isEnd, looping_endLoop]

namespace Course

def standing (course : Course) (socket : Nat) : Standing where
  active := course.history.acceptor.active = some socket
  looping := (course.history.acceptor.loop? socket).isSome
  post := course.posts socket

/-- What a step can do to a socket. -/
inductive Acts (course : Course) (socket : Nat) : Standing → Prop where
  | rests : Acts course socket (course.standing socket)
  | opens (fresh : socket ∉ course.history.reached) :
      Acts course socket { active := true, looping := true, post := course.posts socket }
  | moves {post : Post} {act : Act} (looping : (course.standing socket).looping = true)
      (moves : Moves (course.posts socket) post act) :
      Acts course socket { course.standing socket with looping := !act.isEnd, post }
  | releases (active : (course.standing socket).active = true) :
      Acts course socket { course.standing socket with
        active := false, post := { course.posts socket with halt := .released } }
  | advances : Acts course socket { course.standing socket with
      post := (course.posts socket).advance }

variable {course : Course} {socket other : Nat}

theorem Acts.of_eq {standing later : Standing} (acts : Acts course socket standing)
    (active : later.active = standing.active) (looping : later.looping = standing.looping)
    (post : later.post = standing.post) : Acts course socket later :=
  Standing.ext active looping post ▸ acts

/-- What a step leaves as it is for a socket. -/
theorem acts_beside {history : History} {posts : Nat → Post}
    (active : history.acceptor.active = some socket ↔
      course.history.acceptor.active = some socket)
    (looping : (history.acceptor.loop? socket).isSome =
      (course.history.acceptor.loop? socket).isSome)
    (post : posts socket = course.posts socket) :
    Acts course socket (({ history, posts } : Course).standing socket) :=
  .of_eq .rests (decide_eq_decide.mpr active) looping post

/-- A step of one loop. -/
theorem acts_move {moved : Post × Act} (moves : Moves (course.posts other) moved.1 moved.2) :
    Acts course socket ((course.move other moved).standing socket) := by
  rw [move]
  split
  next looping =>
    let turned := (moved.2.turn other course.history.acceptor).1
    have active : turned.active = course.history.acceptor.active :=
      active_turn moved.2 course.history.acceptor other
    have still : (turned.loop? socket).isSome = true ↔ _ :=
      looping_turn moved.2 course.history.acceptor socket other
    by_cases same : socket = other
    · subst same
      have ends : (turned.loop? socket).isSome = !moved.2.isEnd := by
        rw [Bool.eq_iff_iff, still, Bool.not_eq_true']
        simp [looping]
      exact .of_eq (.moves looping moves)
        (congrArg (fun active => decide (active = some socket)) active) ends
        (Function.update_self ..)
    · have goesOn : (turned.loop? socket).isSome =
          (course.history.acceptor.loop? socket).isSome := by
        rw [Bool.eq_iff_iff, still]
        simp [same]
      exact acts_beside (iff_of_eq (congrArg (· = some socket) active)) goesOn
        (Function.update_of_ne same ..)
  next => exact .rests

theorem posts_release (course : Course) (socket : Nat) : course.release socket =
    if course.history.acceptor.active = some socket then
      { course.posts socket with halt := .released }
    else course.posts socket := by
  cases active : course.history.acceptor.active with
  | none => simp [release, active]
  | some other =>
      by_cases same : other = socket
      · subst same
        simp [release, active]
      · simp [release, active, same, Ne.symm same]

/-- The acceptor lets go of the active socket. -/
theorem acts_release {history : History}
    (halted : history.acceptor = course.history.acceptor.stop.1) :
    Acts course socket (({ history, posts := course.release } : Course).standing socket) := by
  have inactive : history.acceptor.active = none := by rw [halted]; rfl
  have looping : (history.acceptor.loop? socket).isSome =
      (course.history.acceptor.loop? socket).isSome := by
    rw [halted]
    exact looping_stop course.history.acceptor socket
  by_cases active : course.history.acceptor.active = some socket
  · refine .of_eq (.releases (decide_eq_true active)) ?_ looping ?_
    · simp [standing, inactive]
    · exact (course.posts_release socket).trans (if_pos active)
  · refine acts_beside (by simp [inactive, active]) looping ?_
    exact (course.posts_release socket).trans (if_neg active)

/-- The socket of a start is bound, or not to be had. -/
theorem acts_bound (orderly : course.history.Orderly) (number : Nat)
    (result : Except Failure Unit) :
    Acts course socket ((course.step (.bound number result)).standing socket) := by
  rw [step]
  cases found : course.history.start? (.caller number) with
  | none =>
      rw [History.step_bound_of_none found]
      exact .rests
  | some start =>
      cases result with
      | ok =>
          by_cases wanted : course.history.acceptor.phase = .starting ∧
              course.history.Current start
          · have idle : course.history.acceptor.active = none :=
              orderly.idle (by simp [wanted.1])
            rw [History.step_installs found wanted.1 wanted.2]
            by_cases same : socket = start.socket
            · refine .of_eq (.opens (same ▸ orderly.unreached found)) ?_ ?_ rfl
              · exact decide_eq_true (congrArg some same.symm)
              · exact (looping_install _ _ _).mpr (.inl same)
            · refine acts_beside ?_ ?_ rfl
              · simp [idle, History.conclude, History.install, install, Ne.symm same]
              · rw [Bool.eq_iff_iff]
                exact (looping_install _ _ _).trans (or_iff_right same)
          · rw [History.step_discards found fun starting current => wanted ⟨starting, current⟩]
            exact .rests
      | error failure =>
          by_cases current : course.history.Current start
          · rw [History.step_fails found current]
            exact .rests
          · rw [History.step_misses found current]
            exact .rests

theorem acts_abandon (role : Role) :
    Acts course socket ((course.step (.abandon role)).standing socket) := by
  rw [step]
  cases found : course.history.start? role with
  | none =>
      rw [History.step_abandon_of_none found]
      exact .rests
  | some start =>
      rw [History.step_leaves found]
      exact .rests

/-- What a step does to a socket. -/
theorem acts (orderly : course.history.Orderly) (piece : Piece) (socket : Nat) :
    Acts course socket ((course.step piece).standing socket) := by
  cases piece with
  | start =>
      obtain ⟨loops, active, -⟩ := course.history.kept_start
      exact acts_beside (by rw [active]) (by rw [loop?, loops]; rfl) rfl
  | stop =>
      have stops : course.history.step (.call .stop) =
          (course.history.accept .stop).halt.conclude course.history.next .stopped :=
        History.took_begin_stop (course.history.accept .stop) course.history.next
      exact acts_release (by rw [stops]; rfl)
  | halt => exact acts_release rfl
  | bound number result => exact acts_bound orderly number result
  | abandon role => exact acts_abandon role
  | advance other =>
      rw [step]
      by_cases same : socket = other
      · subst same
        exact .of_eq .advances rfl rfl (Function.update_self ..)
      · exact acts_beside Iff.rfl rfl (Function.update_of_ne same ..)
  | go other => exact acts_move (course.posts other).go_moves
  | hear other result => exact acts_move ((course.posts other).hear_moves result)
  | leave other => exact acts_move (course.posts other).leave_moves

end Course

end Acceptor

end ReliableTransport
