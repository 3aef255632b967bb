import ReliableTransport.Proofs.Acceptor.Rounds
/-!
This module says that an acceptor whose tasks take one turn at a time does what its loops and its
stops do step by step: each turn is made up of such steps.
-/

namespace ReliableTransport

namespace Acceptor

/-- Whether a loop has had a turn that is at this point between two turns. -/
def Stage.begun? : Stage → Option Bool
  | checks => some false
  | waits | hands _ => some true
  | calls | polls | holds _ => none

theorem Stage.eq_checks {stage : Stage} (fresh : stage.begun? = some false) : stage = .checks := by
  cases stage <;> simp [begun?] at fresh
  rfl

theorem Stage.waits_or_hands {stage : Stage} (begun : stage.begun? = some true) :
    stage = .waits ∨ ∃ remote, stage = .hands remote := by
  cases stage <;> simp [begun?] at begun ⊢

theorem endLoop_of_over {acceptor : Acceptor Role} {socket : Nat}
    (gone : acceptor.loop? socket = none) : acceptor.endLoop socket = acceptor := by
  have kept : acceptor.loops.filter (fun loop => loop.socket != socket) = acceptor.loops := by
    refine List.filter_eq_self.mpr fun loop among => ?_
    have other := List.find?_eq_none.mp gone loop among
    simpa using other
  rw [endLoop, kept]

theorem goesOn_eq_of_loop {acceptor : Acceptor Role} {socket : Nat} {loop : Loop}
    (found : acceptor.loop? socket = some loop) : acceptor.goesOn socket = !loop.stopped := by
  rw [goesOn, found]
  rfl

theorem goesOn_beginLoop (acceptor : Acceptor Role) (socket : Nat) :
    (acceptor.beginLoop socket).goesOn socket = acceptor.goesOn socket := by
  rw [goesOn, goesOn, loop?, loop?, beginLoop, List.find?_map, Option.any_map]
  have sockets : (fun loop : Loop => decide (loop.socket = socket)) ∘
      (fun loop => if loop.socket = socket then { loop with begun := true } else loop) =
      fun loop => decide (loop.socket = socket) := by
    funext loop
    rw [Function.comp]
    split <;> rfl
  rw [sockets]
  congr 1
  funext loop
  split <;> rfl

/-- A loop that has had a turn goes on as it is. -/
theorem beginLoop_of_begun {acceptor : Acceptor Role} {socket : Nat}
    (begun : ∀ loop ∈ acceptor.loops, loop.socket = socket → loop.begun = true) :
    acceptor.beginLoop socket = acceptor := by
  have kept : (acceptor.loops.map fun loop =>
      if loop.socket = socket then { loop with begun := true } else loop) = acceptor.loops := by
    refine (List.map_congr_left fun loop among => ?_).trans (List.map_id _)
    split
    next mine =>
      obtain ⟨own, had, stopped⟩ := loop
      obtain rfl : had = true := begun _ among mine
      rfl
    next => rfl
  rw [beginLoop, kept]

theorem acceptNext_of_goesOn {acceptor : Acceptor Role} {socket : Nat}
    (goesOn : acceptor.goesOn socket = true) :
    acceptor.acceptNext socket = (acceptor, [.order (.loop socket) (.accept socket)]) :=
  if_pos goesOn

theorem acceptNext_of_halted {acceptor : Acceptor Role} {socket : Nat}
    (halted : acceptor.goesOn socket = false) :
    acceptor.acceptNext socket = (acceptor.endLoop socket, []) := by
  simp [acceptNext, halted]

/-- What becomes of a loop that hears of a connection, or of a failure to accept one. -/
inductive Heard (acceptor : Acceptor Role) (socket : Nat) :
    Except Failure Address → AcceptorTurn → Prop where
  | hands (goesOn : acceptor.goesOn socket = true) (remote : Address) :
      Heard acceptor socket (.ok remote) (acceptor, [.order (.loop socket) (.handOver remote)])
  | skips {failure : Failure} (goesOn : acceptor.goesOn socket = true)
      (reset : isReset failure = true) :
      Heard acceptor socket (.error failure)
        (acceptor, [.order (.loop socket) (.accept socket)])
  | fails {failure : Failure} (goesOn : acceptor.goesOn socket = true)
      (lasting : isReset failure = false) :
      Heard acceptor socket (.error failure) (acceptor.endLoop socket, [])
  | misses {result : Except Failure Address} (halted : acceptor.goesOn socket = false) :
      Heard acceptor socket result (acceptor.endLoop socket, [])

theorem accepted_heard (acceptor : Acceptor Role) (socket : Nat)
    (result : Except Failure Address) :
    Heard acceptor socket result (acceptor.accepted socket result) := by
  cases goesOn : acceptor.goesOn socket with
  | true =>
      cases result with
      | ok remote =>
          rw [accepted, if_pos goesOn]
          exact .hands goesOn remote
      | error failure =>
          rw [accepted, if_pos goesOn, acceptNext_of_goesOn goesOn]
          split
          next reset => exact .skips goesOn reset
          next lasting => exact .fails goesOn (by simpa using lasting)
  | false =>
      have missed : acceptor.accepted socket result = (acceptor.endLoop socket, []) := by
        simp [accepted, goesOn]
      rw [missed]
      exact .misses goesOn

theorem Heard.of_halted {acceptor : Acceptor Role} {socket : Nat}
    {result : Except Failure Address} {turn : AcceptorTurn}
    (heard : Heard acceptor socket result turn) (halted : acceptor.goesOn socket = false) :
    turn = (acceptor.endLoop socket, []) := by
  cases heard with
  | hands goesOn | skips goesOn => simp [halted] at goesOn
  | fails | misses => rfl

namespace Course

/-- The acceptor is between two turns: its loops are new, wait, or have handed a connection over,
and no stop is under way. -/
structure Rests (course : Course) : Prop where
  loops : ∀ loop ∈ course.history.acceptor.loops,
    (course.posts loop.socket).stage.begun? = some loop.begun
  halts : ∀ loop ∈ course.history.acceptor.loops,
    (course.posts loop.socket).halt = if loop.stopped then .returned else .none
  fresh : ∀ socket, socket ∉ course.history.reached → course.posts socket = {}

/-- An answer comes to a loop that waits for it, or that is over. -/
def Fits (course : Course) : Event → Prop
  | .answer (.loop socket) (.accepted _) => (course.history.acceptor.loop? socket).isSome →
    (course.posts socket).stage = .waits
  | .answer (.loop socket) (.handedOver _) => (course.history.acceptor.loop? socket).isSome →
    ∃ remote, (course.posts socket).stage = .hands remote
  | _ => True

/-- Some steps lead to this history, and to where the acceptor is between two turns. -/
def Comprises (course : Course) (history : History) : Prop :=
  ∃ pieces, (course.run pieces).history = history ∧ (course.run pieces).Rests

variable {course : Course} {socket : Nat} {history : History} {post : Post}

theorem Rests.nothing (rests : course.Rests) : course.Comprises course.history := ⟨[], rfl, rests⟩

theorem comprises_of_run {pieces : List Piece} {last : Course} (same : course.run pieces = last)
    (comprises : last.Comprises history) : course.Comprises history := by
  obtain ⟨more, reached, rests⟩ := comprises
  exact ⟨pieces ++ more, by rw [run_append, same, reached], by rwa [run_append, same]⟩

theorem comprises_of_step {piece : Piece} {last : Course} (same : course.step piece = last)
    (comprises : last.Comprises history) : course.Comprises history :=
  @comprises_of_run _ _ [piece] _ same comprises

/-- The loop of one socket has come to its next wait. -/
theorem Rests.withPost (rests : course.Rests) (known : socket ∈ course.history.reached)
    (reached : history.reached = course.history.reached)
    (halt : post.halt = (course.posts socket).halt)
    (loops : ∀ loop ∈ history.acceptor.loops, ∃ former ∈ course.history.acceptor.loops,
      former.socket = loop.socket ∧ former.stopped = loop.stopped ∧
        (loop.socket ≠ socket → former.begun = loop.begun) ∧
        (loop.socket = socket → post.stage.begun? = some loop.begun)) :
    (course.withPost socket history post).Rests where
  loops loop among := by
    obtain ⟨former, before, own, _, others, mine⟩ := loops loop among
    by_cases same : loop.socket = socket
    · rw [same, posts_withPost]
      exact mine same
    · rw [posts_withPost_of_ne same, ← own, rests.loops former before, others same]
  halts loop among := by
    obtain ⟨former, before, own, stopped, _⟩ := loops loop among
    have halts := rests.halts former before
    rw [own, stopped] at halts
    by_cases same : loop.socket = socket
    · rw [same, posts_withPost, halt, ← same, halts]
    · rw [posts_withPost_of_ne same, halts]
  fresh other unreached := by
    have unknown : other ∉ course.history.reached := by
      rw [← reached]
      exact unreached
    have different : other ≠ socket := fun same => unknown (same ▸ known)
    rw [posts_withPost_of_ne different]
    exact rests.fresh other unknown

/-- The loop of a socket is over. -/
theorem Rests.withPost_ended (rests : course.Rests) (known : socket ∈ course.history.reached)
    (halt : post.halt = (course.posts socket).halt) :
    (course.withPost socket (course.history.took (course.history.acceptor.endLoop socket, []))
      post).Rests := by
  refine rests.withPost known rfl halt fun loop among => ?_
  obtain ⟨former, other⟩ := List.mem_filter.mp among
  exact ⟨loop, former, rfl, rfl, fun _ => rfl, fun same => by simp [same] at other⟩

/-- The loop of a socket has begun a round and waits. -/
theorem Rests.withPost_asked (rests : course.Rests) (known : socket ∈ course.history.reached)
    (halt : post.halt = (course.posts socket).halt) (waits : post.stage = .waits)
    (effects : List (Effect Role Order Result)) :
    (course.withPost socket (course.history.took
      (course.history.acceptor.beginLoop socket, effects)) post).Rests := by
  refine rests.withPost known rfl halt fun loop among => ?_
  obtain ⟨former, before, rfl⟩ := List.mem_map.mp among
  refine ⟨former, before, ?_, ?_, fun other => ?_, fun same => ?_⟩
  · split <;> rfl
  · split <;> rfl
  · rw [if_neg]
    intro mine
    exact other (by rw [if_pos mine]; exact mine)
  · have mine : former.socket = socket := by
      split at same <;> exact same
    rw [if_pos mine, waits]
    rfl

/-- A loop that is at the same point as to its turns. -/
theorem Rests.withPost_kept (rests : course.Rests) (known : socket ∈ course.history.reached)
    (halt : post.halt = (course.posts socket).halt)
    (stage : post.stage.begun? = (course.posts socket).stage.begun?)
    (effects : List (Effect Role Order Result)) :
    (course.withPost socket (course.history.took (course.history.acceptor, effects))
      post).Rests := by
  refine rests.withPost known rfl halt fun loop among =>
    ⟨loop, among, rfl, rfl, fun _ => rfl, fun same => ?_⟩
  rw [stage, ← same]
  exact rests.loops loop among

/-- What is known of a loop between two turns. -/
theorem Rests.of_loop (rests : course.Rests) {loop : Loop}
    (found : course.history.acceptor.loop? socket = some loop) :
    (course.posts socket).stage.begun? = some loop.begun ∧
      (course.posts socket).halt = if loop.stopped then .returned else .none := by
  have own : loop.socket = socket := by simpa using List.find?_some found
  have among : loop ∈ course.history.acceptor.loops := List.mem_of_find?_eq_some found
  exact own ▸ ⟨rests.loops loop among, rests.halts loop among⟩

/-- A loop goes on exactly if it was not told to stop. -/
theorem Rests.isOn (rests : course.Rests) {loop : Loop}
    (found : course.history.acceptor.loop? socket = some loop) :
    (course.posts socket).halt.isOn = course.history.acceptor.goesOn socket := by
  rw [goesOn_eq_of_loop found, (rests.of_loop found).2]
  cases loop.stopped <;> rfl

/-- A loop that looks whether it was told to stop calls for a connection, or it is over. -/
theorem Rests.begins (rests : course.Rests) (known : socket ∈ course.history.reached) {loop : Loop}
    (found : course.history.acceptor.loop? socket = some loop) (deeds : List Deed) :
    (course.withPost socket course.history
      { stage := .checks, halt := (course.posts socket).halt, deeds }).Comprises
      (course.history.took
        (if course.history.acceptor.goesOn socket then
          (course.history.acceptor.beginLoop socket, [.order (.loop socket) (.accept socket)])
        else (course.history.acceptor.endLoop socket, []))) := by
  have looping : (course.history.acceptor.loop? socket).isSome = true := by rw [found]; rfl
  cases goesOn : course.history.acceptor.goesOn socket with
  | true =>
      have accepts := run_accept course deeds looping
        ((rests.isOn found).trans goesOn)
      refine ⟨_, congrArg Course.history accepts, ?_⟩
      rw [accepts]
      refine rests.withPost_asked known ?_ ?_ _ <;> rfl
  | false =>
      have ends := run_end course deeds looping
        ((rests.isOn found).trans goesOn)
      refine ⟨_, congrArg Course.history ends, ?_⟩
      rw [ends]
      exact rests.withPost_ended known rfl

/-- All loops of a socket whose loop has had a turn have had one. -/
theorem Rests.begun (rests : course.Rests)
    (begun : (course.posts socket).stage.begun? = some true) :
    course.history.acceptor.beginLoop socket = course.history.acceptor := by
  refine beginLoop_of_begun fun loop among same => ?_
  have own := rests.loops loop among
  rw [same, begun] at own
  exact (Option.some.inj own).symm

/-- A loop that has had a turn goes on to its next round. -/
theorem Rests.acceptNext (rests : course.Rests) (known : socket ∈ course.history.reached)
    {loop : Loop} (found : course.history.acceptor.loop? socket = some loop)
    (begun : (course.posts socket).stage.begun? = some true) (deeds : List Deed) :
    (course.withPost socket course.history
      { stage := .checks, halt := (course.posts socket).halt, deeds }).Comprises
      (course.history.took (course.history.acceptor.acceptNext socket)) := by
  have comprises := rests.begins known found deeds
  rwa [rests.begun begun] at comprises

theorem took_over (gone : course.history.acceptor.loop? socket = none) :
    course.history.took (course.history.acceptor.endLoop socket, []) = course.history := by
  rw [endLoop_of_over gone, History.took_nothing]

theorem known_of_loop (orderly : course.history.Orderly) {loop : Loop}
    (found : course.history.acceptor.loop? socket = some loop) :
    socket ∈ course.history.reached := by
  have own : loop.socket = socket := by simpa using List.find?_some found
  exact own ▸ (orderly.owned.looped loop (List.mem_of_find?_eq_some found)).1

/-- A connection was taken over, and the loop of the socket goes on. -/
theorem Rests.handedOver (rests : course.Rests) (orderly : course.history.Orderly)
    (fits : (course.history.acceptor.loop? socket).isSome →
      ∃ remote, (course.posts socket).stage = .hands remote) :
    course.Comprises (course.history.took (course.history.acceptor.acceptNext socket)) := by
  cases found : course.history.acceptor.loop? socket with
  | none =>
      have halted : course.history.acceptor.goesOn socket = false := by rw [goesOn, found]; rfl
      rw [acceptNext_of_halted halted, took_over found]
      exact rests.nothing
  | some loop =>
      have looping : (course.history.acceptor.loop? socket).isSome = true := by rw [found]; rfl
      obtain ⟨remote, hands⟩ := fits looping
      have leaves := leave_withPost course (course.posts socket) looping
      rw [withPost_self, Post.leave, hands, Act.turn, History.took_nothing] at leaves
      exact comprises_of_step leaves (rests.acceptNext (known_of_loop orderly found) found
        (by rw [hands]; rfl) _)

/-- A loop that waits looks what has become of its call. -/
theorem step_wake (waits : (course.posts socket).stage = .waits)
    (halt : (course.posts socket).halt ≠ .returned)
    (looping : (course.history.acceptor.loop? socket).isSome = true) :
    course.step (.go socket) = course.withPost socket course.history
      { course.posts socket with stage := .polls } := by
  have wakes := go_withPost course (course.posts socket) looping
  rw [withPost_self, Post.go, waits] at wakes
  simp only [if_neg halt, Act.turn, History.took_nothing] at wakes
  exact wakes

/-- A loop that was aborted is over when it would wake up. -/
theorem step_abort (waits : (course.posts socket).stage = .waits)
    (halt : (course.posts socket).halt = .returned)
    (looping : (course.history.acceptor.loop? socket).isSome = true) :
    course.step (.go socket) = course.withPost socket
      (course.history.took (course.history.acceptor.endLoop socket, [])) (course.posts socket) := by
  have ends := go_withPost course (course.posts socket) looping
  rw [withPost_self, Post.go, waits] at ends
  simp only [if_pos halt, Act.turn] at ends
  exact ends

/-- The call of a loop is over. -/
theorem Rests.accepted (rests : course.Rests) (orderly : course.history.Orderly)
    (fits : (course.history.acceptor.loop? socket).isSome → (course.posts socket).stage = .waits)
    (result : Except Failure Address) :
    course.Comprises (course.history.took (course.history.acceptor.accepted socket result)) := by
  have heard := accepted_heard course.history.acceptor socket result
  generalize course.history.acceptor.accepted socket result = turn at heard
  cases found : course.history.acceptor.loop? socket with
  | none =>
      have halted : course.history.acceptor.goesOn socket = false := by rw [goesOn, found]; rfl
      rw [heard.of_halted halted, took_over found]
      exact rests.nothing
  | some loop =>
      have known := known_of_loop orderly found
      have looping : (course.history.acceptor.loop? socket).isSome = true := by rw [found]; rfl
      have waits := fits looping
      have halts := (rests.of_loop found).2
      cases stopped : loop.stopped with
      | true =>
          have halted : course.history.acceptor.goesOn socket = false := by
            rw [goesOn_eq_of_loop found, stopped]
            rfl
          rw [heard.of_halted halted]
          have aborts := step_abort waits (by rw [halts, stopped]; rfl) looping
          exact comprises_of_step aborts ⟨[], rfl, rests.withPost_ended known rfl⟩
      | false =>
          refine comprises_of_step
            (step_wake waits (by rw [halts, stopped]; decide) looping) ?_
          have begun : (course.posts socket).stage.begun? = some true := by rw [waits]; rfl
          let polling : Post := { course.posts socket with stage := .polls }
          have hears := hear_withPost course polling looping (some result)
          cases heard with
          | misses halted =>
              rw [goesOn_eq_of_loop found, stopped] at halted
              cases halted
          | @fails failure goesOn lasting =>
              have ends : (polling.hear (some (.error failure))).2 = .ends :=
                if_neg (by simp [lasting])
              rw [ends] at hears
              exact comprises_of_step hears ⟨[], rfl, rests.withPost_ended known rfl⟩
          | @skips failure goesOn reset =>
              have skips : (polling.hear (some (.error failure))).2 = .nothing := if_pos reset
              rw [skips, Act.turn, History.took_nothing] at hears
              have next := rests.acceptNext known found begun
                (polling.deeds ++ [.hears (.error failure)])
              rw [acceptNext_of_goesOn goesOn] at next
              exact comprises_of_step hears next
          | hands goesOn remote =>
              have holds : (polling.hear (some (.ok remote))).2 = .nothing := rfl
              rw [holds, Act.turn, History.took_nothing] at hears
              let holding : Post := (polling.hear (some (.ok remote))).1
              have hands := go_withPost course holding looping
              have taken : holding.go.1.stage.begun? = (course.posts socket).stage.begun? :=
                begun.symm
              have halt : holding.go.1.halt = (course.posts socket).halt := rfl
              have still : (course.withPost socket _ holding.go.1).Rests :=
                rests.withPost_kept known halt taken [.order (.loop socket) (.handOver remote)]
              exact comprises_of_step hears (comprises_of_step hands ⟨[], rfl, still⟩)

/-- A loop that begins or was stopped. -/
theorem Rests.resumeLoop (rests : course.Rests) (orderly : course.history.Orderly)
    (socket : Nat) :
    course.Comprises (course.history.took (course.history.acceptor.resumeLoop socket)) := by
  rw [Acceptor.resumeLoop]
  split
  next => exact History.took_nothing ▸ rests.nothing
  next loop found =>
    have known := known_of_loop orderly found
    have looping : (course.history.acceptor.loop? socket).isSome = true := by rw [found]; rfl
    have goesOn := goesOn_eq_of_loop found
    obtain ⟨stage, halt⟩ := rests.of_loop found
    have fresh (begun : loop.begun = false) : course.withPost socket course.history
        { stage := .checks, halt := (course.posts socket).halt,
          deeds := (course.posts socket).deeds } = course := by
      rw [begun] at stage
      conv_rhs => rw [← withPost_self course socket]
      rw [← Stage.eq_checks stage]
    split
    next stopped =>
      have halted : course.history.acceptor.goesOn socket = false := by
        rw [goesOn, stopped]
        rfl
      cases begun : loop.begun with
      | false =>
          have ends := rests.begins known found (course.posts socket).deeds
          rw [fresh begun, halted] at ends
          exact ends
      | true =>
          rw [begun] at stage
          rcases Stage.waits_or_hands stage with waits | hands
          · have aborts := step_abort waits (by rw [halt, stopped]; rfl) looping
            exact comprises_of_step aborts ⟨[], rfl, rests.withPost_ended known rfl⟩
          · have leaves := rests.handedOver orderly fun _ => hands
            rw [acceptNext_of_halted halted] at leaves
            exact leaves
    next unstopped =>
      split
      next => exact History.took_nothing ▸ rests.nothing
      next begun =>
        have on : course.history.acceptor.goesOn socket = true := by
          rw [goesOn, Bool.eq_false_iff.mpr unstopped]
          rfl
        have begins := rests.begins known found (course.posts socket).deeds
        rw [fresh (Bool.eq_false_iff.mpr begun), if_pos on] at begins
        rw [acceptNext_of_goesOn ((goesOn_beginLoop _ _).trans on)]
        exact begins

/-- The steps of the stop that follow when the acceptor has let go of the active socket. -/
def settles (course : Course) : List Piece :=
  course.history.acceptor.active.toList.flatMap fun socket =>
    [.advance socket, .advance socket, .advance socket]

/-- The stop of the active socket has returned. -/
def stopped (course : Course) (history : History) : Course where
  history
  posts :=
    match course.history.acceptor.active with
    | none => course.posts
    | some socket =>
      Function.update course.posts socket
        { course.posts socket with
          halt := .returned, deeds := (course.posts socket).deeds ++ [.stops] }

theorem run_settles (course : Course) (history : History) :
    ({ history, posts := course.release } : Course).run course.settles =
      course.stopped history := by
  cases active : course.history.acceptor.active with
  | none => simp [settles, stopped, release, active, run]
  | some socket => simp [settles, stopped, release, active, run, step, Post.advance]

theorem posts_stopped (course : Course) (history : History) (socket : Nat) :
    (course.stopped history).posts socket =
      if course.history.acceptor.active = some socket then
        { course.posts socket with
          halt := .returned, deeds := (course.posts socket).deeds ++ [.stops] }
      else course.posts socket := by
  cases active : course.history.acceptor.active with
  | none => simp [stopped, active]
  | some other =>
      by_cases same : other = socket
      · subst same
        simp [stopped, active]
      · simp [stopped, active, same, Ne.symm same]

/-- A stop leaves an acceptor between two turns. -/
theorem Rests.stopped (rests : course.Rests) (orderly : course.history.Orderly)
    (loops : history.acceptor.loops = course.history.halt.acceptor.loops)
    (reached : history.reached = course.history.reached) : (course.stopped history).Rests := by
  refine ⟨fun loop among => ?_, fun loop among => ?_, fun socket unreached => ?_⟩
  · rw [Course.stopped, loops] at among
    obtain ⟨former, before, rfl⟩ := List.mem_map.mp among
    have kept := rests.loops former before
    by_cases active : course.history.acceptor.active = some former.socket
    · simpa [posts_stopped, active] using kept
    · simpa [posts_stopped, active, Ne.symm active] using kept
  · rw [Course.stopped, loops] at among
    obtain ⟨former, before, rfl⟩ := List.mem_map.mp among
    have kept := rests.halts former before
    by_cases active : course.history.acceptor.active = some former.socket
    · simp [posts_stopped, active]
    · simpa [posts_stopped, active, Ne.symm active] using kept
  · rw [Course.stopped, reached] at unreached
    rw [posts_stopped, if_neg, rests.fresh socket unreached]
    exact fun active => unreached (orderly.owned.active socket active)

/-- Nothing happens to the loops. -/
theorem Rests.beside (rests : course.Rests)
    (loops : history.acceptor.loops = course.history.acceptor.loops)
    (reached : course.history.reached ⊆ history.reached) :
    ({ course with history } : Course).Rests where
  loops := loops ▸ rests.loops
  halts := loops ▸ rests.halts
  fresh socket unreached := rests.fresh socket fun known => unreached (reached known)

/-- The socket of a start is bound, or not to be had. -/
theorem Rests.bound (rests : course.Rests) (orderly : course.history.Orderly) (number : Nat)
    (result : Except Failure Unit) :
    ({ course with history :=
      course.history.step (.answer (.caller number) (.bound result)) } : Course).Rests := by
  cases found : course.history.start? (.caller number) with
  | none =>
      rw [History.step_bound_of_none found]
      exact rests
  | some start =>
      cases result with
      | ok =>
          by_cases wanted : course.history.acceptor.phase = .starting ∧
              course.history.Current start
          · have fresh := rests.fresh start.socket (orderly.unreached found)
            rw [History.step_installs found wanted.1 wanted.2]
            refine ⟨fun loop among => ?_, fun loop among => ?_, fun socket unreached => ?_⟩
            · rcases List.mem_append.mp among with former | new
              · exact rests.loops loop former
              · obtain rfl := List.mem_singleton.mp new
                show (course.posts start.socket).stage.begun? = _
                rw [fresh]
                rfl
            · rcases List.mem_append.mp among with former | new
              · exact rests.halts loop former
              · obtain rfl := List.mem_singleton.mp new
                show (course.posts start.socket).halt = _
                rw [fresh]
                rfl
            · exact rests.fresh socket fun known => unreached (List.mem_append_left _ known)
          · rw [History.step_discards found fun starting current => wanted ⟨starting, current⟩]
            exact rests.beside rfl (List.subset_append_left _ _)
      | error failure =>
          by_cases current : course.history.Current start
          · rw [History.step_fails found current]
            exact rests.beside rfl (List.Subset.refl _)
          · rw [History.step_misses found current]
            exact rests.beside rfl (List.Subset.refl _)

/-- Whoever took a connection over has the acceptor stopped, and the loop of the socket goes on. -/
theorem Rests.handedOver_halt (rests : course.Rests) (orderly : course.history.Orderly)
    (fits : (course.history.acceptor.loop? socket).isSome →
      ∃ remote, (course.posts socket).stage = .hands remote) :
    course.Comprises
      (course.history.halt.took (course.history.halt.acceptor.acceptNext socket)) := by
  have halts : (course.step .halt).run course.settles = course.stopped course.history.halt :=
    course.run_settles course.history.halt
  have stopped : (course.stopped course.history.halt).Rests := rests.stopped orderly rfl rfl
  refine comprises_of_step rfl (comprises_of_run halts ?_)
  refine stopped.handedOver orderly.halt fun looping => ?_
  obtain ⟨remote, hands⟩ := fits ((looping_stop course.history.acceptor socket).symm.trans looping)
  refine ⟨remote, ?_⟩
  rw [posts_stopped]
  split <;> exact hands

/-- Each turn is made up of steps of the loops and the stops. -/
theorem comprises (rests : course.Rests) (orderly : course.history.Orderly) (event : Event)
    (fits : course.Fits event) : course.Comprises (course.history.step event) := by
  have nothing : course.Comprises (course.history.took (course.history.acceptor, [])) :=
    History.took_nothing ▸ rests.nothing
  match event with
  | .call .start =>
      obtain ⟨loops, -, reached⟩ := course.history.kept_start
      exact ⟨[.start], rfl, rests.beside loops (by rw [reached]; exact List.Subset.refl _)⟩
  | .call .stop =>
      have stops : course.history.step (.call .stop) =
          (course.history.accept .stop).halt.conclude course.history.next .stopped :=
        History.took_begin_stop (course.history.accept .stop) course.history.next
      have settles : (course.step .stop).run course.settles =
          course.stopped (course.history.step (.call .stop)) := course.run_settles _
      have stopped : (course.stopped (course.history.step (.call .stop))).Rests :=
        rests.stopped orderly (by rw [stops]; rfl) (by rw [stops]; rfl)
      exact comprises_of_step rfl (comprises_of_run settles ⟨[], rfl, stopped⟩)
  | .turn (.caller _) => exact nothing
  | .turn (.loop socket) => exact rests.resumeLoop orderly socket
  | .answer (.caller number) (.bound result) =>
      exact ⟨[.bound number result], rfl, rests.bound orderly number result⟩
  | .answer (.caller _) (.accepted _) => exact nothing
  | .answer (.caller _) (.handedOver _) => exact nothing
  | .answer (.loop _) (.bound _) => exact nothing
  | .answer (.loop socket) (.accepted result) => exact rests.accepted orderly fits result
  | .answer (.loop socket) (.handedOver true) =>
      have halts : course.history.step (.answer (.loop socket) (.handedOver true)) =
          course.history.halt.took (course.history.halt.acceptor.acceptNext socket) := by
        rw [← History.took_stopFor course.history (.loop socket), ← History.took_append]
        rfl
      exact halts ▸ rests.handedOver_halt orderly fits
  | .answer (.loop socket) (.handedOver false) => exact rests.handedOver orderly fits
  | .abandon role =>
      refine ⟨[.abandon role], rfl, ?_⟩
      cases found : course.history.start? role with
      | none =>
          have same := History.step_abandon_of_none found
          exact rests.beside (by rw [same]) (by rw [same]; exact List.Subset.refl _)
      | some start =>
          have leaves := History.step_leaves found
          exact rests.beside (by rw [leaves]; rfl) (by rw [leaves]; exact List.Subset.refl _)

end Course

end Acceptor

end ReliableTransport
