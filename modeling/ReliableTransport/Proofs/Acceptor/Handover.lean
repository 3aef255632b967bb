import ReliableTransport.Proofs.Acceptor.Account
import ReliableTransport.Proofs.Acceptor.Unfolding
import ReliableTransport.Proofs.Log
/-!
This module says which connections of a socket are handed over: those that come before the first
failure to accept one, resets apart, in order and each once. After the stop of a socket has
returned, its loop only comes to the end of the round that it is in the middle of.
-/

namespace ReliableTransport

namespace Acceptor

/-- The connections that are handed over. -/
def handed (log : List Deed) : List Address :=
  log.filterMap fun deed =>
    match deed with
    | .hands remote => some remote
    | _ => none

/-- How the calls for a connection ended. -/
def results (log : List Deed) : List (Except Failure Address) :=
  log.filterMap fun deed =>
    match deed with
    | .hears result => some result
    | _ => none

/-- The connections that come before the first failure that is not a reset. -/
def connections : List (Except Failure Address) → List Address
  | [] => []
  | .ok remote :: rest => remote :: connections rest
  | .error failure :: rest => if isReset failure then connections rest else []

/-- The connection that a loop is about to hand over. -/
def Stage.held : Stage → List Address
  | holds remote => [remote]
  | _ => []

/-- What a loop does to the outside: it calls for connections and hands them over. -/
def Deed.isAct : Deed → Bool
  | accepts | hands _ => true
  | hears _ | stops => false

/-- A loop that goes on from here when it was told to stop neither calls for a connection nor hands
one over. -/
def Stage.quiet : Stage → Bool
  | checks | waits | hands _ => true
  | calls | polls | holds _ => false

section Logs

variable (log more : List Deed) (past : List (Except Failure Address))

theorem handed_append : handed (log ++ more) = handed log ++ handed more :=
  List.filterMap_append

theorem results_append : results (log ++ more) = results log ++ results more :=
  List.filterMap_append

/-- A stop is neither a handover nor the end of a call. -/
theorem handed_filter : handed (log.filter fun deed => !deed.isStop) = handed log := by
  rw [handed, List.filterMap_filter, handed]
  congr 1
  funext deed
  cases deed <;> rfl

theorem results_filter : results (log.filter fun deed => !deed.isStop) = results log := by
  rw [results, List.filterMap_filter, results]
  congr 1
  funext deed
  cases deed <;> rfl

theorem results_rounds : results (past.flatMap round) = past := by
  induction past with
  | nil => rfl
  | cons result rest ih =>
      rw [List.flatMap_cons, results_append, ih]
      cases result <;> rfl

/-- Rounds after which a loop goes on hand over all connections that come in them. -/
theorem connections_rounds {past : List (Except Failure Address)}
    (survived : ∀ result ∈ past, survives result = true) (others : List (Except Failure Address)) :
    connections (past ++ others) = handed (past.flatMap round) ++ connections others := by
  induction past with
  | nil => rfl
  | cons result rest ih =>
      have behind := ih fun other among => survived other (List.mem_cons_of_mem _ among)
      rw [List.flatMap_cons, handed_append, List.append_assoc, ← behind]
      cases result with
      | ok remote => rfl
      | error failure => exact if_pos (survived _ List.mem_cons_self)

end Logs

variable {standing : Standing} {past : List (Except Failure Address)} {last : List Deed}

/-- The connection that the loop of a socket has not handed over yet. -/
theorem Last.handed_held (told : Last standing last) :
    handed last ++ standing.post.stage.held = connections (results last) := by
  have place (stage : Stage) :
      handed stage.done ++ stage.held = connections (results stage.done) := by
    cases stage <;> rfl
  cases told with
  | goesOn | halted => exact place _
  | failed gone stage lasting =>
      rw [stage]
      exact (if_neg (by simp [lasting])).symm

theorem Rounds.handed_eq (rounds : Rounds standing past last) :
    handed standing.post.deeds ++ standing.post.stage.held =
      connections (results standing.post.deeds) := by
  rw [← handed_filter, ← results_filter, rounds.log, handed_append, results_append,
    results_rounds, connections_rounds rounds.survived, List.append_assoc, rounds.last.handed_held]

/-- A round in which a failure is heard of is the one whose call ended with it. -/
theorem eq_of_mem_round {result : Except Failure Address} {failure : Failure}
    (heard : .hears (.error failure) ∈ round result) : result = .error failure := by
  cases result with
  | ok remote => simp [round] at heard
  | error other => simpa [round, eq_comm] using heard

theorem Stage.unfailed (stage : Stage) (failure : Failure) :
    .hears (.error failure) ∉ stage.done := by
  cases stage <;> simp [done, round]

/-- A failure that is not a reset is the last thing that a loop hears of. -/
theorem Rounds.after_failure (rounds : Rounds standing past last) {front back : List Deed}
    {failure : Failure} (split : standing.post.deeds = front ++ .hears (.error failure) :: back)
    (lasting : isReset failure = false) :
    standing.looping = false ∧ ∀ deed ∈ back, deed = .stops := by
  have log := rounds.log
  rw [split, List.filter_append, List.filter_cons_of_pos (by rfl)] at log
  rcases split_append log.symm with ⟨_, before, -⟩ | ⟨between, -, here⟩
  · obtain ⟨_, result, _, inner, others, rfl, round, -⟩ := split_flatMap before
    obtain rfl := eq_of_mem_round (round ▸ List.mem_append_right inner List.mem_cons_self)
    have reset : survives (.error failure) = true := rounds.survived (.error failure) (by simp)
    simp [survives, lasting] at reset
  · have among : .hears (.error failure) ∈ last :=
      here ▸ List.mem_append_right between List.mem_cons_self
    cases rounds.last with
    | goesOn | halted => exact absurd among (Stage.unfailed _ failure)
    | failed gone =>
        refine ⟨gone, fun deed behind => ?_⟩
        -- The round that ends the loop has nothing behind its failure.
        have nothing : back.filter (fun deed => !deed.isStop) = [] := by
          match between with
          | [] => cases (List.cons.inj here).1
          | [_] => exact ((List.cons.inj (List.cons.inj here).2).2).symm
          | _ :: _ :: _ => simp [round] at here
        have stop := List.filter_eq_nil_iff.mp nothing deed behind
        cases deed <;> simp [Deed.isStop] at stop ⊢

/-- The loop of the active socket is over as soon as it has heard of a failure that is not a
reset. -/
theorem Rounds.over_iff (rounds : Rounds standing past last) (active : standing.active = true) :
    standing.looping = false ↔
      ∃ failure, .hears (.error failure) ∈ standing.post.deeds ∧ isReset failure = false := by
  constructor
  · intro gone
    cases rounds.last with
    | goesOn looping => simp [gone] at looping
    | halted _ inactive => simp [active] at inactive
    | @failed _ _ failure lasting =>
        refine ⟨failure, ?_, lasting⟩
        have among : .hears (.error failure) ∈
            standing.post.deeds.filter fun deed => !deed.isStop := by
          rw [rounds.log]
          simp [round]
        exact (List.mem_filter.mp among).1
  · rintro ⟨failure, among, lasting⟩
    obtain ⟨front, back, split⟩ := List.append_of_mem among
    exact (rounds.after_failure split lasting).1

theorem Rounds.last_prefix (rounds : Rounds standing past last) :
    ∃ result, last <+: round result := by
  cases rounds.last with
  | goesOn | halted => exact Stage.done_prefix _
  | @failed _ _ failure => exact ⟨.error failure, List.prefix_rfl⟩

/-- After the stop of a socket has returned its loop does some of one round. -/
theorem Told.after_stop (told : Told standing) {front back : List Deed}
    (split : standing.post.deeds = front ++ .stops :: back) : ∃ result, back <:+: round result := by
  by_cases returned : standing.post.halt = .returned
  · obtain ⟨before, behind, same, spared, closes⟩ := told.stopped returned
    have first : .stops ∉ before := fun among => by simpa [Deed.isStop] using spared _ among
    have later : .stops ∉ behind := fun among => by
      simpa [Deed.isStop] using closes.unstopped _ among
    obtain ⟨-, -, rfl⟩ := (List.append_cons_inj_of_notMem first later).mp (same.symm.trans split)
    exact closes.within
  · have among : .stops ∈ standing.post.deeds :=
      split ▸ List.mem_append_right front List.mem_cons_self
    simpa [Deed.isStop] using told.unstopped returned _ among

/-- What a loop that goes on asks for when it hears how its call ended. -/
def reply (socket : Nat) : Except Failure Address → List Order
  | .ok remote => [.handOver remote]
  | .error failure => if isReset failure then [.accept socket] else []

/-- What the loop of a socket asks for when all tasks take one turn at a time. -/
structure Asks (history : History) (socket : Nat) : Prop where
  begins : ∀ loop, history.acceptor.loop? socket = some loop → loop.begun = false →
    loop.stopped = false →
    (history.step (.turn (.loop socket))).orders = history.orders ++ [.accept socket]
  hears : history.acceptor.goesOn socket = true → ∀ result,
    (history.step (.answer (.loop socket) (.accepted result))).orders =
      history.orders ++ reply socket result
  leaves : history.acceptor.goesOn socket = true →
    (history.step (.answer (.loop socket) (.handedOver false))).orders =
      history.orders ++ [.accept socket]

theorem History.asks (history : History) (socket : Nat) : Asks history socket where
  begins loop found fresh unstopped := by
    have goesOn : history.acceptor.goesOn socket = true := by
      rw [goesOn_eq_of_loop found, unstopped]
      rfl
    have turn : history.acceptor.resumeLoop socket =
        (history.acceptor.beginLoop socket, [.order (.loop socket) (.accept socket)]) := by
      rw [resumeLoop, found]
      simp only [unstopped, fresh, Bool.false_eq_true, if_false]
      exact acceptNext_of_goesOn ((goesOn_beginLoop history.acceptor socket).trans goesOn)
    show history.orders ++ Effect.orders (history.acceptor.resumeLoop socket).2 = _
    rw [turn]
    rfl
  hears goesOn result := by
    show history.orders ++ Effect.orders (history.acceptor.accepted socket result).2 = _
    have heard := accepted_heard history.acceptor socket result
    generalize history.acceptor.accepted socket result = turn at heard
    cases heard with
    | hands => rfl
    | skips _ reset => rw [reply, if_pos reset]; rfl
    | fails _ lasting => rw [reply, if_neg (by simp [lasting])]; rfl
    | misses halted => simp [goesOn] at halted
  leaves goesOn := by
    show history.orders ++ Effect.orders (history.acceptor.handedOver socket false).2 = _
    simp only [handedOver, Bool.false_eq_true, if_false, acceptNext_of_goesOn goesOn]
    rfl

namespace Course

variable {course : Course} {socket : Nat}

/-- What steps of a loop add to what happened on its socket, and to what was asked of the
outside. -/
structure Does (course : Course) (socket : Nat) (pieces : List Piece) (deeds : List Deed)
    (orders : List Order) : Prop where
  deeds : ((course.run pieces).posts socket).deeds = (course.posts socket).deeds ++ deeds
  orders : (course.run pieces).history.orders = course.history.orders ++ orders

/-- How a loop goes on that is not over. -/
structure GoesOn (course : Course) (socket : Nat) : Prop where
  /-- It begins a round with a call for a connection. -/
  begins : (course.posts socket).stage = .checks → (course.posts socket).halt.isOn = true →
    course.Does socket [.go socket, .go socket] [.accepts] [.accept socket]
  /-- It hands over the connection that it gets. -/
  hands : (course.posts socket).stage = .polls → ∀ remote,
    course.Does socket [.hear socket (some (.ok remote)), .go socket]
      [.hears (.ok remote), .hands remote] [.handOver remote]
  /-- It skips a reset and calls again. -/
  skips : (course.posts socket).stage = .polls → (course.posts socket).halt.isOn = true →
    ∀ failure, isReset failure = true →
      course.Does socket [.hear socket (some (.error failure)), .go socket, .go socket]
        [.hears (.error failure), .accepts] [.accept socket]
  /-- It calls again after it has handed a connection over. -/
  leaves : ∀ remote, (course.posts socket).stage = .hands remote →
    (course.posts socket).halt.isOn = true →
    course.Does socket [.leave socket, .go socket, .go socket] [.accepts] [.accept socket]
  /-- It looks again what has become of its call. -/
  wakes : (course.posts socket).stage = .waits → (course.posts socket).halt ≠ .returned →
    ((course.step (.go socket)).posts socket).stage = .polls

theorem does_of_eq {pieces : List Piece} {history : History} {post : Post} {deeds : List Deed}
    {orders : List Order} (same : course.run pieces = course.withPost socket history post)
    (logged : post.deeds = (course.posts socket).deeds ++ deeds)
    (asked : history.orders = course.history.orders ++ orders) :
    course.Does socket pieces deeds orders where
  deeds := by rw [same, posts_withPost, logged]
  orders := by rw [same]; exact asked

theorem goesOn_of_looping (looping : (course.history.acceptor.loop? socket).isSome = true) :
    course.GoesOn socket := by
  have calls (deeds : List Deed) (isOn : (course.posts socket).halt.isOn = true) :=
    run_call course deeds looping isOn
  have here : course.withPost socket course.history (course.posts socket) = course :=
    course.withPost_self socket
  constructor
  · intro checks isOn
    have called := calls (course.posts socket).deeds isOn
    rw [← checks, here] at called
    exact does_of_eq called rfl rfl
  · intro polls remote
    have hears := hear_withPost course (course.posts socket) looping (some (.ok remote))
    simp only [here, Post.hear, polls, Act.turn, History.took_nothing] at hears
    let holding : Post := { course.posts socket with
      stage := .holds remote, deeds := (course.posts socket).deeds ++ [.hears (.ok remote)] }
    have hands := go_withPost course holding looping
    have both : course.run [.hear socket (some (.ok remote)), .go socket] = _ :=
      (congrArg (Course.step · (.go socket)) hears).trans hands
    exact does_of_eq both (by simp [holding, Post.go]) rfl
  · intro polls isOn failure reset
    have hears := hear_withPost course (course.posts socket) looping (some (.error failure))
    simp only [here, Post.hear, polls, if_pos reset, Act.turn, History.took_nothing] at hears
    have called := calls ((course.posts socket).deeds ++ [.hears (.error failure)]) isOn
    have whole : course.run [.hear socket (some (.error failure)), .go socket, .go socket] = _ :=
      (congrArg (Course.run · [.go socket, .go socket]) hears).trans called
    exact does_of_eq whole (by simp) rfl
  · intro remote hands isOn
    have leaves := leave_withPost course (course.posts socket) looping
    simp only [here, Post.leave, hands, Act.turn, History.took_nothing] at leaves
    have called := calls (course.posts socket).deeds isOn
    have whole : course.run [.leave socket, .go socket, .go socket] = _ :=
      (congrArg (Course.run · [.go socket, .go socket]) leaves).trans called
    exact does_of_eq whole rfl rfl
  · intro waits alive
    rw [step_wake waits alive looping, posts_withPost]

/-- The stop of a socket has returned, and its loop only comes to its end. -/
structure Silent (course : Course) (socket : Nat) : Prop where
  returned : (course.posts socket).halt = .returned
  quiet : (course.standing socket).looping = true → (course.posts socket).stage.quiet = true

/-- A loop that only comes to its end does nothing to the outside in a step. -/
theorem Silent.step (silent : course.Silent socket) (kept : course.Kept) (piece : Piece) :
    (course.step piece).Silent socket ∧ ((course.step piece).posts socket).deeds.filter Deed.isAct =
      (course.posts socket).deeds.filter Deed.isAct := by
  obtain ⟨returned, quiet⟩ := silent
  suffices still : ∀ standing, Acts course socket standing →
      standing.post.halt = .returned ∧
        (standing.looping = true → standing.post.stage.quiet = true) ∧
        standing.post.deeds.filter Deed.isAct =
          (course.posts socket).deeds.filter Deed.isAct by
    obtain ⟨halted, hushed, same⟩ := still _ (acts kept.orderly piece socket)
    exact ⟨⟨halted, hushed⟩, same⟩
  intro standing acts
  cases acts with
  | rests => exact ⟨returned, quiet, rfl⟩
  | opens fresh =>
      rw [kept.fresh socket fresh] at returned
      cases returned
  | releases active =>
      have unstopped := (kept.told socket).active active
      cases unstopped.symm.trans returned
  | advances =>
      have still : (course.posts socket).advance = course.posts socket := by
        simp only [Post.advance, returned]
      rw [still]
      exact ⟨returned, quiet, rfl⟩
  | moves looping moves =>
      have hushed := quiet looping
      have isOff : (course.posts socket).halt.isOn = false := by rw [returned]; rfl
      cases moves with
      | rests => exact ⟨returned, fun _ => hushed, rfl⟩
      | stops | aborts => exact ⟨returned, by simp [Act.isEnd], rfl⟩
      | leaves => exact ⟨returned, fun _ => rfl, rfl⟩
      | begins _ isOn => simp [isOff] at isOn
      | wakes _ alive => exact absurd returned alive
      | calls stage | sleeps stage | gets stage | skips stage | fails stage | hands stage =>
          simp [stage, Stage.quiet] at hushed

theorem Silent.run (silent : course.Silent socket) (kept : course.Kept) (pieces : List Piece) :
    ((course.run pieces).posts socket).deeds.filter Deed.isAct =
      (course.posts socket).deeds.filter Deed.isAct := by
  induction pieces generalizing course with
  | nil => rfl
  | cons piece rest ih =>
      obtain ⟨still, same⟩ := silent.step kept piece
      exact (ih still (kept.step piece)).trans same

/-- A loop that is past its check, or has a connection to hand over, does something yet. -/
theorem exists_act (looping : (course.history.acceptor.loop? socket).isSome = true)
    (busy : (course.posts socket).stage.quiet = false) :
    ∃ pieces, ((course.run pieces).posts socket).deeds.filter Deed.isAct ≠
      (course.posts socket).deeds.filter Deed.isAct := by
  have here : course.withPost socket course.history (course.posts socket) = course :=
    course.withPost_self socket
  have goes := go_withPost course (course.posts socket) looping
  rw [here] at goes
  cases stage : (course.posts socket).stage with
  | checks | waits | hands => simp [stage, Stage.quiet] at busy
  | calls =>
      refine ⟨[.go socket], ?_⟩
      rw [run, List.foldl_cons, List.foldl_nil, goes, posts_withPost]
      simp [Post.go, stage, Deed.isAct]
  | polls =>
      have remote : Address := course.history.acceptor.bindAddress
      refine ⟨[.hear socket (some (.ok remote)), .go socket], ?_⟩
      rw [((goesOn_of_looping looping).hands stage remote).deeds]
      simp [Deed.isAct]
  | holds remote =>
      refine ⟨[.go socket], ?_⟩
      rw [run, List.foldl_cons, List.foldl_nil, goes, posts_withPost]
      simp [Post.go, stage, Deed.isAct]

/-- Nothing happens to the outside any more exactly if the loop only comes to its end. -/
theorem silent_iff (kept : course.Kept) (returned : (course.posts socket).halt = .returned) :
    (∀ pieces, ((course.run pieces).posts socket).deeds.filter Deed.isAct =
      (course.posts socket).deeds.filter Deed.isAct) ↔
    ((course.history.acceptor.loop? socket).isSome = true →
      (course.posts socket).stage.quiet = true) := by
  refine ⟨fun still looping => ?_, fun quiet => Silent.run ⟨returned, quiet⟩ kept⟩
  by_contra busy
  obtain ⟨pieces, act⟩ := exists_act looping (by simpa using busy)
  exact act (still pieces)

/-- The connections of a socket are handed over, whatever has happened to its acceptor. -/
structure HandsOver (course : Course) (socket : Nat) : Prop where
  /-- Apart from the stop the loop goes round after round, until one is not followed by another. -/
  rounds : ∃ (past : List (Except Failure Address)) (last : List Deed),
    (course.posts socket).deeds.filter (fun deed => !deed.isStop) = past.flatMap round ++ last ∧
      (∀ result ∈ past, survives result = true) ∧ ∃ result, last <+: round result
  /-- The connections that come before the first failure that is not a reset are handed over, in
  order and each once, and no others. One that has just come may still have to be. -/
  handed : handed (course.posts socket).deeds ++ (course.posts socket).stage.held =
    connections (results (course.posts socket).deeds)
  /-- A failure that is not a reset ends the loop, and only the stop comes behind it. -/
  failures : ∀ front failure back,
    (course.posts socket).deeds = front ++ .hears (.error failure) :: back →
      isReset failure = false →
      course.history.acceptor.loop? socket = none ∧ ∀ deed ∈ back, deed = .stops
  active : (course.posts socket).deeds ≠ [] →
    (course.history.acceptor.active = some socket ↔ (course.posts socket).halt = .none)
  /-- The acceptor is running until the socket is stopped, also after a failure. -/
  running : course.history.acceptor.active = some socket →
    course.history.acceptor.phase = .running
  accepting : course.history.acceptor.active = some socket →
    (course.history.acceptor.isAccepting = false ↔
      ∃ failure, .hears (.error failure) ∈ (course.posts socket).deeds ∧ isReset failure = false)
  stopped : .stops ∈ (course.posts socket).deeds ↔ (course.posts socket).halt = .returned
  /-- Once the stop has returned, the loop does some of one round at most. -/
  late : ∀ front back, (course.posts socket).deeds = front ++ .stops :: back →
    ∃ result, back <:+: round result
  /-- If it was waiting, in the middle of a handover or about to look whether it goes on, it neither
  calls for a connection nor hands one over any more. -/
  silent : (course.posts socket).halt = .returned →
    ((∀ pieces, ((course.run pieces).posts socket).deeds.filter Deed.isAct =
        (course.posts socket).deeds.filter Deed.isAct) ↔
      ((course.history.acceptor.loop? socket).isSome = true →
        (course.posts socket).stage.quiet = true))
  goesOn : (course.history.acceptor.loop? socket).isSome = true → course.GoesOn socket
  /-- When all tasks take one turn at a time, each turn is made up of such steps. -/
  turns : course.Rests → ∀ event, course.Fits event → course.Comprises (course.history.step event)
  asks : Asks course.history socket

theorem Kept.handsOver (kept : course.Kept) (socket : Nat) : course.HandsOver socket := by
  have told := kept.told socket
  obtain ⟨past, last, rounds⟩ := told.rounds
  have active : (course.standing socket).active = true ↔
      course.history.acceptor.active = some socket := decide_eq_true_iff
  have gone : (course.standing socket).looping = false ↔
      course.history.acceptor.loop? socket = none := by simp [standing]
  refine { rounds := ⟨past, last, rounds.log, rounds.survived, rounds.last_prefix⟩,
           handed := rounds.handed_eq, failures := ?_, active := ?_, running := ?_,
           accepting := ?_, stopped := ?_, late := fun _ _ split => told.after_stop split,
           silent := silent_iff kept, goesOn := goesOn_of_looping,
           turns := fun rests => comprises rests kept.orderly,
           asks := course.history.asks socket }
  · intro front failure back split lasting
    exact (rounds.after_failure split lasting).imp_left gone.mp
  · intro busy
    refine ⟨fun own => told.active (active.mpr own), fun unstopped => ?_⟩
    by_contra closed
    have inactive := Bool.eq_false_iff.mpr (mt active.mp closed)
    exact busy (congrArg Post.deeds (told.unopened inactive unstopped).2)
  · intro busy
    exact kept.orderly.running.mpr (by rw [busy]; rfl)
  · intro busy
    have ended : course.history.acceptor.isAccepting = false ↔
        course.history.acceptor.loop? socket = none := by simp [isAccepting, busy]
    exact (ended.trans gone.symm).trans (rounds.over_iff (active.mpr busy))
  · refine ⟨fun among => ?_, fun returned => ?_⟩
    · by_contra unreturned
      simpa [Deed.isStop] using told.unstopped unreturned _ among
    · obtain ⟨front, back, split, -⟩ := told.stopped returned
      exact split ▸ List.mem_append_right front List.mem_cons_self

theorem opened_rests (bindAddress : Address) (limits : ReceiveLimits) :
    (opened bindAddress limits).Rests where
  loops := by simp [opened, History.opened]
  halts := by simp [opened, History.opened]
  fresh _ _ := rfl

/-- Whatever happens to an acceptor, and whenever it is stopped, the connections of each socket are
handed over. -/
theorem run_hands_over (bindAddress : Address) (limits : ReceiveLimits) :
    (opened bindAddress limits).Rests ∧
      ∀ pieces socket, ((opened bindAddress limits).run pieces).HandsOver socket :=
  ⟨opened_rests bindAddress limits, fun pieces socket =>
    ((opened_kept bindAddress limits).run pieces).handsOver socket⟩

/-- A socket is bound, and its loop has called for a connection. -/
def calling : Course :=
  (opened (.loopback 4530) {}).run [.start, .bound 0 (.ok ()), .go 0, .go 0]

/-- A connection, a reset and another connection come, and then a failure that is not a reset. The
acceptor is stopped when its loop is over. -/
def visited : Course :=
  calling.run
    [.hear 0 none, .go 0, .hear 0 (some (.ok (.loopback 1))), .go 0, .leave 0, .go 0, .go 0,
      .hear 0 (some (.error (.io .connectionReset))), .go 0, .go 0,
      .hear 0 (some (.ok (.loopback 2))), .go 0, .leave 0, .go 0, .go 0,
      .hear 0 (some (.error (.io .brokenPipe))), .go 0, .stop, .advance 0, .advance 0, .advance 0]

theorem run_hands_over_visited :
    visited.HandsOver 0 ∧ (visited.posts 0).deeds =
      round (.ok (.loopback 1)) ++ round (.error (.io .connectionReset)) ++
        round (.ok (.loopback 2)) ++ round (.error (.io .brokenPipe)) ++ [.stops] := by
  refine ⟨?_, rfl⟩
  rw [visited, calling, ← run_append]
  exact (run_hands_over _ _).2 _ 0

/-- The stop of the socket has run from its beginning to its end. -/
def halted (course : Course) : Course := course.run [.stop, .advance 0, .advance 0, .advance 0]

/-- A stop returns before a connection is handed over that was accepted before, or before a call for
a connection that the loop was about to make. -/
theorem late_handover :
    let accepted := halted (calling.step (.hear 0 (some (.ok (.loopback 1)))))
    let checked := halted ((opened (.loopback 4530) {}).run [.start, .bound 0 (.ok ()), .go 0])
    accepted.history.endings = [(.caller 0, .started (.ok ())), (.caller 1, .stopped)] ∧
      (accepted.posts 0).deeds = [.accepts, .hears (.ok (.loopback 1)), .stops] ∧
      ((accepted.step (.go 0)).posts 0).deeds =
        [.accepts, .hears (.ok (.loopback 1)), .stops, .hands (.loopback 1)] ∧
      (checked.posts 0).deeds = [.stops] ∧
      ((checked.step (.go 0)).posts 0).deeds = [.stops, .accepts] :=
  ⟨rfl, rfl, rfl, rfl, rfl⟩

end Course

end Acceptor

end ReliableTransport
