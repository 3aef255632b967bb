import ReliableTransport.Proofs.Acceptor.Places
/-!
This module says what the log of a socket looks like, whatever has happened to an acceptor: the loop
went round after round, and once the stop of the socket has returned it only came to the end of the
round that it was in.
-/

namespace ReliableTransport

namespace Acceptor

def Deed.isStop : Deed → Bool
  | stops => true
  | _ => false

/-- What the loop of a socket does and hears in a round whose call ends like this. -/
def round : Except Failure Address → List Deed
  | .ok remote => [.accepts, .hears (.ok remote), .hands remote]
  | .error failure => [.accepts, .hears (.error failure)]

/-- A loop goes on to its next round after a connection or a reset. -/
def survives : Except Failure Address → Bool
  | .ok _ => true
  | .error failure => isReset failure

/-- What a loop has done of its round so far. -/
def Stage.done : Stage → List Deed
  | checks | calls => []
  | polls | waits => [.accepts]
  | holds remote => [.accepts, .hears (.ok remote)]
  | hands remote => round (.ok remote)

/-- What a loop did last, behind the rounds that it has been through. -/
inductive Last (standing : Standing) : List Deed → Prop where
  | goesOn (looping : standing.looping = true) : Last standing standing.post.stage.done
  /-- The loop was over when it was told to stop, or when it was aborted. -/
  | halted (gone : standing.looping = false) (inactive : standing.active = false)
      (stage : standing.post.stage = .checks ∨ standing.post.stage = .waits) :
      Last standing standing.post.stage.done
  | failed (gone : standing.looping = false) (stage : standing.post.stage = .checks)
      {failure : Failure} (lasting : isReset failure = false) :
      Last standing (round (.error failure))

/-- The log of a socket, but for its stop, is made up of rounds. -/
structure Rounds (standing : Standing) (past : List (Except Failure Address)) (last : List Deed) :
    Prop where
  log : standing.post.deeds.filter (fun deed => !deed.isStop) = past.flatMap round ++ last
  survived : ∀ result ∈ past, survives result = true
  last : Last standing last

/-- What a loop does after the stop of its socket has returned is some of one round. If the loop
goes on, the round is the one that it is in. -/
structure Closes (standing : Standing) (back : List Deed) : Prop where
  unstopped : ∀ deed ∈ back, deed.isStop = false
  within : ∃ result, back <:+: round result
  current : standing.looping = true → standing.post.stage ≠ .checks →
    back <:+ standing.post.stage.done

/-- What holds of a socket. -/
structure Told (standing : Standing) : Prop where
  active : standing.active = true → standing.post.halt = .none
  unopened : standing.active = false → standing.post.halt = .none →
    standing.looping = false ∧ standing.post = {}
  rounds : ∃ past last, Rounds standing past last
  unstopped : standing.post.halt ≠ .returned → ∀ deed ∈ standing.post.deeds, deed.isStop = false
  stopped : standing.post.halt = .returned → ∃ front back,
    standing.post.deeds = front ++ .stops :: back ∧ (∀ deed ∈ front, deed.isStop = false) ∧
      Closes standing back

/-- What a loop has done of its round is the beginning of a round. -/
theorem Stage.done_prefix (stage : Stage) : ∃ result, stage.done <+: round result := by
  cases stage with
  | checks | calls => exact ⟨.error (.io .connectionReset), List.nil_prefix⟩
  | polls | waits => exact ⟨.error (.io .connectionReset), [.hears _], rfl⟩
  | holds remote => exact ⟨.ok remote, [.hands remote], rfl⟩
  | hands remote => exact ⟨.ok remote, List.prefix_rfl⟩

variable {post next : Post} {act : Act} {standing : Standing}

/-- What a step of a loop adds to its round. -/
inductive Extends (post next : Post) (act : Act) (added : List Deed) : Prop where
  | goesOn (alive : act.isEnd = false) (done : next.stage.done = post.stage.done ++ added)
  | completes {result : Except Failure Address} (alive : act.isEnd = false)
      (whole : post.stage.done ++ added = round result) (survived : survives result = true)
      (stage : next.stage = .checks)
  | fails {failure : Failure} (gone : act.isEnd = true)
      (whole : post.stage.done ++ added = round (.error failure))
      (lasting : isReset failure = false) (stage : next.stage = .checks)
  | halts (gone : act.isEnd = true) (still : next = post) (nothing : added = [])
      (isOff : post.halt.isOn = false) (stage : post.stage = .checks ∨ post.stage = .waits)

theorem Moves.extends (moves : Moves post next act) :
    ∃ added, next.deeds = post.deeds ++ added ∧ (∀ deed ∈ added, deed.isStop = false) ∧
      Extends post next act added := by
  cases moves with
  | rests => exact ⟨[], by simp, by simp, .goesOn rfl (by simp)⟩
  | begins checks => exact ⟨[], by simp, by simp, .goesOn rfl (by rw [checks]; rfl)⟩
  | stops checks isOff => exact ⟨[], by simp, by simp, .halts rfl rfl rfl isOff (.inl checks)⟩
  | aborts waits returned =>
      exact ⟨[], by simp, by simp, .halts rfl rfl rfl (by rw [returned]; rfl) (.inr waits)⟩
  | calls calls =>
      exact ⟨[.accepts], rfl, by simp [Deed.isStop], .goesOn rfl (by rw [calls]; rfl)⟩
  | sleeps polls => exact ⟨[], by simp, by simp, .goesOn rfl (by rw [polls]; rfl)⟩
  | wakes waits => exact ⟨[], by simp, by simp, .goesOn rfl (by rw [waits]; rfl)⟩
  | gets polls remote =>
      exact ⟨[.hears (.ok remote)], rfl, by simp [Deed.isStop], .goesOn rfl (by rw [polls]; rfl)⟩
  | @skips polls failure reset =>
      exact ⟨[.hears (.error failure)], rfl, by simp [Deed.isStop],
        @Extends.completes _ _ _ _ (.error failure) rfl (by rw [polls]; rfl) reset rfl⟩
  | @fails polls failure lasting =>
      exact ⟨[.hears (.error failure)], rfl, by simp [Deed.isStop],
        .fails rfl (by rw [polls]; rfl) lasting rfl⟩
  | @hands remote holds =>
      exact ⟨[.hands remote], rfl, by simp [Deed.isStop], .goesOn rfl (by rw [holds]; rfl)⟩
  | @leaves remote hands =>
      exact ⟨[], by simp, by simp, @Extends.completes _ _ _ _ (.ok remote) rfl
        (by rw [hands]; rfl) rfl rfl⟩

theorem Extends.within {added : List Deed} (more : Extends post next act added) :
    ∃ result, post.stage.done ++ added <+: round result := by
  cases more with
  | goesOn _ done => exact done ▸ next.stage.done_prefix
  | completes _ whole | fails _ whole =>
      rw [whole]
      exact ⟨_, List.prefix_rfl⟩
  | halts _ _ nothing =>
      rw [nothing, List.append_nil]
      exact post.stage.done_prefix

theorem Moves.halt (moves : Moves post next act) : next.halt = post.halt := by
  cases moves <;> rfl

/-- A loop that was told to stop is over when it looks. -/
theorem Moves.of_checks (moves : Moves post next act) (checks : post.stage = .checks)
    (isOff : post.halt.isOn = false) : next = post := by
  cases moves with
  | rests | stops => rfl
  | begins _ isOn => simp [isOff] at isOn
  | calls stage | sleeps stage | wakes stage | aborts stage | gets stage | skips stage
  | fails stage | hands stage | leaves stage => simp [checks] at stage

/-- A loop that goes on has done what belongs to its place in its round. -/
theorem Last.of_looping {last : List Deed} (told : Last standing last)
    (looping : standing.looping = true) : last = standing.post.stage.done := by
  cases told with
  | goesOn => rfl
  | halted gone | failed gone => simp [looping] at gone

/-- A step of a loop adds to its round, or ends it. -/
theorem Rounds.moves {past : List (Except Failure Address)} {last : List Deed}
    (rounds : Rounds standing past last)
    (active : standing.active = true → standing.post.halt = .none)
    (looping : standing.looping = true) (moves : Moves standing.post next act) :
    ∃ past last, Rounds { standing with looping := !act.isEnd, post := next } past last := by
  obtain ⟨log, survived, told⟩ := rounds
  obtain rfl := told.of_looping looping
  obtain ⟨added, deeds, unstopped, more⟩ := moves.extends
  have grown : next.deeds.filter (fun deed => !deed.isStop) =
      past.flatMap round ++ (standing.post.stage.done ++ added) := by
    have kept : added.filter (fun deed => !deed.isStop) = added :=
      List.filter_eq_self.mpr fun deed among => by rw [unstopped deed among]; rfl
    rw [deeds, List.filter_append, kept, log, List.append_assoc]
  cases more with
  | goesOn alive done =>
      rw [← done] at grown
      exact ⟨past, _, grown, survived, .goesOn (by simp [alive])⟩
  | @completes result alive whole outlived stage =>
      refine ⟨past ++ [result], [], ?_, fun other among => ?_, ?_⟩
      · rw [List.flatMap_append, List.flatMap_singleton, List.append_nil, ← whole]
        exact grown
      · rcases List.mem_append.mp among with former | new
        · exact survived other former
        · exact List.mem_singleton.mp new ▸ outlived
      · have done : next.stage.done = [] := by rw [stage]; rfl
        exact done ▸ Last.goesOn (by simp [alive])
  | fails gone whole lasting stage =>
      rw [whole] at grown
      exact ⟨past, _, grown, survived, .failed (by simp [gone]) stage lasting⟩
  | halts gone still nothing isOff stage =>
      subst still
      rw [nothing, List.append_nil] at grown
      refine ⟨past, _, grown, survived, .halted (by simp [gone]) ?_ stage⟩
      by_contra on
      rw [active (by simpa using on)] at isOff
      cases isOff

/-- The loop of a socket whose stop has returned goes on in its round, or comes to its end. -/
theorem Closes.moves {back added : List Deed} (closes : Closes standing back)
    (looping : standing.looping = true) (isOff : standing.post.halt.isOn = false)
    (moves : Moves standing.post next act) (deeds : next.deeds = standing.post.deeds ++ added)
    (unstopped : ∀ deed ∈ added, deed.isStop = false)
    (more : Extends standing.post next act added) :
    Closes { standing with looping := !act.isEnd, post := next } (back ++ added) := by
  have nothing (checks : standing.post.stage = .checks) : next = standing.post ∧ added = [] := by
    have still := moves.of_checks checks isOff
    exact ⟨still, List.append_right_eq_self.mp (deeds.symm.trans (congrArg Post.deeds still))⟩
  have grown (busy : standing.post.stage ≠ .checks) :
      back ++ added <:+ standing.post.stage.done ++ added := by
    obtain ⟨front, same⟩ := closes.current looping busy
    exact ⟨front, by rw [← same, List.append_assoc]⟩
  refine ⟨fun deed among => ?_, ?_, fun goesOn busy => ?_⟩
  · exact (List.mem_append.mp among).elim (closes.unstopped deed) (unstopped deed)
  · by_cases checks : standing.post.stage = .checks
    · rw [(nothing checks).2, List.append_nil]
      exact closes.within
    · obtain ⟨result, first⟩ := more.within
      exact ⟨result, (grown checks).isInfix.trans first.isInfix⟩
  · by_cases checks : standing.post.stage = .checks
    · exact absurd ((congrArg Post.stage (nothing checks).1).trans checks) busy
    · cases more with
      | goesOn alive done => exact done ▸ grown checks
      | completes alive whole outlived stage => exact absurd stage busy
      | fails gone | halts gone => simp [gone] at goesOn

/-- A socket that was not opened yet. -/
theorem told_unopened : Told { active := false, looping := false, post := {} } where
  active := nofun
  unopened _ _ := ⟨rfl, rfl⟩
  rounds := ⟨[], _, rfl, by simp, .halted rfl rfl (.inl rfl)⟩
  unstopped _ := by simp
  stopped := nofun

theorem told_opened : Told { active := true, looping := true, post := {} } where
  active _ := rfl
  unopened := nofun
  rounds := ⟨[], _, rfl, by simp, .goesOn rfl⟩
  unstopped _ := by simp
  stopped := nofun

/-- The loop of a socket takes a step. -/
theorem Told.moves (told : Told standing) (looping : standing.looping = true)
    (moves : Moves standing.post next act) :
    Told { standing with looping := !act.isEnd, post := next } where
  active active := moves.halt.trans (told.active active)
  unopened inactive none := by
    have gone := (told.unopened inactive (moves.halt.symm.trans none)).1
    simp [looping] at gone
  rounds := by
    obtain ⟨past, last, rounds⟩ := told.rounds
    exact rounds.moves told.active looping moves
  unstopped alive deed among := by
    obtain ⟨added, deeds, unstopped, _⟩ := moves.extends
    have former := told.unstopped fun returned => alive (moves.halt.trans returned)
    rw [deeds] at among
    exact (List.mem_append.mp among).elim (former deed) (unstopped deed)
  stopped returned := by
    obtain ⟨added, deeds, unstopped, more⟩ := moves.extends
    have before : standing.post.halt = .returned := moves.halt.symm.trans returned
    obtain ⟨front, back, split, spared, closes⟩ := told.stopped before
    refine ⟨front, back ++ added, by simp [deeds, split], spared, ?_⟩
    exact closes.moves looping (by rw [before]; rfl) moves deeds unstopped more

/-- The acceptor lets go of the socket. -/
theorem Told.releases (told : Told standing) (active : standing.active = true) :
    Told { standing with active := false, post := { standing.post with halt := .released } } where
  active := nofun
  unopened _ := nofun
  rounds := by
    obtain ⟨past, last, log, survived, told⟩ := told.rounds
    refine ⟨past, last, log, survived, ?_⟩
    cases told with
    | goesOn looping => exact .goesOn looping
    | halted _ inactive => simp [active] at inactive
    | failed gone stage lasting =>
        refine .failed ?_ ?_ lasting
        · exact gone
        · exact stage
  unstopped _ := told.unstopped (by rw [told.active active]; nofun)
  stopped := nofun

/-- What the loop did last does not depend on how far the stop has come. -/
theorem Last.of_stage {last : List Deed} (told : Last standing last)
    (stage : next.stage = standing.post.stage) : Last { standing with post := next } last := by
  cases told with
  | goesOn looping =>
      rw [← stage]
      exact Last.goesOn looping
  | halted gone inactive place =>
      rw [← stage]
      refine Last.halted ?_ ?_ ?_
      · exact gone
      · exact inactive
      · exact stage ▸ place
  | failed gone place lasting =>
      refine .failed ?_ ?_ lasting
      · exact gone
      · exact stage.trans place

/-- The stop of the socket is still under way. -/
theorem Told.deepens (told : Told standing) (started : standing.post.halt ≠ .none)
    (underway : standing.post.halt ≠ .returned) {halt : Halt} (goesOn : halt ≠ .none)
    (unfinished : halt ≠ .returned) :
    Told { standing with post := { standing.post with halt } } where
  active active := absurd (told.active active) started
  unopened _ none := absurd none goesOn
  rounds := by
    obtain ⟨past, last, log, survived, told⟩ := told.rounds
    exact ⟨past, last, log, survived, told.of_stage rfl⟩
  unstopped _ := told.unstopped underway
  stopped returned := absurd returned unfinished

/-- The stop of the socket returns. -/
theorem Told.returns (told : Told standing) (closed : standing.post.halt = .closed) :
    Told { standing with post := { standing.post with
      halt := .returned, deeds := standing.post.deeds ++ [.stops] } } where
  active active := by simp [told.active active] at closed
  unopened _ := nofun
  rounds := by
    obtain ⟨past, last, log, survived, told⟩ := told.rounds
    refine ⟨past, last, ?_, survived, told.of_stage rfl⟩
    rw [List.filter_append, log]
    simp [Deed.isStop]
  unstopped alive := absurd rfl alive
  stopped _ := ⟨standing.post.deeds, [], rfl, told.unstopped (by rw [closed]; nofun),
    by simp, ⟨.error (.io .connectionReset), List.nil_infix⟩, fun _ _ => List.nil_suffix⟩

/-- The stop of the socket goes on. -/
theorem Told.advances (told : Told standing) :
    Told { standing with post := standing.post.advance } := by
  cases halt : standing.post.halt with
  | none | returned =>
      have still : standing.post.advance = standing.post := by simp only [Post.advance, halt]
      rw [still]
      exact told
  | released | told =>
      simp only [Post.advance, halt]
      refine told.deepens ?_ ?_ ?_ ?_ <;> simp [halt]
  | closed =>
      simp only [Post.advance, halt]
      exact told.returns halt

namespace Course

variable {course : Course} {socket : Nat}

/-- What holds of an acceptor with its sockets. -/
structure Kept (course : Course) : Prop where
  orderly : course.history.Orderly
  fresh : ∀ socket, socket ∉ course.history.reached → course.posts socket = {}
  told : ∀ socket, Told (course.standing socket)

theorem Kept.known_of_looping (kept : course.Kept)
    (looping : (course.standing socket).looping = true) : socket ∈ course.history.reached := by
  obtain ⟨loop, among, rfl⟩ := (looping_iff course.history.acceptor socket).mp looping
  exact (kept.orderly.owned.looped loop among).1

theorem Kept.known_of_active (kept : course.Kept)
    (active : (course.standing socket).active = true) : socket ∈ course.history.reached :=
  kept.orderly.owned.active socket (of_decide_eq_true active)

/-- Nothing is known of a socket that was not bound yet, also after a step. -/
theorem Acts.fresh {standing : Standing} (acts : Acts course socket standing) (kept : course.Kept)
    (unreached : socket ∉ course.history.reached) : standing.post = {} := by
  have former := kept.fresh socket unreached
  cases acts with
  | rests | opens => exact former
  | moves looping => exact absurd (kept.known_of_looping looping) unreached
  | releases active => exact absurd (kept.known_of_active active) unreached
  | advances =>
      show (course.posts socket).advance = {}
      rw [former]
      rfl

theorem Acts.told {standing : Standing} (acts : Acts course socket standing) (kept : course.Kept) :
    Told standing := by
  have before := kept.told socket
  cases acts with
  | rests => exact before
  | opens unreached =>
      rw [kept.fresh socket unreached]
      exact told_opened
  | moves looping moves => exact before.moves looping moves
  | releases active => exact before.releases active
  | advances => exact before.advances

theorem reached_step (course : Course) (piece : Piece) :
    course.history.reached ⊆ (course.step piece).history.reached := by
  have moved (socket : Nat) (moved : Post × Act) :
      course.history.reached ⊆ (course.move socket moved).history.reached := by
    rw [move]
    split <;> exact List.Subset.refl _
  cases piece with
  | start => exact List.Subset.refl _
  | stop | halt | abandon | advance => exact List.Subset.refl _
  | bound number result =>
      cases result with
      | ok => exact List.subset_append_left _ _
      | error => exact List.Subset.refl _
  | go | hear | leave => exact moved _ _

theorem Kept.step (kept : course.Kept) (piece : Piece) : (course.step piece).Kept where
  orderly := orderly_step kept.orderly piece
  fresh socket unreached := (acts kept.orderly piece socket).fresh kept fun known =>
    unreached (course.reached_step piece known)
  told socket := (acts kept.orderly piece socket).told kept

theorem Kept.run (kept : course.Kept) (pieces : List Piece) : (course.run pieces).Kept := by
  induction pieces generalizing course with
  | nil => exact kept
  | cons piece rest ih => exact ih (kept.step piece)

theorem opened_kept (bindAddress : Address) (limits : ReceiveLimits) :
    (opened bindAddress limits).Kept where
  orderly := History.opened_orderly bindAddress limits
  fresh _ _ := rfl
  told _ := told_unopened

end Course

end Acceptor

end ReliableTransport
