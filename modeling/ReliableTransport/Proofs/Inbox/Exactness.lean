import Mathlib.Data.List.TakeWhile
import ReliableTransport.Proofs.Batch.Encoding
import ReliableTransport.Proofs.Inbox.Custody
/-!
This module says what an inbox delivers over its whole life: the messages of the packages that it
heard of, each once and in order, to whoever was registered when the delivery began. The size of the
passes and their bounds are nothing to it.
-/

namespace ReliableTransport

namespace Inbox

variable {Handler Other : Type}

/-- The messages that a package holds. Only the layout of messages is a frame. -/
inductive Holds : Bool → Package → List Package → Prop where
  | whole (package : Package) : Holds false package [package]
  | frame {package : Package} {parts : List Bytes} (fits : Frame.Fits parts)
      (same : package.data = Frame.layout parts) :
      Holds true package (parts.map fun data => { package with data })

theorem unpack_iff (batched : Bool) (package : Package) (messages : List Package) :
    unpack batched package = some messages ↔ Holds batched package messages := by
  cases batched with
  | false =>
      constructor
      · intro found
        obtain rfl : [package] = messages := by simpa [unpack] using found
        exact .whole package
      · rintro ⟨⟩
        rfl
  | true =>
      rw [unpack, if_pos rfl]
      cases read : Batch.ofBytes package.data with
      | ok batch =>
          obtain ⟨fits, layout, _⟩ := (Batch.ofBytes_ok_iff _ _).mp read
          constructor
          · intro found
            obtain rfl := Option.some.inj found
            exact .frame fits layout
          · rintro (_ | ⟨fitsToo, same⟩)
            obtain rfl := Batch.layout_injective fits fitsToo (layout.symm.trans same)
            rfl
      | error stop =>
          constructor
          · nofun
          · rintro (_ | ⟨fits, same⟩)
            rw [same, Batch.ofBytes_layout fits] at read
            cases read

/-- Nobody who listens to the source is the inbox, and each has a number of the source. -/
structure Foreign (source : Source Other) : Prop where
  others : ∀ entry ∈ source.listeners.entries, entry.2.isInbox = false
  numbered : ∀ entry ∈ source.listeners.entries, entry.1 < source.listeners.nextId

namespace Course

variable {course : Course Handler Other}

/-- The worker has nothing left to do. It has ended if the inbox is closed. -/
structure Rests (course : Course Handler Other) : Prop where
  pass : course.pass = {}
  queue : course.inbox.mailbox.queue = []
  worker : course.inbox.mailbox.worker =
    if course.inbox.mailbox.closed then .ended else .waiting

/-- What an inbox does with the packages that it heard of. -/
structure Faithful (batched : Bool) (course : Course Handler Other) : Prop where
  /-- The messages of the packages are delivered one after the other. -/
  messages : delivered course.log ++ (course.pass.messages ++
      (unpacked batched (course.pass.packages ++ course.inbox.mailbox.queue)).flatten) =
    (unpacked batched (heard course.log)).flatten
  /-- The packages that hold messages are unpacked one after the other. -/
  packages : openings course.log ++
      (course.pass.packages ++ course.inbox.mailbox.queue).filter (legible batched) =
    (heard course.log).filter (legible batched)
  /-- Each delivery begins when the one before is over. It goes to those who are registered then. -/
  acted : acts course.log ++ course.pass.orders.map .calls = due {} course.log
  handlers : course.inbox.handlers = registered course.log
  messageCount : course.inbox.messageCount =
    UInt64.ofNat (tally (fun deed => deed.message?.isSome) course.log)
  packageCount : course.inbox.packageCount =
    UInt64.ofNat (tally (fun deed => deed.opened?.isSome) course.log)

theorem Exact.faithful {batched : Bool} {own : Nat} (exact : Exact batched course)
    (custody : Custody own course) : Faithful batched course where
  messages := by
    rw [← custody.conserved, unpacked_append _ (worked course.log), List.flatten_append,
      ← exact.delivered, List.append_assoc]
  packages := by
    rw [← custody.conserved, List.filter_append (worked course.log) _, exact.opened]
  acted := exact.acted
  handlers := exact.handlers
  messageCount := exact.messageCount
  packageCount := exact.packageCount

/-- An inbox that was just made has heard of nothing. -/
theorem opened_exact {settings : InboxSettings} (valid : settings.check = .ok ())
    (room : Memory.hasRoom settings.packagesPerPass Package.slotSize = true) {source : Source Other}
    (foreign : Foreign source) :
    ∃ inbox : Inbox Handler Other, create settings source = .ok (.ok inbox) ∧
      Exact settings.batched (opened inbox) ∧
      Custody source.listeners.nextId (opened inbox) := by
  obtain ⟨limit_pos, created⟩ := @create_eq Handler Other _ valid room source
  refine ⟨_, created, ?_, ?_⟩
  · exact {
      kept := rfl
      handlers := rfl
      acted := rfl
      delivered := rfl
      opened := rfl
      messageCount := rfl
      packageCount := rfl }
  · have silent : ears source = 0 := by
      rw [ears_eq, List.countP_eq_zero]
      intro entry among
      rw [foreign.others entry among]
      exact Bool.false_ne_true
    exact {
      room := rfl
      whole := nofun
      conserved := rfl
      idle := fun _ => rfl
      ended := nofun
      attached := fun _ => {
        subscription := rfl
        isOpen := rfl
        used := Nat.lt_succ_self _
        own_iff := by
          intro entry among
          rcases List.mem_append.mp among with before | last
          · rw [foreign.others entry before]
            exact iff_of_false (Nat.ne_of_lt (foreign.numbered entry before)) Bool.false_ne_true
          · obtain rfl := List.mem_singleton.mp last
            exact iff_of_true rfl rfl
        once := by
          have registered := ears_subscribe source
          rw [silent] at registered
          exact registered }
      parted := nofun
      joinable := iff_of_true rfl rfl
      alone := fun _ => rfl
      early := nofun }

/-- The worker changes nothing at the source, and nobody's wish to wait. -/
theorem work_keeps (course : Course Handler Other) :
    heard course.work.log = heard course.log ∧
      course.work.inbox.mailbox.closed = course.inbox.mailbox.closed ∧
      course.work.inbox.mailbox.joiner = course.inbox.mailbox.joiner := by
  have silent (deed : Deed Handler) (told : deed.told? = none) :
      heard (course.log ++ [deed]) = heard course.log := by simp [told]
  generalize next : course.work = after
  cases next ▸ works course with
  | calls | delivers | opens | discards => exact ⟨silent _ rfl, rfl, rfl⟩
  | ends => exact ⟨rfl, rfl, rfl⟩
  | begins =>
      obtain ⟨queue, worker, same, _⟩ := course.inbox.mailbox.takePass_frame
      rw [same]
      exact ⟨rfl, rfl, rfl⟩

/-- What the worker has to do. What comes first counts most. -/
def labour (course : Course Handler Other) : Nat × Nat × Nat × Nat × Nat :=
  (course.inbox.mailbox.queue.length,
    match course.inbox.mailbox.worker with
    | .busy => 2
    | .waiting => 1
    | .ended | .broken => 0,
    course.pass.packages.length, course.pass.messages.length, course.pass.orders.length)

theorem Custody.ended_of_idle {own : Nat} (custody : Custody own course)
    (idle : course.inbox.mailbox.worker ≠ .busy) (goesOn : course.inbox.mailbox.worker ≠ .waiting) :
    course.inbox.mailbox.worker = .ended := by
  cases worker : course.inbox.mailbox.worker with
  | waiting => exact absurd worker goesOn
  | busy => exact absurd worker idle
  | ended => rfl
  | broken => exact absurd worker custody.whole

/-- Whatever the worker does, it has less to do then. -/
theorem Custody.shortens {own : Nat} (custody : Custody own course) (goesOn : ¬Rests course) :
    WellFoundedRelation.rel (labour course.work) (labour course) := by
  generalize next : course.work = after
  cases next ▸ works course with
  | calls remains =>
      rw [labour, labour, remains]
      exact .right _ (.right _ (.right _ (.right _ (Nat.lt_succ_self _))))
  | delivers remains =>
      rw [labour, labour, remains]
      exact .right _ (.right _ (.right _ (.left _ _ (Nat.lt_succ_self _))))
  | opens remains | discards remains =>
      rw [labour, labour, remains]
      exact .right _ (.right _ (.left _ _ (Nat.lt_succ_self _)))
  | ends remains busy =>
      rw [labour, labour, busy]
      exact .right _ (.left _ _ (Nat.lt_succ_self _))
  | begins remains idle =>
      by_cases waits : course.inbox.mailbox.worker = .waiting
      · by_cases empty : course.inbox.mailbox.queue = []
        · cases closed : course.inbox.mailbox.closed with
          | false => exact absurd ⟨remains, empty, by rw [waits, closed]; rfl⟩ goesOn
          | true =>
              rw [Mailbox.takePass_of_empty waits custody.room empty, labour, labour, waits, closed]
              exact .right _ (.left _ _ (Nat.lt_succ_self _))
        · rw [Mailbox.takePass_of_queued waits custody.room empty, labour, labour]
          refine .left _ _ ?_
          rw [List.length_drop]
          exact Nat.sub_lt (List.length_pos_iff.mpr empty) course.inbox.mailbox.limit_pos
      · have ended := custody.ended_of_idle idle waits
        obtain ⟨closed, empty⟩ := custody.ended ended
        exact absurd ⟨remains, empty, by rw [ended, closed]; rfl⟩ goesOn

/-- A worker that is left alone comes to rest. -/
theorem Custody.exists_rest {own : Nat} {course : Course Handler Other}
    (custody : Custody own course) :
    ∃ turns, let last := course.run (List.replicate turns .work)
      Rests last ∧ heard last.log = heard course.log ∧
        last.inbox.mailbox.closed = course.inbox.mailbox.closed ∧
        last.inbox.mailbox.joiner = course.inbox.mailbox.joiner := by
  by_cases rests : Rests course
  · exact ⟨0, rests, rfl, rfl, rfl⟩
  · obtain ⟨turns, atRest, told, closed, joiner⟩ := custody.work.exists_rest
    obtain ⟨toldToo, closedToo, joinerToo⟩ := work_keeps course
    exact ⟨turns + 1, atRest, told.trans toldToo, closed.trans closedToo, joiner.trans joinerToo⟩
termination_by labour course
decreasing_by exact custody.shortens rests

/-- What the worker and the handlers that it calls do is nothing to what was heard. -/
theorem heard_inner {events : List (Event Handler Other)}
    (inner : ∀ event ∈ events, event.isInner = true) (course : Course Handler Other) :
    heard (course.run events).log = heard course.log := by
  induction events generalizing course with
  | nil => rfl
  | cons event rest ih =>
      obtain ⟨first, others⟩ := List.forall_mem_cons.mp inner
      have later : heard (course.run (event :: rest)).log = _ := ih others (course.step event)
      rw [later]
      cases event with
      | work => exact (work_keeps course).1
      | call call =>
          cases call with
          | subscribe handler => simp [step, Call.deeds, Deed.told?]
          | unsubscribe id => simp [step, Call.deeds, Deed.told?]
          | fire | reset | close | dispose => cases first
      | turn | abandon | announce | tell | listen | unlisten => cases first

theorem drained_of_ended {mailbox : Mailbox Package} (ended : mailbox.worker = .ended)
    (closed : mailbox.closed = true) (empty : mailbox.queue = []) : drained mailbox = mailbox := by
  obtain ⟨limit, limit_pos, hasRoom, queue, isClosed, worker, joinable, joiner⟩ := mailbox
  simp only at ended closed empty
  subst ended closed empty
  rfl

/-- A turn of the worker does what its work does piece by piece, whatever the handlers do when they
are called, and however many passes the worker makes before it lets others run. It is at rest after
a turn in which it makes as many as it can. -/
theorem Custody.turn_rests {own : Nat} (custody : Custody own course)
    (react : Handler → Package → List (Change Handler)) (passes : Nat) (pass : course.pass = {})
    (idle : course.inbox.mailbox.worker ≠ .busy) :
    let turn : Turn (Inbox Handler Other) Mailbox.Role (Order Handler) Reply :=
      makePasses react passes course.inbox
    ∃ events : List (Event Handler Other), (∀ event ∈ events, event.isInner = true) ∧
      let last := course.run events
      last.inbox = turn.1 ∧ last.pass = {} ∧ heard last.log = heard course.log ∧
        called last.log = called course.log ++ Effect.orders turn.2 ∧
        (course.inbox.mailbox.queue.length < passes →
          Rests last ∧ turn = (component react).resume 0 .worker course.inbox) := by
  intro turn
  obtain ⟨events, inner, state, done, made⟩ := turn_leads react passes course pass idle
  refine ⟨events, inner, state, done, heard_inner inner course, made, fun enough => ?_⟩
  obtain ⟨mailbox, same⟩ : turn.1.mailbox = drained course.inbox.mailbox ∧
      turn = (component react).resume 0 .worker course.inbox := by
    by_cases waits : course.inbox.mailbox.worker = .waiting
    · have worked : turn = _ := makePasses_eq react passes waits custody.room enough
      exact ⟨by rw [worked], worked.trans (work_eq react waits custody.room).symm⟩
    · have ended := custody.ended_of_idle idle waits
      obtain ⟨closed, empty⟩ := custody.ended ended
      obtain ⟨fewer, rfl⟩ := Nat.exists_eq_succ_of_ne_zero (Nat.ne_zero_of_lt enough)
      have worked : turn = (course.inbox, course.inbox.mailbox.wakeJoiner) := by
        simp only [turn, Inbox.makePasses, Mailbox.takePass_of_not_waiting waits]
      refine ⟨by rw [worked, drained_of_ended ended closed empty], worked.trans ?_⟩
      simp only [component, Inbox.work, Inbox.makePasses, Mailbox.takePass_of_not_waiting waits]
  refine ⟨?_, same⟩
  exact {
    pass := done
    queue := by
      rw [state, mailbox]
      rfl
    worker := by
      rw [state, mailbox]
      rfl }

/-- As long as nobody resets the counters, they count all there was. -/
theorem tally_eq_countP {log : List (Deed Handler)}
    (kept : ∀ deed ∈ log, deed.isReset = false) (counts : Deed Handler → Bool) :
    tally counts log = log.countP counts := by
  have all : log.reverse.takeWhile (fun deed => !deed.isReset) = log.reverse := by
    rw [List.takeWhile_eq_self_iff]
    intro deed among
    rw [kept deed (List.mem_reverse.mp among)]
    rfl
  rw [tally, all, List.countP_reverse]

theorem Faithful.of_rests {batched : Bool} (faithful : Faithful batched course)
    (pass : course.pass = {}) (queue : course.inbox.mailbox.queue = []) :
    delivered course.log = (unpacked batched (heard course.log)).flatten ∧
      openings course.log = (heard course.log).filter (legible batched) ∧
      acts course.log = due {} course.log := by
  obtain ⟨messages, packages, acted, _⟩ := faithful
  rw [pass, queue] at messages packages
  rw [pass] at acted
  refine ⟨?_, ?_, ?_⟩
  · simpa [unpacked] using messages
  · simpa using packages
  · simpa using acted

/-- At rest the counters say how many messages were delivered and how many packages held them. -/
theorem Faithful.counts {batched : Bool} (faithful : Faithful batched course)
    (pass : course.pass = {}) (queue : course.inbox.mailbox.queue = [])
    (kept : ∀ deed ∈ course.log, deed.isReset = false) :
    course.inbox.messageCount =
        UInt64.ofNat (unpacked batched (heard course.log)).flatten.length ∧
      course.inbox.packageCount =
        UInt64.ofNat ((heard course.log).filter (legible batched)).length := by
  obtain ⟨messages, packages, _⟩ := faithful.of_rests pass queue
  rw [faithful.messageCount, faithful.packageCount, tally_eq_countP kept, tally_eq_countP kept,
    ← messages, ← packages, delivered, openings, List.length_filterMap_eq_countP,
    List.length_filterMap_eq_countP]
  exact ⟨rfl, rfl⟩

/-- Callers, handlers, the source and the worker act in any order. The inbox delivers the messages
of the packages that it heard of, in order and each once, to the handlers that are registered when
the delivery begins, and it counts them. A package that holds no messages is passed over. The worker
comes to rest when it is left alone. Its turns are made up of the same pieces, whatever its handlers
do when they are called and however many passes it makes in a turn. At rest nothing is left to
deliver, and what was delivered and counted does not depend on what a pass holds or when it
began. -/
theorem run_faithful {settings : InboxSettings} (valid : settings.check = .ok ())
    (room : Memory.hasRoom settings.packagesPerPass Package.slotSize = true) {source : Source Other}
    (foreign : Foreign source) (events : List (Event Handler Other)) :
    ∃ inbox : Inbox Handler Other, create settings source = .ok (.ok inbox) ∧
      let after := (opened inbox).run events
      (∀ package messages, unpack settings.batched package = some messages ↔
        Holds settings.batched package messages) ∧
      Faithful settings.batched after ∧
      (∃ turns, let last := after.run (List.replicate turns .work)
        Rests last ∧ heard last.log = heard after.log) ∧
      (∀ react passes, after.pass = {} → after.inbox.mailbox.worker ≠ .busy →
        let turn : Turn (Inbox Handler Other) Mailbox.Role (Order Handler) Reply :=
          makePasses react passes after.inbox
        ∃ more : List (Event Handler Other), (∀ event ∈ more, event.isInner = true) ∧
          let last := after.run more
          last.inbox = turn.1 ∧ last.pass = {} ∧ heard last.log = heard after.log ∧
            called last.log = called after.log ++ Effect.orders turn.2 ∧
            (after.inbox.mailbox.queue.length < passes →
              Rests last ∧ turn = (component react).resume 0 .worker after.inbox)) ∧
      (Rests after → delivered after.log = (unpacked settings.batched (heard after.log)).flatten ∧
        openings after.log = (heard after.log).filter (legible settings.batched) ∧
        acts after.log = due {} after.log) ∧
      ∀ limit (elsewhere : Source Other) (more : List (Event Handler Other)),
        let others := { settings with packagesPerPass := limit }
        others.check = .ok () → Memory.hasRoom limit Package.slotSize = true → Foreign elsewhere →
        ∃ second : Inbox Handler Other, create others elsewhere = .ok (.ok second) ∧
          let last := (opened second).run more
          heard last.log = heard after.log → Rests after → Rests last →
            delivered last.log = delivered after.log ∧
            ((∀ deed ∈ after.log, deed.isReset = false) →
              (∀ deed ∈ last.log, deed.isReset = false) →
              last.inbox.messageCount = after.inbox.messageCount ∧
                last.inbox.packageCount = after.inbox.packageCount) := by
  obtain ⟨inbox, created, exact, custody⟩ := @opened_exact Handler _ _ valid room _ foreign
  refine ⟨inbox, created, ?_⟩
  intro after
  have kept := custody.run events
  have faithful : Faithful settings.batched after := (exact.run events).faithful kept
  refine ⟨unpack_iff settings.batched, faithful, ?_, fun react => kept.turn_rests react,
    ?_, ?_⟩
  · obtain ⟨turns, rests, told, _⟩ := kept.exists_rest
    exact ⟨turns, rests, told⟩
  · exact fun rests => faithful.of_rests rests.pass rests.queue
  · intro limit elsewhere more others validToo roomToo foreignToo
    obtain ⟨second, createdToo, exactToo, custodyToo⟩ :=
      @opened_exact Handler _ _ validToo roomToo _ foreignToo
    refine ⟨second, createdToo, ?_⟩
    intro last same rests restsToo
    have faithfulToo : Faithful settings.batched last :=
      (exactToo.run more).faithful (custodyToo.run more)
    obtain ⟨messages, _⟩ := faithful.of_rests rests.pass rests.queue
    obtain ⟨messagesToo, _⟩ := faithfulToo.of_rests restsToo.pass restsToo.queue
    refine ⟨by rw [messages, messagesToo, same], fun unreset unresetToo => ?_⟩
    obtain ⟨count, packages⟩ := faithful.counts rests.pass rests.queue unreset
    obtain ⟨countToo, packagesToo⟩ := faithfulToo.counts restsToo.pass restsToo.queue unresetToo
    rw [count, packages, countToo, packagesToo, same]
    exact ⟨rfl, rfl⟩

/-- A source that nobody listens to. -/
theorem foreign_empty : Foreign ({} : Source Other) where
  others := nofun
  numbered := nofun

/-- Two frames come in, and data that is no frame between them. While the first message is delivered
one more handler is registered, and while the second one is the first handler is struck off. -/
theorem run_faithful_frames :
    let settings : InboxSettings := { batched := true, packagesPerPass := 2 }
    let holds (data : Bytes) : Package := { remote := .loopback 1000, data }
    let events : List (Event Bool Unit) :=
      [.call (.subscribe false),
        .call (.fire [holds (Frame.layout [[1], [2]]), holds [7], holds (Frame.layout [[3]])]),
        .work, .work, .work, .call (.subscribe true), .work, .work, .call (.unsubscribe 0)] ++
      List.replicate 9 .work
    ∃ inbox : Inbox Bool Unit, create settings {} = .ok (.ok inbox) ∧
      let after := (opened inbox).run events
      delivered after.log = [holds [1], holds [2], holds [3]] ∧
        called after.log = [⟨false, holds [1]⟩, ⟨false, holds [2]⟩, ⟨true, holds [2]⟩,
          ⟨true, holds [3]⟩] ∧
        after.inbox.messageCount = 3 ∧ after.inbox.packageCount = 2 := by
  intro settings holds events
  have valid : settings.check = .ok () := rfl
  have room : Memory.hasRoom settings.packagesPerPass Package.slotSize = true := rfl
  obtain ⟨inbox, created, _, _, _, _, atRest, _⟩ := run_faithful valid room foreign_empty events
  have reached : let after := (opened inbox).run events
      (after.pass = {} ∧ after.inbox.mailbox.queue = [] ∧
          after.inbox.mailbox.worker =
            if after.inbox.mailbox.closed then .ended else .waiting) ∧
        (unpacked true (heard after.log)).flatten = [holds [1], holds [2], holds [3]] ∧
        called after.log = [⟨false, holds [1]⟩, ⟨false, holds [2]⟩, ⟨true, holds [2]⟩,
          ⟨true, holds [3]⟩] ∧
        after.inbox.messageCount = 3 ∧ after.inbox.packageCount = 2 := by
    cases created
    decide
  obtain ⟨⟨pass, queue, worker⟩, messages, calls, counted⟩ := reached
  have rests := atRest { pass, queue, worker }
  exact ⟨inbox, created, rests.1.trans messages, calls, counted⟩

/-- A worker that broke down between two passes does nothing any more. -/
theorem run_of_broken (pass : course.pass = {}) (broken : course.inbox.mailbox.worker = .broken)
    (turns : Nat) : course.run (List.replicate turns .work) = course := by
  have still : course.work = course := by
    obtain ⟨inbox, _, _, _, _⟩ := course
    simp only at pass broken
    subst pass
    simp [work, broken, Mailbox.takePass_of_not_waiting]
  induction turns with
  | zero => rfl
  | succ turns ih =>
      have first : course.run (List.replicate (turns + 1) .work) =
        course.work.run (List.replicate turns .work) := rfl
      rw [first, still, ih]

/-- Memory has no room for a pass. The inbox hears of a package and never delivers it, while one
with smaller passes does. -/
theorem roomless_inbox_loses :
    let package : Package := { remote := .loopback 1000, data := [97] }
    let events : List (Event Unit Unit) := [.call (.subscribe ()), .call (.fire [package])]
    ∃ small large : Inbox Unit Unit,
      create { packagesPerPass := 1 } {} = .ok (.ok small) ∧
      create { packagesPerPass := 18446744073709551615 } {} = .ok (.ok large) ∧
      let last := (opened small).run (events ++ List.replicate 5 .work)
      heard last.log = [package] ∧ delivered last.log = [package] ∧ last.inbox.messageCount = 1 ∧
        ∀ turns, let after := (opened large).run (events ++ List.replicate turns .work)
          heard after.log = [package] ∧ delivered after.log = [] ∧ after.inbox.messageCount = 0 := by
  intro package events
  obtain ⟨small, made⟩ : ∃ small : Inbox Unit Unit,
    create { packagesPerPass := 1 } {} = .ok (.ok small) := ⟨_, rfl⟩
  obtain ⟨large, madeToo⟩ : ∃ large : Inbox Unit Unit,
    create { packagesPerPass := 18446744073709551615 } {} = .ok (.ok large) := ⟨_, rfl⟩
  refine ⟨small, large, made, madeToo, ?_⟩
  cases made
  cases madeToo
  refine ⟨by decide, by decide, by decide, fun turns => ?_⟩
  cases turns with
  | zero => decide
  | succ turns =>
      have shifted : events ++ List.replicate (turns + 1) .work =
          (events ++ [.work]) ++ List.replicate turns .work := by
        rw [List.replicate_succ, List.append_cons]
      simp only [shifted, run_append _ (events ++ [.work]) (List.replicate turns .work)]
      rw [run_of_broken rfl rfl]
      decide

end Course

end Inbox

end ReliableTransport
