import ReliableTransport.Proofs.Log
import ReliableTransport.Proofs.Mailbox.Course
/-!
This module says what becomes of the items of a mailbox. The passes take them in the order in which
they came, each once, and one pass is over before the next one begins. A closed mailbox is worked off
before its worker ends. If a pass breaks down, nothing more is taken.
-/

namespace ReliableTransport

namespace Mailbox

namespace Mark

variable {Item : Type}

def isBreak : Mark Item → Bool
  | .ends .brokeDown => true
  | _ => false

/-- No pass broke down. -/
def unbroken (marks : List (Mark Item)) : Bool := marks.all fun mark => !mark.isBreak

theorem unbroken_append (front back : List (Mark Item)) :
    unbroken (front ++ back) = (unbroken front && unbroken back) :=
  List.all_append

theorem unbroken_concat (marks : List (Mark Item)) (mark : Mark Item) :
    unbroken (marks ++ [mark]) = (unbroken marks && !mark.isBreak) := by
  simp [unbroken]

end Mark

namespace Course

open Mark

variable {Item : Type}

/-- Each pass has items, and began when those before it were over. -/
def InTurn (marks : List (Mark Item)) : Prop :=
  ∀ front items later, marks = front ++ .begins items :: later →
    (passes front).length = finished front ∧ items ≠ []

/-- What holds for a mailbox whose passes fit into memory, whatever has happened to it. -/
structure Orderly (limit : Nat) (course : Course Item) : Prop where
  limited : course.mailbox.limit = limit
  room : course.mailbox.hasRoom = true
  conserved : course.mailbox.worker ≠ .broken →
    (passes course.marks).flatten ++ course.mailbox.queue = course.accepted
  inTurn : InTurn course.marks
  waiting : course.mailbox.worker = .waiting → (passes course.marks).length = finished course.marks
  busy : course.mailbox.worker = .busy → (passes course.marks).length = finished course.marks + 1
  ended : course.mailbox.worker = .ended →
    course.mailbox.closed = true ∧ course.mailbox.queue = [] ∧
      (passes course.marks).length = finished course.marks
  broken : course.mailbox.worker = .broken ↔ unbroken course.marks = false

variable {limit : Nat} {course after : Course Item} {event : Event Item}

theorem InTurn.begins {marks : List (Mark Item)} (inTurn : InTurn marks)
    (idle : (passes marks).length = finished marks) {items : List Item} (filled : items ≠ []) :
    InTurn (marks ++ [.begins items]) := by
  intro front pass later same
  rcases split_concat same with ⟨rest, former, _⟩ | ⟨rfl, last, _⟩
  · exact inTurn front pass rest former
  · obtain rfl := Mark.begins.inj last
    exact ⟨idle, filled⟩

theorem InTurn.ends {marks : List (Mark Item)} (inTurn : InTurn marks) (ending : PassEnd) :
    InTurn (marks ++ [.ends ending]) := by
  intro front pass later same
  rcases split_concat same with ⟨rest, former, _⟩ | ⟨_, last, _⟩
  · exact inTurn front pass rest former
  · cases last

theorem Orderly.called (orderly : Orderly limit course) : Orderly limit course.called :=
  { orderly with }

theorem Orderly.put (orderly : Orderly limit course) (alive : course.mailbox.isOver = false)
    (items : List Item) : Orderly limit (course.put items) :=
  { orderly with
    conserved := by
      intro unbroken
      rw [Course.put, ← orderly.conserved unbroken, List.append_assoc]
    ended := by
      intro gone
      have gone : course.mailbox.worker = .ended := gone
      rw [isOver, gone] at alive
      cases alive }

theorem Orderly.shut (orderly : Orderly limit course) (joinable : Bool) (joiner : Option Role) :
    Orderly limit (course.shut joinable joiner) :=
  { orderly with ended := fun gone => ⟨rfl, (orderly.ended gone).2⟩ }

theorem Orderly.land (orderly : Orderly limit course) (busy : course.mailbox.worker = .busy) :
    Orderly limit course.land where
  limited := orderly.limited
  room := orderly.room
  conserved _ := by
    rw [Course.land, passes_ends, ← orderly.conserved (by simp [busy])]
    rfl
  inTurn := orderly.inTurn.ends .complete
  waiting _ := by
    rw [Course.land, passes_ends, finished_ends, orderly.busy busy]
  busy waits := nomatch waits
  ended waits := nomatch waits
  broken := by
    have whole := not_congr orderly.broken
    rw [busy] at whole
    rw [Course.land, endPass, unbroken_concat]
    simpa [isBreak] using whole

theorem Orderly.fail (orderly : Orderly limit course) : Orderly limit course.fail where
  limited := orderly.limited
  room := orderly.room
  conserved unbroken := absurd rfl unbroken
  inTurn := orderly.inTurn.ends .brokeDown
  waiting waits := nomatch waits
  busy waits := nomatch waits
  ended waits := nomatch waits
  broken := by simp [Course.fail, breakDown, unbroken_concat, isBreak]

theorem Orderly.works (orderly : Orderly limit course) (waits : course.mailbox.worker = .waiting)
    (works : course.Works after) : Orderly limit after := by
  have whole : unbroken course.marks = true := by
    have broken := not_congr orderly.broken
    rw [waits] at broken
    simpa using broken
  cases works with
  | rests => exact orderly
  | begins queued =>
      have filled : course.mailbox.queue.take course.mailbox.limit ≠ [] := by
        rw [Ne, List.take_eq_nil_iff]
        exact fun none => none.elim (Nat.ne_of_gt course.mailbox.limit_pos) queued
      exact {
        limited := orderly.limited
        room := orderly.room
        conserved := by
          intro _
          rw [beginPass, passes_begins, ← orderly.conserved (by simp [waits])]
          simp
        inTurn := orderly.inTurn.begins (orderly.waiting waits) filled
        waiting := Worker.noConfusion
        busy := by
          intro _
          rw [beginPass, passes_begins, finished_begins, List.length_append, orderly.waiting waits]
          rfl
        ended := Worker.noConfusion
        broken := by simp [beginPass, unbroken_concat, whole, isBreak] }
  | finishes empty closed =>
      exact {
        limited := orderly.limited
        room := orderly.room
        conserved := fun _ => orderly.conserved (by simp [waits])
        inTurn := orderly.inTurn
        waiting := Worker.noConfusion
        busy := Worker.noConfusion
        ended := fun _ => ⟨closed, empty, orderly.waiting waits⟩
        broken := by simp [finish, whole] }

theorem Happens.orderly (happens : Happens course event after) (orderly : Orderly limit course) :
    Orderly limit after := by
  cases happens with
  | accepts isOpen alive => exact orderly.called.put alive _
  | refuses => exact orderly.called
  | closes => exact orderly.called.shut _ _
  | works waits works => exact orderly.works waits works
  | goesOn busy works => exact (orderly.land busy).works rfl works
  | breaks => exact orderly.fail
  | idles => exact { orderly with }

theorem Orderly.step (orderly : Orderly limit course) (event : Event Item) :
    Orderly limit (course.step event) :=
  (happens orderly.room event).orderly orderly

theorem Orderly.run (orderly : Orderly limit course) (events : List (Event Item)) :
    Orderly limit (course.run events) := by
  induction events generalizing course with
  | nil => exact orderly
  | cons event rest ih => exact ih (orderly.step event)

/-- A mailbox that was just made. -/
def opened (mailbox : Mailbox Item) : Course Item := { mailbox }

theorem opened_orderly {itemSize : Nat} {mailbox : Mailbox Item}
    (created : create limit itemSize = .ok mailbox)
    (room : Memory.hasRoom limit itemSize = true) : Orderly limit (opened mailbox) := by
  unfold create at created
  split at created
  · obtain rfl := Except.ok.inj created
    exact {
      limited := rfl
      room := room
      conserved := fun _ => rfl
      inTurn := by
        intro front items later same
        cases front <;> cases same
      waiting := fun _ => rfl
      busy := Worker.noConfusion
      ended := Worker.noConfusion
      broken := by simp [opened, unbroken] }
  · cases created

/-- How often the worker comes to something. -/
def efforts (course : Course Item) : List (Event Item) → Nat
  | [] => 0
  | event :: rest => (course.acts event).toNat + (course.step event).efforts rest

/-- A bound on how often a worker comes to something before it ends, if the mailbox is closed. -/
def remaining (course : Course Item) : Nat :=
  if course.mailbox.worker = .ended then 0 else course.mailbox.queue.length + 1

theorem remaining_le (course : Course Item) :
    course.remaining ≤ course.mailbox.queue.length + 1 := by
  rw [remaining]
  split
  · exact Nat.zero_le _
  · exact Nat.le_refl _

/-- A worker that waits at a closed mailbox comes nearer to its end. -/
theorem Works.shortens (works : course.Works after) (waits : course.mailbox.worker = .waiting)
    (closed : course.mailbox.closed = true) :
    after.remaining < course.remaining ∧ after.mailbox.closed = true := by
  have before : course.remaining = course.mailbox.queue.length + 1 := by simp [remaining, waits]
  rw [before]
  cases works with
  | begins queued =>
      have fewer : course.beginPass.mailbox.queue.length < course.mailbox.queue.length := by
        rw [beginPass, List.length_drop]
        exact Nat.sub_lt (List.length_pos_of_ne_nil queued) course.mailbox.limit_pos
      exact ⟨Nat.lt_of_le_of_lt (remaining_le _) (Nat.succ_lt_succ fewer), closed⟩
  | rests empty isOpen =>
      rw [isOpen] at closed
      cases closed
  | finishes => exact ⟨Nat.succ_pos _, closed⟩

/-- Whenever the worker of a closed mailbox comes to something, it comes nearer to its end. -/
theorem Happens.shortens (happens : Happens course event after)
    (closed : course.mailbox.closed = true) (whole : unbroken after.marks = true) :
    (course.acts event).toNat + after.remaining ≤ course.remaining ∧
      after.mailbox.closed = true := by
  cases happens with
  | accepts isOpen =>
      rw [isOpen] at closed
      cases closed
  | refuses => exact ⟨Nat.le_of_eq (Nat.zero_add _), closed⟩
  | closes => exact ⟨Nat.le_of_eq (Nat.zero_add _), rfl⟩
  | works waits works =>
      obtain ⟨fewer, still⟩ := works.shortens waits closed
      have acts : course.acts (.turn .worker) = true := beq_iff_eq.mpr waits
      rw [acts, Bool.toNat_true, Nat.add_comm]
      exact ⟨fewer, still⟩
  | goesOn busy works =>
      obtain ⟨fewer, still⟩ := works.shortens rfl closed
      have acts : course.acts (.answer .complete) = true := beq_iff_eq.mpr busy
      have same : course.land.remaining = course.remaining := by
        simp [remaining, land, endPass, busy]
      rw [acts, ← same, Bool.toNat_true, Nat.add_comm]
      exact ⟨fewer, still⟩
  | breaks =>
      rw [fail, unbroken_concat, isBreak] at whole
      simp at whole
  | idles calls idle =>
      rw [idle]
      exact ⟨Nat.le_of_eq (Nat.zero_add _), closed⟩

/-- What was taken down stays so. -/
theorem marks_run (course : Course Item) (events : List (Event Item)) :
    ∃ more, (course.run events).marks = course.marks ++ more := by
  induction events generalizing course with
  | nil => exact ⟨[], (List.append_nil _).symm⟩
  | cons event rest ih =>
      obtain ⟨more, grown⟩ := ih (course.step event)
      have same : (course.run (event :: rest)).marks = _ := grown
      rw [same, step, took, List.append_assoc, List.append_assoc]
      exact ⟨_, rfl⟩

theorem Orderly.drains (orderly : Orderly limit course) (closed : course.mailbox.closed = true)
    (events : List (Event Item)) (whole : unbroken (course.run events).marks = true) :
    course.efforts events + (course.run events).remaining ≤ course.remaining := by
  induction events generalizing course with
  | nil => exact Nat.le_of_eq (Nat.zero_add _)
  | cons event rest ih =>
      obtain ⟨more, grown⟩ := marks_run (course.step event) rest
      have sound : unbroken (course.step event).marks = true := by
        have both : unbroken ((course.step event).run rest).marks = true := whole
        rw [grown, unbroken_append, Bool.and_eq_true] at both
        exact both.1
      obtain ⟨nearer, still⟩ := (happens orderly.room event).shortens closed sound
      have later := ih (orderly.step event) still whole
      rw [efforts, Nat.add_assoc]
      exact Nat.le_trans (Nat.add_le_add_left later _) nearer

/-- After a break-down the mailbox begins no pass, and takes nothing. -/
theorem Orderly.stays_broken (orderly : Orderly limit course)
    (broken : course.mailbox.worker = .broken) (events : List (Event Item)) :
    (course.run events).mailbox.worker = .broken ∧
      passes (course.run events).marks = passes course.marks := by
  induction events generalizing course with
  | nil => exact ⟨broken, rfl⟩
  | cons event rest ih =>
      have kept : (course.step event).mailbox.worker = .broken ∧
          passes (course.step event).marks = passes course.marks := by
        generalize next : course.step event = after
        cases next ▸ happens orderly.room event with
        | accepts isOpen alive => exact ⟨broken, rfl⟩
        | refuses | closes | idles => exact ⟨broken, rfl⟩
        | works waits => exact absurd (broken.symm.trans waits) nofun
        | goesOn busy | breaks busy => exact absurd (broken.symm.trans busy) nofun
      obtain ⟨still, same⟩ := ih (orderly.step event) kept.1
      exact ⟨still, same.trans kept.2⟩

/-- What a caller is told about the items that it puts in. -/
theorem results_push (course : Course Item) (items : List Item) :
    Effect.results (course.turn (.call (.push items))).2 =
      [(.caller course.calls, .taken (course.mailbox.pushAll items).2)] := by
  have turn : (course.turn (.call (.push items))).2 =
      (course.mailbox.pushAll items).1.wakeWorker ++
        [.done (.caller course.calls) (.taken (course.mailbox.pushAll items).2)] := rfl
  rw [turn, Effect.results_append, results_wakeWorker]
  rfl

/-- Items are taken exactly if the mailbox is not closed, as long as no pass has broken down. -/
theorem Orderly.flags (orderly : Orderly limit course) (whole : unbroken course.marks = true)
    (items : List Item) :
    (course.mailbox.pushAll items).2 = items.map fun _ => !course.mailbox.closed := by
  cases closed : course.mailbox.closed with
  | true => exact pushAll_flags_of_shut (by rw [closed, Bool.true_or]) items
  | false =>
      have goesOn : course.mailbox.isOver = false := by
        rw [isOver, Bool.or_eq_false_iff, beq_eq_false_iff_ne, beq_eq_false_iff_ne]
        constructor
        · intro ended
          rw [(orderly.ended ended).1] at closed
          cases closed
        · intro broken
          rw [orderly.broken.mp broken] at whole
          cases whole
      exact pushAll_flags_of_open closed goesOn items

/-- A pass that begins with an event takes the oldest items, as many as a pass holds. -/
theorem Orderly.passes_step (orderly : Orderly limit course) (event : Event Item) :
    passes (course.step event).marks = passes course.marks ∨
      course.mailbox.queue ≠ [] ∧
        passes (course.step event).marks = passes course.marks ++
          [course.mailbox.queue.take (min course.mailbox.queue.length limit)] := by
  have oldest (queue : List Item) : queue.take (min queue.length limit) = queue.take limit := by
    rw [Nat.min_comm, ← List.take_eq_take_min]
  rw [oldest, ← orderly.limited]
  generalize next : course.step event = after
  cases next ▸ happens orderly.room event with
  | accepts | refuses | closes | idles => exact .inl rfl
  | breaks => exact .inl (passes_ends _ _)
  | works waits works =>
      cases works with
      | begins queued => exact .inr ⟨queued, passes_begins _ _⟩
      | rests | finishes => exact .inl rfl
  | goesOn busy works =>
      cases works with
      | begins queued =>
          have begins := passes_begins course.land.marks (course.mailbox.queue.take
            course.mailbox.limit)
          rw [Course.land, passes_ends] at begins
          exact .inr ⟨queued, begins⟩
      | rests | finishes => exact .inl (passes_ends _ _)

/-- Callers and the worker have their turns in any order, and passes take any time. As long as no
pass breaks down, the passes that began, put together, and what is still queued are the items that
were taken, in order, and an item is taken exactly if the mailbox is not closed. Each pass begins
when those before it are over, and takes the oldest items, as many as a pass holds. The worker ends
only in a closed mailbox and when nothing is left, and it does end there as soon as it comes to
something more often than items are queued. Once a pass has broken down, no pass begins and no item
is taken. -/
theorem run_processes {itemSize : Nat} {mailbox : Mailbox Item}
    (created : create limit itemSize = .ok mailbox)
    (room : Memory.hasRoom limit itemSize = true) (events : List (Event Item)) :
    let after := (opened mailbox).run events
    (unbroken after.marks = true →
        (passes after.marks).flatten ++ after.mailbox.queue = after.accepted ∧
          ∀ items, Effect.results (after.turn (.call (.push items))).2 =
            [(.caller after.calls, .taken (items.map fun _ => !after.mailbox.closed))]) ∧
      (∀ front items later, after.marks = front ++ .begins items :: later →
        (passes front).length = finished front ∧ items ≠ []) ∧
      (∀ event, passes (after.step event).marks = passes after.marks ∨
        after.mailbox.queue ≠ [] ∧
          passes (after.step event).marks = passes after.marks ++
            [after.mailbox.queue.take (min after.mailbox.queue.length limit)]) ∧
      (after.mailbox.worker = .ended → after.mailbox.closed = true ∧ after.mailbox.queue = [] ∧
        (passes after.marks).length = finished after.marks) ∧
      (after.mailbox.closed = true → ∀ more,
        let last := after.run more
        unbroken last.marks = true → after.mailbox.queue.length < after.efforts more →
          last.mailbox.worker = .ended ∧ (passes last.marks).flatten = last.accepted) ∧
      (unbroken after.marks = false → ∀ more,
        let last := after.run more
        passes last.marks = passes after.marks ∧
          ∀ items, Effect.results (last.turn (.call (.push items))).2 =
            [(.caller last.calls, .taken (items.map fun _ => false))]) := by
  intro after
  have orderly : Orderly limit after := (opened_orderly created room).run events
  refine ⟨fun whole => ⟨?_, fun items => ?_⟩, orderly.inTurn, orderly.passes_step, orderly.ended,
    ?_, ?_⟩
  · exact orderly.conserved fun broken => by simp [orderly.broken.mp broken] at whole
  · rw [results_push, orderly.flags whole]
  · intro closed more last whole efforts
    have nearer := orderly.drains closed more whole
    have ended : last.mailbox.worker = .ended := by
      by_contra goesOn
      have bound := after.remaining_le
      have left : last.remaining = last.mailbox.queue.length + 1 := if_neg goesOn
      have same : after.run more = last := rfl
      rw [same] at nearer
      omega
    have later := orderly.run more
    have all := later.conserved (by rw [ended]; nofun)
    rw [(later.ended ended).2.1, List.append_nil] at all
    exact ⟨ended, all⟩
  · intro torn more last
    obtain ⟨broken, same⟩ := orderly.stays_broken (orderly.broken.mpr torn) more
    refine ⟨same, fun items => ?_⟩
    have shut : (last.mailbox.closed || last.mailbox.isOver) = true := by
      have broken : last.mailbox.worker = .broken := broken
      rw [isOver, broken, Bool.or_eq_true]
      exact .inr rfl
    rw [results_push, pushAll_flags_of_shut shut]

/-- Three items are put in, the worker begins a pass with two of them, and the mailbox is closed. The
third item is still worked on. -/
theorem run_processes_closing :
    ∃ mailbox : Mailbox Nat, create 2 8 = .ok mailbox ∧ Memory.hasRoom 2 8 = true ∧
      let after := (opened mailbox).run [.call (.push [1, 2, 3]), .turn .worker, .call .close]
      let more : List (Event Nat) := [.answer .complete, .answer .complete]
      let last := after.run more
      unbroken after.marks = true ∧ passes after.marks = [[1, 2]] ∧
        (passes after.marks).flatten ++ after.mailbox.queue = after.accepted ∧
        after.mailbox.closed = true ∧ unbroken last.marks = true ∧
        after.mailbox.queue.length < after.efforts more ∧
        last.mailbox.worker = .ended ∧ (passes last.marks).flatten = last.accepted := by
  have room : Memory.hasRoom 2 8 = true := by decide
  obtain ⟨mailbox, created⟩ : ∃ mailbox : Mailbox Nat, create 2 8 = .ok mailbox := ⟨_, rfl⟩
  refine ⟨mailbox, created, room, ?_⟩
  obtain ⟨whole, _, _, _, drains, _⟩ :=
    run_processes created room [.call (.push [1, 2, 3]), .turn .worker, .call .close]
  cases created
  have goesWell := whole (by decide)
  have ends := drains (by decide) [.answer .complete, .answer .complete] (by decide) (by decide)
  exact ⟨by decide, by decide, goesWell.1, by decide, by decide, by decide, ends⟩

/-- Memory has no room for a pass. An item is taken, no pass begins, and the item is lost. The next
one is refused, although the mailbox is not closed and no pass broke down. -/
theorem roomless_worker_loses :
    ∃ mailbox : Mailbox Nat, create 18446744073709551615 8 = .ok mailbox ∧
      let after := (opened mailbox).run [.call (.push [1]), .turn .worker]
      unbroken after.marks = true ∧ after.accepted = [1] ∧
        (passes after.marks).flatten ++ after.mailbox.queue ≠ after.accepted ∧
        after.mailbox.closed = false ∧ (after.mailbox.pushAll [2]).2 = [false] := by
  obtain ⟨mailbox, created⟩ :
      ∃ mailbox : Mailbox Nat, create 18446744073709551615 8 = .ok mailbox := ⟨_, rfl⟩
  refine ⟨mailbox, created, ?_⟩
  cases created
  decide

end Course

end Mailbox

end ReliableTransport
