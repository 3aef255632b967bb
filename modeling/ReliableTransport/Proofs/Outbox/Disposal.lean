import ReliableTransport.Proofs.Outbox.Pieces
/-!
This module follows an outbox after a dispose of it has returned. The worker goes through the
messages that are left and drops them. If it had found the transport just before, it still begins
that one send, and no other one. Nobody is told of anything but the send that was under way or about
to begin, and the messages that no batch takes.
-/

namespace ReliableTransport

namespace Outbox

open Mailbox (Role)

variable {Handler : Type}

/-- The messages among these that no batch takes. -/
def oversize (outbox : Outbox Handler) (messages : List Bytes) : List Bytes :=
  messages.filter fun message => !outbox.admits message

namespace Entry

def begun? : Entry Handler → Option (Delivery × List Bytes)
  | .begins delivery messages => some (delivery, messages)
  | _ => none

/-- The messages of a send that ended. -/
def ended? : Entry Handler → Option (List Bytes)
  | .counts messages | .fails _ messages _ => some messages
  | _ => none

def refused? : Entry Handler → Option Bytes
  | .refuses message _ => some message
  | _ => none

def told? : Entry Handler → Option (Order Handler)
  | .tells report => some report
  | _ => none

/-- The reports that an entry calls for. -/
def reports : Entry Handler → List (Order Handler)
  | .fails failure messages handlers => handlers.map (.report · failure messages)
  | .refuses message handlers =>
    handlers.map (.report · (.invalidOperation .oversizeMessage) [message])
  | _ => []

/-- The counts start again. -/
def restarts : Entry Handler → Bool
  | .resets => true
  | _ => false

/-- The sends that were counted since the counts started, after an entry. -/
def tally (counted : List (List Bytes)) : Entry Handler → List (List Bytes)
  | .counts messages => counted ++ [messages]
  | .resets => []
  | _ => counted

end Entry

/-- Only what was counted since the counts started last depends on what was counted before. -/
theorem foldl_tally (entries : List (Entry Handler)) (counted : List (List Bytes)) :
    entries.foldl Entry.tally counted =
      (if entries.any Entry.restarts then [] else counted) ++ entries.foldl Entry.tally [] := by
  induction entries generalizing counted with
  | nil => simp
  | cons entry rest ih =>
      rw [List.foldl_cons, List.foldl_cons, ih (Entry.tally counted entry),
        ih (Entry.tally [] entry), List.any_cons, ← List.append_assoc]
      congr 1
      cases again : rest.any Entry.restarts <;> cases entry <;> simp [Entry.tally, Entry.restarts]

/-- What happens between two states of a disposed outbox. No send begins but the one that the worker
held the transport for, and no send ends but this one or the one that was under way. Reports are
made of such an end, of messages that no batch takes, and of what was being reported already. The
counts grow by the send that ended, if it ended well. -/
structure Fades (before after : Course Handler) (entries : List (Entry Handler)) : Prop where
  log : after.log = before.log ++ entries
  begins : entries.filterMap Entry.begun? ++ after.poised.toList = before.poised.toList
  ends : entries.filterMap Entry.ended? ++ after.pending.toList = before.pending.toList
  tells : entries.filterMap Entry.told? ++ after.stage.reports =
    before.stage.reports ++ entries.flatMap Entry.reports
  refuses : entries.filterMap Entry.refused? ++ before.outbox.oversize after.unsent <+:
    before.outbox.oversize before.unsent
  drains : after.outbox.mailbox.worker ≠ .broken →
    entries.filterMap Entry.refused? ++ before.outbox.oversize after.unsent =
      before.outbox.oversize before.unsent
  messageCount : after.outbox.messageCount =
    (if entries.any Entry.restarts then 0 else before.outbox.messageCount) +
      UInt64.ofNat (entries.foldl Entry.tally []).flatten.length
  packageCount : after.outbox.packageCount =
    (if entries.any Entry.restarts then 0 else before.outbox.packageCount) +
      UInt64.ofNat (entries.foldl Entry.tally []).length
  bounds : after.outbox.batch.map Batch.maxSize = before.outbox.batch.map Batch.maxSize
  broken : before.outbox.mailbox.worker = .broken → after.outbox.mailbox.worker = .broken
  detached : before.outbox.attached = false → after.outbox.attached = false
  closed : before.outbox.mailbox.closed = true → after.outbox.mailbox.closed = true

namespace Fades

variable {before middle after : Course Handler} {entries more : List (Entry Handler)}

/-- Counts that go on from counts that went on. -/
theorem count_trans {first second third : UInt64} (size : List (List Bytes) → Nat)
    (additive : ∀ front back, size (front ++ back) = size front + size back)
    (counted : second = (if entries.any Entry.restarts then 0 else first) +
      UInt64.ofNat (size (entries.foldl Entry.tally [])))
    (further : third = (if more.any Entry.restarts then 0 else second) +
      UInt64.ofNat (size (more.foldl Entry.tally []))) :
    third = (if (entries ++ more).any Entry.restarts then 0 else first) +
      UInt64.ofNat (size ((entries ++ more).foldl Entry.tally [])) := by
  rw [List.any_append, List.foldl_append, foldl_tally more, further]
  cases again : more.any Entry.restarts with
  | true => simp
  | false => simp [counted, additive, UInt64.ofNat_add, UInt64.add_assoc]

theorem trans (fades : Fades before middle entries) (further : Fades middle after more) :
    Fades before after (entries ++ more) := by
  have admits : middle.outbox.oversize = before.outbox.oversize := by
    unfold oversize
    rw [admits_of_bounds fades.bounds]
  constructor
  · rw [further.log, fades.log, List.append_assoc]
  · rw [List.filterMap_append, List.append_assoc, further.begins, fades.begins]
  · rw [List.filterMap_append, List.append_assoc, further.ends, fades.ends]
  · rw [List.filterMap_append, List.append_assoc, further.tells, ← List.append_assoc, fades.tells,
      List.append_assoc, List.flatMap_append]
  · have front := further.refuses
    rw [admits] at front
    rw [List.filterMap_append, List.append_assoc]
    exact ((List.prefix_append_right_inj _).mpr front).trans fades.refuses
  · intro alive
    have whole := further.drains alive
    rw [admits] at whole
    rw [List.filterMap_append, List.append_assoc, whole]
    exact fades.drains fun broken => alive (further.broken broken)
  · refine count_trans (fun sends => sends.flatten.length) ?_ fades.messageCount
      further.messageCount
    simp
  · refine count_trans List.length ?_ fades.packageCount further.packageCount
    simp
  · exact further.bounds.trans fades.bounds
  · exact fun broken => further.broken (fades.broken broken)
  · exact fun detached => further.detached (fades.detached detached)
  · exact fun closed => further.closed (fades.closed closed)

/-- Nothing happens that the outside or the counts would show. -/
theorem silent (log : after.log = before.log)
    (pends : after.poised = before.poised ∧ after.pending = before.pending)
    (reports : after.stage.reports = before.stage.reports)
    (refuses : before.outbox.oversize after.unsent = before.outbox.oversize before.unsent ∨
      after.outbox.mailbox.worker = .broken ∧ after.unsent = [])
    (messageCount : after.outbox.messageCount = before.outbox.messageCount)
    (packageCount : after.outbox.packageCount = before.outbox.packageCount)
    (bounds : after.outbox.batch.map Batch.maxSize = before.outbox.batch.map Batch.maxSize)
    (broken : before.outbox.mailbox.worker = .broken → after.outbox.mailbox.worker = .broken)
    (detached : before.outbox.attached = false → after.outbox.attached = false)
    (closed : before.outbox.mailbox.closed = true → after.outbox.mailbox.closed = true) :
    Fades before after [] where
  log := by rw [log, List.append_nil]
  begins := by rw [pends.1]; rfl
  ends := by rw [pends.2]; rfl
  tells := by rw [reports]; simp
  refuses := by
    rcases refuses with same | ⟨_, nothing⟩
    · rw [same]
      exact List.prefix_rfl
    · rw [nothing]
      exact List.nil_prefix
  drains alive := refuses.resolve_right fun gone => alive gone.1
  messageCount := by simp [messageCount]
  packageCount := by simp [packageCount]
  bounds := bounds
  broken := broken
  detached := detached
  closed := closed

/-- One thing happens that does not touch the counts. -/
theorem single {entry : Entry Handler} (log : after.log = before.log ++ [entry])
    (goesOn : entry.restarts = false) (uncounted : Entry.tally [] entry = [])
    (begins : entry.begun?.toList ++ after.poised.toList = before.poised.toList)
    (ends : entry.ended?.toList ++ after.pending.toList = before.pending.toList)
    (tells : entry.told?.toList ++ after.stage.reports = before.stage.reports ++ entry.reports)
    (refuses : entry.refused?.toList ++ before.outbox.oversize after.unsent =
      before.outbox.oversize before.unsent)
    (messageCount : after.outbox.messageCount = before.outbox.messageCount)
    (packageCount : after.outbox.packageCount = before.outbox.packageCount)
    (bounds : after.outbox.batch.map Batch.maxSize = before.outbox.batch.map Batch.maxSize)
    (broken : before.outbox.mailbox.worker = .broken → after.outbox.mailbox.worker = .broken)
    (detached : before.outbox.attached = false → after.outbox.attached = false)
    (closed : before.outbox.mailbox.closed = true → after.outbox.mailbox.closed = true) :
    Fades before after [entry] := by
  have alone {Value : Type} (select : Entry Handler → Option Value) :
      [entry].filterMap select = (select entry).toList := by
    cases selected : select entry <;> simp [selected]
  have whole : [entry].filterMap Entry.refused? ++ before.outbox.oversize after.unsent =
      before.outbox.oversize before.unsent := by rw [alone, refuses]
  refine ⟨log, ?_, ?_, ?_, ?_, fun _ => whole, ?_, ?_, bounds, broken, detached, closed⟩
  · rw [alone, begins]
  · rw [alone, ends]
  · rw [alone, tells, List.flatMap_singleton]
  · exact whole ▸ List.prefix_rfl
  · simp [goesOn, uncounted, messageCount]
  · simp [goesOn, uncounted, packageCount]

theorem refl (course : Course Handler) : Fades course course [] :=
  silent rfl ⟨rfl, rfl⟩ rfl (.inl rfl) rfl rfl rfl id id id

end Fades

namespace Course

variable {course next : Course Handler}

theorem pending_of_landed (landed : course.outbox.flight = none)
    (idle : course.stage.isHolding = false) : course.pending = none := by
  rw [pending_of_idle idle, landed]
  rfl

/-- A worker that neither waits for a send nor is about to begin one goes on without one. -/
theorem pends_of_landed (landed : course.outbox.flight = none)
    (idle : course.stage.isHolding = false) (grounded : next.outbox.flight = none)
    (still : next.stage.isHolding = false) :
    next.poised = course.poised ∧ next.pending = course.pending := by
  rw [poised_of_idle idle, poised_of_idle still, pending_of_landed landed idle,
    pending_of_landed grounded still]
  exact ⟨rfl, rfl⟩

/-- A worker in the middle of a turn has not broken down. -/
theorem Orderly.alive (orderly : course.Orderly) (busy : course.stage ≠ .rests) :
    course.outbox.mailbox.worker ≠ .broken := by
  simp [(orderly.works busy).1]

/-- A piece of the work of a disposed outbox. -/
theorem Orderly.work_fades (orderly : course.Orderly) (detached : course.outbox.attached = false)
    (works : Works course next) : ∃ more, Fades course next more := by
  have lacks {stage : Stage Handler}
      (found : stage.isHolding = true → course.outbox.attached = true) :
      stage.isHolding = false := by
    by_contra holding
    simp [found (by simpa using holding)] at detached
  cases works with
  | waits _ _ => exact ⟨[], .refl course⟩
  | @idles worker rests landed empty =>
      refine ⟨[], .silent rfl ⟨rfl, rfl⟩ rfl (.inl rfl) rfl rfl rfl (fun broken => ?_) id id⟩
      by_contra other
      have waits := (empty fun same => other (same.trans broken)).1
      rw [broken] at waits
      cases waits
  | collapses rests landed =>
      refine ⟨[], .silent rfl ⟨rfl, rfl⟩ rfl (.inr ⟨rfl, ?_⟩) rfl rfl rfl (fun _ => rfl) id id⟩
      simp [unsent, Outbox.unsent, landed, rests, Stage.rest, Mailbox.breakDown]
  | begins rests landed waits room =>
      refine ⟨[], .silent rfl (pends_of_landed landed (by rw [rests]; rfl) landed rfl)
        (by rw [rests]; rfl) (.inl ?_) rfl rfl rfl (fun broken => ?_) id id⟩
      · simp [unsent, Outbox.unsent, landed, rests, Stage.rest, begun]
      · rw [waits] at broken
        cases broken
  | ends last emptied =>
      obtain ⟨_, _, landed⟩ := orderly.works (by simp [last])
      refine ⟨[], .silent rfl (pends_of_landed landed (by rw [last]; rfl) landed rfl)
        (by rw [last]; rfl) (.inl ?_) rfl rfl rfl (fun broken => ?_) id id⟩
      · simp [unsent, Outbox.unsent, landed, last, Stage.rest, Mailbox.endPass]
      · exact absurd broken (orderly.alive (by simp [last]))
  | moves busy goesOn rest quiet silent idle found =>
      obtain ⟨_, _, landed⟩ := orderly.works busy
      refine ⟨[], .silent rfl (pends_of_landed landed idle landed (lacks found))
        (silent.trans quiet.symm) (.inl ?_) rfl rfl rfl id id id⟩
      simp [unsent, rest]
  | @admits message rest batch stage comes admitted sized bounds next =>
      obtain ⟨_, _, landed⟩ := orderly.works (by simp [comes])
      obtain ⟨after, silent, still⟩ : stage.rest = rest ∧ stage.reports = [] ∧
          stage.isHolding = false := by
        rcases next with rfl | ⟨flight, behind, rfl⟩
        · exact ⟨rfl, rfl, rfl⟩
        · exact ⟨behind, rfl, rfl⟩
      refine ⟨[], .silent rfl (pends_of_landed landed (by rw [comes]; rfl) landed still)
        (by rw [comes]; exact silent) (.inl ?_) rfl rfl bounds id id id⟩
      simp only [unsent, after]
      simp [Outbox.unsent, landed, comes, Stage.rest, oversize, admitted]
  | @refuses message rest comes refused =>
      obtain ⟨_, _, landed⟩ := orderly.works (by simp [comes])
      have pends := @pends_of_landed _ _
        { course with
          stage := .refuses (course.outbox.handlers.handlers.map
            (.report · (.invalidOperation .oversizeMessage) [message])) rest
          log := course.log ++ [.refuses message course.outbox.handlers.handlers] }
        landed (by rw [comes]; rfl) landed rfl
      refine ⟨_, .single rfl rfl rfl (congrArg Option.toList pends.1)
        (congrArg Option.toList pends.2) ?_ ?_ rfl rfl rfl id id id⟩
      · rw [comes]
        rfl
      · simp [unsent, Outbox.unsent, landed, comes, Stage.rest, oversize, refused, Entry.refused?]
  | @clears flight idle =>
      obtain ⟨busy, quiet, rest, holds⟩ : course.stage ≠ .rests ∧ course.stage.reports = [] ∧
          course.stage.rest = flight.rest ∧ course.stage.isHolding = false := by
        rcases idle with here | here <;> rw [here] <;> exact ⟨by simp, rfl, rfl, rfl⟩
      obtain ⟨_, _, landed⟩ := orderly.works busy
      refine ⟨[], .silent rfl (pends_of_landed landed holds landed rfl) quiet.symm (.inl ?_) rfl rfl
        ?_ id id id⟩
      · rw [unsent, unsent, rest]
        rfl
      · rw [clear, cleared, Option.map_map]
        rfl
  | @launches flight delivery held loaded =>
      obtain ⟨_, _, landed⟩ := orderly.works (by simp [held])
      have poised : course.poised = some (delivery, course.outbox.payload flight) := by
        simp [Course.poised, held, loaded]
      have pending : course.pending = some (course.outbox.payload flight) := by
        simp [Course.pending, poised]
      refine ⟨_, .single rfl rfl rfl ?_ ?_ ?_ ?_ rfl rfl rfl id id id⟩
      · rw [poised]
        rfl
      · rw [pending]
        rfl
      · rw [held]
        rfl
      · simp [unsent, Outbox.unsent, landed, held, Stage.rest, Entry.refused?]
  | @breaks flight held missing =>
      obtain ⟨_, _, landed⟩ := orderly.works (by simp [held])
      have poised : course.poised = none := by simp [Course.poised, held, missing]
      have pending : course.pending = none := by simp [Course.pending, poised, landed]
      refine ⟨[], .silent rfl ⟨poised.symm, ?_⟩ (by rw [held]; rfl) (.inr ⟨rfl, ?_⟩) rfl rfl rfl
        (fun _ => rfl) id id⟩
      · rw [pending]
        exact pending_of_landed landed rfl
      · simp [unsent, Outbox.unsent, landed, Stage.rest, Mailbox.breakDown]
  | @tells report stage busy goesOn rest next idle still =>
      obtain ⟨_, _, landed⟩ := orderly.works busy
      have pends := @pends_of_landed _ _
        { course with stage, log := course.log ++ [.tells report] } landed idle landed still
      refine ⟨_, .single rfl rfl rfl (congrArg Option.toList pends.1)
        (congrArg Option.toList pends.2) ?_ ?_ rfl rfl rfl id id id⟩
      · rw [next]
        exact (List.append_nil _).symm
      · rw [unsent, unsent, rest]
        rfl

/-- The send of a disposed outbox ends. -/
theorem Orderly.land_fades (orderly : course.Orderly) {flight : Flight}
    (aloft : course.outbox.flight = some flight) (answer : Except Failure Nat) :
    ∃ more, Fades course (course.land flight answer) more := by
  have rests := orderly.rests_of_aloft (by simp [aloft])
  have idle : course.stage.isHolding = false := by rw [rests]; rfl
  have pending : course.pending = some (course.outbox.payload flight) := by
    rw [pending_of_idle idle, aloft]
    rfl
  have unsent : course.unsent = flight.rest ++ course.outbox.mailbox.queue := by
    simp [Course.unsent, Outbox.unsent, rests, aloft, Stage.rest]
  cases answer with
  | ok _ =>
      let messages := course.outbox.payload flight
      refine ⟨[.counts messages], rfl, ?_, ?_, ?_, ?_, fun _ => ?_, ?_, rfl, rfl, id, id, id⟩
      · rw [poised_of_idle idle]
        rfl
      · rw [pending]
        rfl
      · rw [rests]
        rfl
      · rw [unsent]
        exact List.prefix_rfl
      · rw [unsent]
        rfl
      · simp [messages, Course.land, countSent, Entry.restarts, Entry.tally]
  | error failure =>
      refine ⟨_, .single rfl rfl rfl ?_ ?_ ?_ ?_ rfl rfl rfl id id id⟩
      · rw [poised_of_idle idle]
        rfl
      · rw [pending]
        rfl
      · rw [rests]
        rfl
      · rw [unsent]
        rfl

theorem Orderly.step_fades (orderly : course.Orderly) (detached : course.outbox.attached = false)
    (closed : course.outbox.mailbox.closed = true) (event : Event Handler) :
    ∃ more, Fades course (course.step event) more := by
  have happens := orderly.happens event
  generalize course.step event = next at happens
  cases happens with
  | @shifts _ mailbox attached handlers errands calls stays still _ =>
      refine ⟨[], .silent rfl ⟨rfl, rfl⟩ rfl (.inl ?_) rfl rfl rfl stays.worker.trans still
        stays.closed⟩
      have queue : mailbox.queue = course.outbox.mailbox.queue := stays.queue (by simp [closed])
      simp only [unsent, Outbox.unsent, queue]
  | restarts =>
      refine ⟨[.resets], rfl, rfl, rfl, ?_, ?_, fun _ => rfl, rfl, rfl, rfl, id, id, id⟩
      · simp [Entry.told?, Entry.reports]
      · exact List.prefix_rfl
  | works works => exact orderly.work_fades detached works
  | lands aloft => exact orderly.land_fades aloft _

theorem Orderly.run_fades (orderly : course.Orderly) (detached : course.outbox.attached = false)
    (closed : course.outbox.mailbox.closed = true) (events : List (Event Handler)) :
    ∃ entries, Fades course (course.run events) entries := by
  induction events generalizing course with
  | nil => exact ⟨[], .refl course⟩
  | cons event rest ih =>
      obtain ⟨more, stepped⟩ := orderly.step_fades detached closed event
      obtain ⟨entries, further⟩ :=
        ih (orderly.step event) (stepped.detached detached) (stepped.closed closed)
      exact ⟨more ++ entries, stepped.trans further⟩

end Course

/-- What a call answers that submits messages. -/
def Call.receipt : Call Handler → Option Reply
  | .send _ => some .done
  | .sendRange data offset length =>
    (Word.range? data offset length).map fun _ => .checked (.ok ())
  | .deliver delivery => some (.length (message delivery).length)
  | _ => none

/-- A closed outbox answers as an open one does, and drops the messages. -/
theorem start_of_closed {outbox : Outbox Handler} (closed : outbox.mailbox.closed = true)
    (task : Role) {made : Call Handler} {reply : Reply} (receipt : made.receipt = some reply) :
    outbox.start task made = (outbox, outbox.mailbox.wakeWorker ++ [.done task reply]) := by
  have shut : (outbox.mailbox.closed || outbox.mailbox.isOver) = true := by simp [closed]
  have queued (messages : List Bytes) : outbox.queue messages = outbox := by
    rw [queue, Mailbox.pushAll_of_shut shut]
  cases made with
  | send messages =>
      cases receipt
      rw [start, queued]
  | sendRange data offset length =>
      rw [Call.receipt] at receipt
      cases found : Word.range? data offset length with
      | none => simp [found] at receipt
      | some message =>
          rw [found] at receipt
          cases receipt
          simp only [start, found, queued]
  | deliver delivery =>
      cases receipt
      rw [start, queued]
  | subscribe | unsubscribe | reset | close | dispose => cases receipt

/-- What is left of an outbox after a dispose of it has returned. -/
structure Leaves (disposed later : Course Handler) : Prop where
  fades : ∃ entries, Fades disposed later entries
  /-- A worker that has ended has dropped everything, and nothing is left in its batch. -/
  ended : later.outbox.mailbox.worker = .ended →
    later.outbox.Emptied ∧ later.pending = none ∧ later.unsent = []
  /-- Messages that are submitted later are dropped without an error. -/
  drops : ∀ task made reply, made.receipt = some reply → later.outbox.start task made =
    (later.outbox, later.outbox.mailbox.wakeWorker ++ [.done task reply])

namespace Course

/-- The calls of the transport that have begun. -/
def begun (course : Course Handler) : List (Delivery × List Bytes) :=
  course.log.filterMap Entry.begun?

theorem Orderly.ended {course : Course Handler} (orderly : course.Orderly)
    (ended : course.outbox.mailbox.worker = .ended) :
    course.outbox.Emptied ∧ course.pending = none ∧ course.unsent = [] := by
  have rests := orderly.rests_of_idle (by simp [ended])
  have sound := orderly.rests rests
  have landed := sound.landed_of_over (by simp [Mailbox.isOver, ended])
  obtain ⟨emptied, empty⟩ : course.outbox.Emptied ∧ course.outbox.mailbox.queue = [] := by
    simpa [ended] using sound.rests landed
  refine ⟨emptied, pending_of_landed landed (by rw [rests]; rfl), ?_⟩
  simp [unsent, Outbox.unsent, rests, landed, empty, Stage.rest]

/-- A worker that holds the transport begins its send whatever has happened since it found it. -/
theorem begun_of_poised {course : Course Handler} {send : Delivery × List Bytes}
    (poised : course.poised = some send) : course.work.begun = course.begun ++ [send] := by
  unfold Course.poised at poised
  split at poised
  · next flight held =>
    obtain ⟨delivery, loaded, rfl⟩ := Option.map_eq_some_iff.mp poised
    simp [work, launch, held, loaded, begun, Entry.begun?]
  · cases poised

/-- An outbox whose tasks take one turn at a time does what it does piece by piece. -/
structure Unfolds (course : Course Handler) : Prop where
  works : course.stage = .rests → course.outbox.flight = none → ∃ pieces,
    course.Completes (List.replicate pieces .work) (component.resume 0 .worker course.outbox)
  lands : ∀ flight answer, course.outbox.flight = some flight → ∃ pieces,
    course.Completes (.land answer :: List.replicate pieces .work)
      (component.answer 0 .worker answer course.outbox)
  calls : ∀ made, made ≠ .dispose → made ≠ .close → (course.step (.call made)).outbox =
    (component.start 0 (.caller course.calls) made course.outbox).1
  disposes : let reached := course.run [.call .dispose, .finish course.errands.length]
    reached.outbox = (component.start 0 (.caller course.calls) .dispose course.outbox).1 ∧
      reached.errands = course.errands
  closes : let reached := course.run [.call .close, .finish course.errands.length]
    reached.outbox = (component.start 0 (.caller course.calls) .close course.outbox).1 ∧
      reached.errands = course.errands

theorem Orderly.unfolds {course : Course Handler} (orderly : course.Orderly) : course.Unfolds where
  works rests landed := turn_leads rests (orderly.rests rests) landed
  lands _ answer aloft :=
    land_leads (orderly.rests (orderly.rests_of_aloft (by simp [aloft]))) aloft answer
  calls _ whole stays := course.call_eq whole stays
  disposes := course.dispose_leads
  closes := course.close_leads

/-- Whatever happened to an outbox before a dispose of it returns, and whatever happens afterwards,
what is left of it fades away. A call of the transport can begin afterwards if the worker holds the
transport when the dispose returns, and it is that one call then. -/
theorem run_disposed {settings : OutboxSettings} {maxFrame : Nat} {outbox : Outbox Handler}
    (created : create settings maxFrame = .ok (.ok outbox)) (before : List (Event Handler))
    {position caller : Nat}
    (returns : (({ outbox } : Course Handler).run before).errands[position]? =
      some (.disposes caller)) :
    let disposed := (({ outbox } : Course Handler).run before).step (.finish position)
    (∀ after, Leaves disposed (disposed.run after)) ∧
      ((∀ after, (disposed.run after).begun = disposed.begun) ↔ disposed.poised = none) ∧
      ∀ events, (({ outbox } : Course Handler).run events).Unfolds := by
  intro disposed
  have underway : (({ outbox } : Course Handler).run before).Orderly :=
    (create_orderly created).run before
  have orderly : disposed.Orderly := underway.step _
  obtain ⟨detached, closed⟩ : disposed.outbox.attached = false ∧
      disposed.outbox.mailbox.closed = true := by
    have gone := underway.disposing caller (List.mem_of_getElem? returns)
    simp only [disposed, step, returns]
    exact ⟨gone, rfl⟩
  refine ⟨fun after => ?_, ⟨fun never => ?_, fun idle after => ?_⟩,
    fun events => ((create_orderly created).run events).unfolds⟩
  · obtain ⟨entries, fades⟩ := orderly.run_fades detached closed after
    exact ⟨⟨entries, fades⟩, (orderly.run after).ended,
      fun task _ _ receipt => start_of_closed (fades.closed closed) task receipt⟩
  · cases poised : disposed.poised with
    | none => rfl
    | some send =>
        have late : disposed.work.begun = disposed.begun ++ [send] := begun_of_poised poised
        have same : disposed.work.begun = disposed.begun := never [.work]
        simp [same] at late
  · obtain ⟨entries, fades⟩ := orderly.run_fades detached closed after
    have none := fades.begins
    rw [idle] at none
    rw [begun, fades.log, List.filterMap_append, (List.append_eq_nil_iff.mp none).1,
      List.append_nil]
    rfl

/-- An outbox whose batches take messages of up to eight bytes. -/
def batching : Outbox Unit where
  mailbox := { limit := 2, limit_pos := Nat.two_pos }
  packageSize := 64
  batch := some (Batch.withMaxSize 20)

theorem batching_created :
    create { batched := true, packageSize := 64, messagesPerPass := 2 } 20 =
      .ok (.ok batching) := rfl

/-- The worker has collected two messages and found the transport when a dispose comes. -/
def racing : Course Unit :=
  ({ outbox := batching } : Course Unit).run
    (.call (.send [[1], [2]]) :: List.replicate 5 .work ++ [.call .dispose])

/-- The dispose has returned, and the send begins. -/
theorem late_send_begins :
    racing.errands[0]? = some (.disposes 1) ∧
      let disposed := racing.step (.finish 0)
      disposed.errands = [] ∧ disposed.begun = [] ∧
        (disposed.run [.work]).begun.map Prod.snd = [[[1], [2]]] := by
  decide

/-- A send has failed, and a message that no batch takes waits behind it. The second one of two
handlers has not been told when the first one disposes of the outbox. -/
def reporting : List (Event Unit) :=
  .call (.subscribe ()) :: .call (.subscribe ()) ::
    .call (.send [[1], [2], [3, 4, 5, 6, 7, 8, 9, 10, 11], [12]]) :: List.replicate 6 .work ++
      [.land (.error (.io .brokenPipe)), .work, .call .dispose]

/-- The dispose has returned. -/
def interrupted : Course Unit :=
  (({ outbox := batching } : Course Unit).run reporting).step (.finish 0)

/-- Another message is sent, the second handler is told, and the worker comes to its end. -/
def finished : Course Unit := interrupted.run (.call (.send [[13]]) :: List.replicate 13 .work)

theorem run_disposed_reporting :
    (∀ after, (interrupted.run after).begun = interrupted.begun) ∧ Leaves interrupted finished ∧
      finished.outbox.mailbox.worker = .ended ∧ finished.outbox.Emptied ∧
      interrupted.begun.length = 1 := by
  have returns : (({ outbox := batching } : Course Unit).run reporting).errands[0]? =
      some (.disposes 3) := by decide
  obtain ⟨left, late, -⟩ : (∀ after, Leaves interrupted (interrupted.run after)) ∧
      ((∀ after, (interrupted.run after).begun = interrupted.begun) ↔
        interrupted.poised = none) ∧ _ :=
    run_disposed batching_created reporting returns
  have leaves : Leaves interrupted finished := left _
  have idle : interrupted.poised = none := poised_of_idle (by decide)
  have ended : finished.outbox.mailbox.worker = .ended := by decide
  exact ⟨late.mpr idle, leaves, ended, (leaves.ended ended).1, by decide⟩

end Course

end Outbox

end ReliableTransport
