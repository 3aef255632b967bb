import ReliableTransport.Proofs.Inbox.Ledger
/-!
This module says what becomes of the packages that a source tells an inbox. While the inbox listens,
every package comes into its mailbox once, and the worker takes it out again. Once the inbox was
closed or disposed of, no further package comes in, and nobody at the source stands for the inbox
any more.
-/

namespace ReliableTransport

namespace Inbox

open Mailbox (Role)

variable {Handler Other : Type}

namespace Deed

def told? : Deed Handler → Option Package
  | .tells package => some package
  | _ => none

/-- The inbox is closed or disposed of. -/
def isLeave : Deed Handler → Bool
  | .closes _ => true
  | .disposes => true
  | _ => false

/-- The number of a call that closes the inbox. -/
def closer? : Deed Handler → Option Nat
  | .closes number => some number
  | _ => none

/-- The source tells nothing, and the inbox goes on to listen. -/
def isPlain : Deed Handler → Bool
  | .tells _ | .closes _ | .disposes => false
  | _ => true

theorem plain {deed : Deed Handler} (plain : deed.isPlain = true) :
    deed.told? = none ∧ deed.isLeave = false ∧ deed.closer? = none := by
  cases deed <;> first | exact ⟨rfl, rfl, rfl⟩ | cases plain

end Deed

/-- The inbox was closed or disposed of. -/
def left (log : List (Deed Handler)) : Bool := log.any Deed.isLeave

/-- The packages that the source told before the inbox was first closed or disposed of. -/
def heard : List (Deed Handler) → List Package
  | [] => []
  | deed :: rest => if deed.isLeave then [] else deed.told?.toList ++ heard rest

/-- The calls that closed the inbox, in order. -/
def closers (log : List (Deed Handler)) : List Nat := log.filterMap Deed.closer?

section Log

variable (log : List (Deed Handler)) (deed : Deed Handler)

@[simp] theorem left_concat : left (log ++ [deed]) = (left log || deed.isLeave) := by
  simp [left]

@[simp] theorem heard_concat : heard (log ++ [deed]) =
    if left log then heard log else heard log ++ deed.told?.toList := by
  induction log with
  | nil => cases deed <;> rfl
  | cons first rest ih =>
      cases leaves : first.isLeave with
      | true => simp [heard, left, leaves]
      | false =>
          have same : left (first :: rest) = left rest := by simp [left, leaves]
          rw [List.cons_append, heard, ih, same, heard, leaves]
          cases left rest <;> simp

@[simp] theorem closers_concat : closers (log ++ [deed]) = closers log ++ deed.closer?.toList := by
  cases found : deed.closer? <;> simp [closers, found]

/-- What is told comes behind all that was heard before, unless the inbox has left. -/
theorem log_tells (packages : List Package) :
    worked (log ++ packages.map .tells) = worked log ∧
      left (log ++ packages.map .tells) = left log ∧
      closers (log ++ packages.map .tells) = closers log ∧
      heard (log ++ packages.map .tells) =
        if left log then heard log else heard log ++ packages := by
  induction packages generalizing log with
  | nil => simp
  | cons package rest ih =>
      obtain ⟨worked, gone, closed, told⟩ := ih (log ++ [.tells package])
      rw [List.map_cons, List.append_cons, worked, gone, closed, told]
      cases before : left log <;>
        simp [Deed.worked?, Deed.isLeave, Deed.closer?, Deed.told?, before]

end Log

/-- The listener is the inbox. -/
def Listener.isInbox : Listener Other → Bool
  | .inbox => true
  | .other _ => false

theorem ears_eq (source : Source Other) :
    ears source = source.listeners.entries.countP fun entry => entry.2.isInbox := by
  rw [ears, Registry.handlers, List.countP_map]
  apply List.countP_congr
  rintro ⟨id, listener⟩ _
  cases listener <;> rfl

/-- The inbox listens. It is registered at the source once, with its own number. -/
structure Attached (own : Nat) (inbox : Inbox Handler Other) : Prop where
  subscription : inbox.subscription = some own
  isOpen : inbox.mailbox.closed = false
  used : own < inbox.source.listeners.nextId
  own_iff : ∀ entry ∈ inbox.source.listeners.entries, entry.1 = own ↔ entry.2.isInbox = true
  once : ears inbox.source = 1

/-- The inbox has left its source. -/
structure Parted (inbox : Inbox Handler Other) : Prop where
  subscription : inbox.subscription = none
  closed : inbox.mailbox.closed = true
  gone : ears inbox.source = 0

/-- An inbox that listens is told every package once. -/
theorem fireAll_of_once {inbox : Inbox Handler Other} (once : ears inbox.source = 1)
    (packages : List Package) :
    (packages.foldl fire inbox).mailbox = (inbox.mailbox.pushAll packages).1 := by
  induction packages generalizing inbox with
  | nil => rfl
  | cons package rest ih =>
      rw [List.foldl_cons, @ih (inbox.fire package) once, fire_mailbox, once]
      rfl

/-- A closed mailbox takes no package of the source. -/
theorem fireAll_of_closed {inbox : Inbox Handler Other} (closed : inbox.mailbox.closed = true)
    (packages : List Package) :
    (packages.foldl fire inbox).mailbox = (inbox.mailbox.pushAll packages).1 := by
  have shut : (inbox.mailbox.closed || inbox.mailbox.isOver) = true := by
    rw [closed, Bool.true_or]
  rw [Mailbox.pushAll_of_shut shut]
  induction packages generalizing inbox with
  | nil => rfl
  | cons package rest ih =>
      have same : (inbox.fire package).mailbox = inbox.mailbox := by
        rw [fire_mailbox, Mailbox.pushAll_of_shut shut]
      rw [List.foldl_cons, ih (by rw [same, closed]) (by rw [same, shut]), same]

/-- An inbox that leaves its source strikes itself off, and nobody else. -/
theorem unsubscribeFromSource_of_attached {own : Nat} {inbox : Inbox Handler Other}
    (attached : Attached own inbox) :
    inbox.unsubscribeFromSource =
      { inbox with
        subscription := none
        source := { inbox.source with
          listeners := { inbox.source.listeners with
            entries := inbox.source.listeners.entries.filter fun entry => !entry.2.isInbox } } } := by
  have struck : (inbox.source.listeners.entries.filter fun entry => entry.1 != own) =
      inbox.source.listeners.entries.filter fun entry => !entry.2.isInbox := by
    apply List.filter_congr
    intro entry among
    have same := attached.own_iff entry among
    cases own : entry.2.isInbox <;> simp_all
  simp only [unsubscribeFromSource, attached.subscription, Registry.unsubscribe, struck]

theorem unsubscribeFromSource_of_parted {inbox : Inbox Handler Other} (parted : Parted inbox) :
    inbox.unsubscribeFromSource = inbox := by
  simp only [unsubscribeFromSource, parted.subscription]

/-- Whoever else subscribes at the source is not the inbox. -/
theorem Attached.listen {own : Nat} {inbox : Inbox Handler Other} (attached : Attached own inbox)
    (other : Other) :
    Attached own { inbox with
      source := { inbox.source with
        listeners := (inbox.source.listeners.subscribe (.other other)).1 } } where
  subscription := attached.subscription
  isOpen := attached.isOpen
  used := Nat.lt_succ_of_lt attached.used
  own_iff := by
    intro entry among
    rcases List.mem_append.mp among with before | last
    · exact attached.own_iff entry before
    · obtain rfl := List.mem_singleton.mp last
      simpa [Listener.isInbox] using Nat.ne_of_gt attached.used
  once := by
    have once := attached.once
    rw [ears_eq] at once ⊢
    rw [Registry.subscribe, List.countP_append, once]
    rfl

/-- Whoever else ends a subscription leaves the one of the inbox alone. -/
theorem Attached.unlisten {own id : Nat} {inbox : Inbox Handler Other}
    (attached : Attached own inbox) (foreign : id ≠ own) :
    Attached own { inbox with
      source := { inbox.source with
        listeners := (inbox.source.listeners.unsubscribe id).1 } } where
  subscription := attached.subscription
  isOpen := attached.isOpen
  used := attached.used
  own_iff entry among := attached.own_iff entry (List.mem_filter.mp among).1
  once := by
    rw [← attached.once, ears_eq, ears_eq, Registry.unsubscribe, List.countP_filter]
    apply List.countP_congr
    intro entry among
    have same := attached.own_iff entry among
    cases isInbox : entry.2.isInbox with
    | false => simp
    | true =>
        have own := same.mpr isInbox
        simpa [own] using foreign.symm

theorem Parted.listen {inbox : Inbox Handler Other} (parted : Parted inbox) (other : Other) :
    Parted { inbox with
      source := { inbox.source with
        listeners := (inbox.source.listeners.subscribe (.other other)).1 } } where
  subscription := parted.subscription
  closed := parted.closed
  gone := by
    have gone := parted.gone
    rw [ears_eq] at gone ⊢
    rw [Registry.subscribe, List.countP_append, gone]
    rfl

theorem Parted.unlisten {inbox : Inbox Handler Other} (parted : Parted inbox) (id : Nat) :
    Parted { inbox with
      source := { inbox.source with
        listeners := (inbox.source.listeners.unsubscribe id).1 } } where
  subscription := parted.subscription
  closed := parted.closed
  gone := by
    have gone := parted.gone
    rw [ears_eq] at gone ⊢
    exact Nat.le_zero.mp (gone ▸ List.filter_sublist.countP_le)

/-- An inbox that leaves its source and closes its mailbox is not at the source any more. -/
theorem Attached.part {own : Nat} {inbox : Inbox Handler Other} (attached : Attached own inbox)
    (mailbox : Mailbox Package) (closed : mailbox.closed = true) :
    Parted { inbox.unsubscribeFromSource with mailbox } := by
  rw [unsubscribeFromSource_of_attached attached]
  exact {
    subscription := rfl
    closed := closed
    gone := by
      rw [ears_eq, List.countP_filter]
      simp }

namespace Course

/-- What holds of the packages of an inbox whose passes fit into memory, whatever happens. -/
structure Custody (own : Nat) (course : Course Handler Other) : Prop where
  room : course.inbox.mailbox.hasRoom = true
  whole : course.inbox.mailbox.worker ≠ .broken
  /-- Each package that was heard was worked on, or it is in the pass or in the queue. -/
  conserved : worked course.log ++ (course.pass.packages ++ course.inbox.mailbox.queue) =
    heard course.log
  idle : course.inbox.mailbox.worker ≠ .busy → course.pass = {}
  ended : course.inbox.mailbox.worker = .ended →
    course.inbox.mailbox.closed = true ∧ course.inbox.mailbox.queue = []
  attached : left course.log = false → Attached own course.inbox
  parted : left course.log = true → Parted course.inbox
  joinable : course.inbox.mailbox.joinable = true ↔ closers course.log = []
  /-- Nobody waits before somebody closes. -/
  alone : course.inbox.mailbox.joinable = true → course.inbox.mailbox.joiner = none
  early : ∀ number ∈ closers course.log, number < course.calls

namespace Custody

variable {own : Nat} {course : Course Handler Other}

theorem alive (custody : Custody own course) (isOpen : course.inbox.mailbox.closed = false) :
    course.inbox.mailbox.isOver = false := by
  rw [Mailbox.isOver, Bool.or_eq_false_iff, beq_eq_false_iff_ne, beq_eq_false_iff_ne]
  constructor
  · intro ended
    rw [(custody.ended ended).1] at isOpen
    cases isOpen
  · exact custody.whole

/-- As long as the worker has something left to do of a pass, it is busy with it. -/
theorem busy (custody : Custody own course) (some : course.pass ≠ {}) :
    course.inbox.mailbox.worker = .busy := by
  by_cases busy : course.inbox.mailbox.worker = .busy
  · exact busy
  · exact absurd (custody.idle busy) some

/-- What is no matter of the source leaves the packages as they are, if none is lost. -/
theorem note (custody : Custody own course) (deed : Deed Handler) (plain : deed.isPlain = true)
    (pass : Pass Handler) (handlers : Registry Handler) (messageCount packageCount : UInt64)
    (calls : Nat) (later : course.calls ≤ calls)
    (conserved : worked course.log ++ deed.worked?.toList ++
      (pass.packages ++ course.inbox.mailbox.queue) = heard course.log)
    (idle : course.inbox.mailbox.worker ≠ .busy → pass = {}) :
    Custody own { course with
      inbox := { course.inbox with handlers, messageCount, packageCount }
      pass
      calls
      log := course.log ++ [deed] } := by
  obtain ⟨told, leave, closer⟩ := Deed.plain plain
  have early : ∀ number ∈ closers course.log, number < calls := fun number among =>
    Nat.lt_of_lt_of_le (custody.early number among) later
  exact {
    room := custody.room
    whole := custody.whole
    conserved := by simpa [told] using conserved
    idle := idle
    ended := custody.ended
    attached := fun stays => { custody.attached (by simpa [leave] using stays) with }
    parted := fun gone => { custody.parted (by simpa [leave] using gone) with }
    joinable := by simpa [closer] using custody.joinable
    alone := custody.alone
    early := by simpa [closer] using early }

/-- The worker of a mailbox that has room takes a pass, ends or goes on to wait. -/
theorem begin (custody : Custody own course) (remains : course.pass = {}) :
    Custody own { course with
      inbox := { course.inbox with mailbox := course.inbox.mailbox.takePass.1 }
      pass := { packages := course.inbox.mailbox.takePass.2.getD [] } } := by
  have conserved := custody.conserved
  rw [remains] at conserved
  by_cases waits : course.inbox.mailbox.worker = .waiting
  · by_cases empty : course.inbox.mailbox.queue = []
    · rw [Mailbox.takePass_of_empty waits custody.room empty]
      exact {
        custody with
        whole := by cases course.inbox.mailbox.closed <;> nofun
        conserved := conserved
        idle := fun _ => rfl
        ended := by
          cases closed : course.inbox.mailbox.closed with
          | false => nofun
          | true => exact fun _ => ⟨rfl, empty⟩
        attached := fun stays => { custody.attached stays with }
        parted := fun gone => { custody.parted gone with } }
    · rw [Mailbox.takePass_of_queued waits custody.room empty]
      exact {
        custody with
        whole := nofun
        conserved := by
          rw [← conserved]
          exact congrArg _ (List.take_append_drop _ _)
        idle := fun busy => absurd rfl busy
        ended := nofun
        attached := fun stays => { custody.attached stays with }
        parted := fun gone => { custody.parted gone with } }
  · rw [Mailbox.takePass_of_not_waiting waits]
    exact {
      custody with
      conserved := conserved
      idle := fun _ => rfl }

theorem work (custody : Custody own course) : Custody own course.work := by
  have conserved := custody.conserved
  have busy := custody.busy
  generalize next : course.work = after
  cases next ▸ works course with
  | calls remains | delivers remains | opens remains | discards remains =>
      rw [remains] at conserved busy
      refine custody.note _ rfl _ _ _ _ _ (Nat.le_refl _) ?_
        fun idle => absurd (busy (by simp)) idle
      simpa [Deed.worked?] using conserved
  | ends remains =>
      exact {
        custody with
        whole := Mailbox.Worker.noConfusion
        idle := fun _ => remains
        ended := Mailbox.Worker.noConfusion
        attached := fun stays => { custody.attached stays with }
        parted := fun gone => { custody.parted gone with } }
  | begins remains => exact custody.begin remains

/-- A package that is told comes into the queue of an inbox that listens. -/
theorem tells (custody : Custody own course) (packages : List Package) (bytesReceived : UInt64)
    (underway : List Package) (calls : Nat) (later : course.calls ≤ calls) :
    Custody own { course with
      inbox := { course.inbox with
        source := { course.inbox.source with bytesReceived }
        mailbox := (course.inbox.mailbox.pushAll packages).1 }
      underway
      calls
      log := course.log ++ packages.map .tells } := by
  obtain ⟨worked, gone, closed, told⟩ := log_tells course.log packages
  have early : ∀ number ∈ closers course.log, number < calls := fun number among =>
    Nat.lt_of_lt_of_le (custody.early number among) later
  cases hasLeft : left course.log with
  | false =>
      have attached := custody.attached hasLeft
      rw [Mailbox.pushAll_of_open attached.isOpen (custody.alive attached.isOpen)]
      exact {
        custody with
        conserved := by
          rw [told, worked, hasLeft, if_neg Bool.false_ne_true, ← custody.conserved]
          simp
        ended := by
          intro ended
          have isOpen := attached.isOpen
          rw [(custody.ended ended).1] at isOpen
          cases isOpen
        attached := fun _ => { attached with }
        parted := by
          rw [gone, hasLeft]
          nofun
        joinable := by
          rw [closed]
          exact custody.joinable
        early := by rwa [closed] }
  | true =>
      have parted := custody.parted hasLeft
      rw [Mailbox.pushAll_of_shut (by rw [parted.closed, Bool.true_or])]
      exact {
        custody with
        conserved := by
          rw [told, worked, hasLeft, if_pos rfl]
          exact custody.conserved
        attached := by
          rw [gone, hasLeft]
          nofun
        parted := fun _ => { parted with }
        joinable := by
          rw [closed]
          exact custody.joinable
        early := by rwa [closed] }

/-- An inbox that is closed or disposed of leaves its source, if it has not before. -/
theorem leaves (custody : Custody own course) (deed : Deed Handler) (leaves : deed.isLeave = true)
    (joinable : Bool) (joiner : Option Role)
    (same : joinable = true ↔ closers course.log ++ deed.closer?.toList = [])
    (alone : joinable = true → joiner = none)
    (known : ∀ number, deed.closer? = some number → number = course.calls) :
    Custody own { course with
      inbox := { course.inbox.unsubscribeFromSource with
        mailbox := { course.inbox.mailbox with closed := true, joinable, joiner } }
      calls := course.calls + 1
      log := course.log ++ [deed] } := by
  have none : deed.worked? = none ∧ deed.told? = none := by
    cases deed <;> first | exact ⟨rfl, rfl⟩ | cases leaves
  exact {
    room := custody.room
    whole := custody.whole
    conserved := by simpa [none] using custody.conserved
    idle := custody.idle
    ended := fun ended => ⟨rfl, (custody.ended ended).2⟩
    attached := by simp [leaves]
    parted := by
      intro _
      cases hasLeft : left course.log with
      | false => exact (custody.attached hasLeft).part _ rfl
      | true =>
          have parted := custody.parted hasLeft
          rw [unsubscribeFromSource_of_parted parted]
          exact { parted with closed := rfl }
    joinable := by rwa [closers_concat]
    alone := alone
    early := by
      rw [closers_concat]
      intro number among
      rcases List.mem_append.mp among with before | last
      · exact Nat.lt_succ_of_lt (custody.early number before)
      · rw [known number (Option.mem_toList.mp last)]
        exact Nat.lt_succ_self _ }

/-- Who waits, or gives up to wait, is nothing to the packages. -/
theorem rejoin (custody : Custody own course) {joiner : Option Role}
    (who : joiner = none ∨ joiner = course.inbox.mailbox.joiner) :
    Custody own { course with
      inbox := { course.inbox with mailbox := { course.inbox.mailbox with joiner } } } :=
  { custody with
    attached := fun stays => { custody.attached stays with }
    parted := fun gone => { custody.parted gone with }
    alone := fun free => who.elim id fun same => same.trans (custody.alone free) }

theorem call (custody : Custody own course) (call : Call Handler) :
    Custody own (course.step (.call call)) := by
  have conserved := custody.conserved
  cases call with
  | fire packages =>
      obtain ⟨bytesReceived, queue, fired⟩ := fireAll_frame packages course.inbox
      have pushed : ({ course.inbox.mailbox with queue } : Mailbox Package) =
          (course.inbox.mailbox.pushAll packages).1 := by
        have same := congrArg Inbox.mailbox fired
        cases hasLeft : left course.log with
        | false => exact same.symm.trans (fireAll_of_once (custody.attached hasLeft).once packages)
        | true =>
            exact same.symm.trans (fireAll_of_closed (custody.parted hasLeft).closed packages)
      rw [Course.step, turn, start, fired, pushed]
      exact custody.tells packages _ _ _ (Nat.le_succ _)
  | subscribe handler =>
      exact custody.note (.registers handler) rfl _ _ _ _ _ (Nat.le_succ _)
        (by simpa [Deed.worked?] using conserved) custody.idle
  | unsubscribe id =>
      exact custody.note (.strikes id) rfl _ _ _ _ _ (Nat.le_succ _)
        (by simpa [Deed.worked?] using conserved) custody.idle
  | reset =>
      exact custody.note .resets rfl _ _ _ _ _ (Nat.le_succ _)
        (by simpa [Deed.worked?] using conserved) custody.idle
  | close =>
      obtain ⟨joiner, same, _⟩ := course.turn_close
      rw [Course.step, same]
      exact custody.leaves (.closes course.calls) rfl false joiner (by simp [Deed.closer?])
        (fun free => absurd free Bool.false_ne_true)
        fun number found => (Option.some.inj found).symm
  | dispose =>
      rw [Course.step, course.turn_dispose]
      exact custody.leaves .disposes rfl _ _ (by simpa [Deed.closer?] using custody.joinable)
        custody.alone fun number found => by cases found

theorem step (custody : Custody own course) (event : Event Handler Other) :
    Custody own (course.step event) := by
  cases event with
  | call call => exact custody.call call
  | work => exact custody.work
  | turn number =>
      obtain ⟨joiner, same, who⟩ := await_frame course.inbox (.caller number)
      rw [Course.step, turn, same]
      exact custody.rejoin who
  | abandon number =>
      obtain ⟨joiner, same, who⟩ := course.inbox.mailbox.unjoin_eq (.caller number)
      rw [Course.step, same]
      exact custody.rejoin who
  | announce package =>
      exact {
        custody with
        attached := fun stays => { custody.attached stays with }
        parted := fun gone => { custody.parted gone with } }
  | tell position =>
      rw [Course.step]
      split
      · exact custody
      next package _ => exact custody.tells [package] _ _ _ (Nat.le_refl _)
  | listen other =>
      exact {
        custody with
        attached := fun stays => (custody.attached stays).listen other
        parted := fun gone => (custody.parted gone).listen other }
  | unlisten id =>
      rw [Course.step]
      split
      · exact custody
      next foreign =>
        exact {
          custody with
          attached := by
            intro stays
            have attached := custody.attached stays
            refine attached.unlisten fun same => foreign ?_
            rw [attached.subscription, same]
          parted := fun gone => (custody.parted gone).unlisten id }

theorem run (custody : Custody own course) (events : List (Event Handler Other)) :
    Custody own (course.run events) := by
  induction events generalizing course with
  | nil => exact custody
  | cons event rest ih => exact ih (custody.step event)

end Custody

end Course

end Inbox

end ReliableTransport
