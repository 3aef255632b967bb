import ReliableTransport.Proofs.Outbox.Passage
/-!
This module says what a message shares its frame with if it is longer than the package size. Nothing
comes behind such a message, but it goes with the messages that were collected before it if it has
room there.
-/

namespace ReliableTransport

namespace Outbox

open Mailbox (Role)

open Dispatch (Event)

section Closing

variable (packageSize maxSize : Nat) (message : Bytes)

/-- Whether a message goes apart from the frame before it. -/
def GoesApart (frame : List Bytes) : Prop :=
  packageSize ≤ Frame.sizeOf frame ∨
    maxSize < Frame.sizeOf frame + Frame.lengthLength + message.length

instance (frame : List Bytes) : Decidable (GoesApart packageSize maxSize message frame) :=
  inferInstanceAs (Decidable (_ ∨ _))

/-- Frames and a message behind them that is longer than the package size. It goes with the last of
the frames, or alone. -/
def closedBy : List (List Bytes) → List (List Bytes)
  | [] => [[message]]
  | [frame] =>
    if GoesApart packageSize maxSize message frame then [frame, [message]]
    else [frame ++ [message]]
  | frame :: next :: others => frame :: closedBy (next :: others)

theorem closedBy_cons (frame : List Bytes) {others : List (List Bytes)} (more : others ≠ []) :
    closedBy packageSize maxSize message (frame :: others) =
      frame :: closedBy packageSize maxSize message others := by
  cases others with
  | nil => exact absurd rfl more
  | cons next rest => rfl

/-- The message is alone in its frame exactly if it goes apart from the last frame before it. -/
theorem closedBy_eq_iff (earlier : List (List Bytes)) :
    closedBy packageSize maxSize message earlier = earlier ++ [[message]] ↔
      ∀ frame ∈ earlier.getLast?, GoesApart packageSize maxSize message frame := by
  induction earlier with
  | nil => simp [closedBy]
  | cons frame others ih =>
      cases others with
      | nil =>
          rw [closedBy]
          split <;> rename_i apart <;> simp [apart]
      | cons next rest =>
          rw [closedBy_cons _ _ _ _ (by simp), List.cons_append, List.cons.injEq,
            List.getLast?_cons_cons]
          simpa using ih

end Closing

variable {packageSize maxSize : Nat} {batch : Batch} {message : Bytes}

/-- A frame that has reached the package size is not changed by what follows. -/
theorem closedBy_cons_of_reached {frame : List Bytes} (reached : packageSize ≤ Frame.sizeOf frame)
    (others : List (List Bytes)) :
    closedBy packageSize maxSize message (frame :: others) =
      frame :: closedBy packageSize maxSize message others := by
  cases others with
  | nil => exact if_pos (.inl reached)
  | cons next rest => rfl

/-- A message that is longer than the package size lets a frame go with it. -/
theorem collect_big (pending : Pending packageSize batch) (admitted : batch.admits message = true)
    (big : packageSize < message.length) :
    collect packageSize batch message =
      (if batch.fits message then [batch.messages ++ [message]] else [batch.messages, [message]],
        batch.holding []) := by
  have long (front : List Bytes) : packageSize ≤ Frame.sizeOf (front ++ [message]) := by
    simp only [Frame.sizeOf, Frame.bodySize_append, Frame.bodySize]
    omega
  have collected := collect_collected packageSize pending.measured message
  generalize collect packageSize batch message = step at collected
  cases collected with
  | refuses refused =>
      rw [admitted] at refused
      cases refused
  | joins fits below => exact absurd below (Nat.not_lt.mpr (long batch.messages))
  | fills fits reached => rw [if_pos fits]
  | parts _ crowded below => exact absurd below (Nat.not_lt.mpr (long []))
  | partsAndFills _ crowded reached => rw [if_neg (by simp [crowded])]

/-- A message that is longer than the package size has room beside what is collected exactly if it
does not go apart from it. -/
theorem fits_iff_goesApart (pending : Pending packageSize batch)
    (big : packageSize < message.length) :
    batch.fits message = true ↔ ¬GoesApart packageSize batch.maxSize message batch.messages := by
  have below := pending.below
  have full : message ≠ [] := List.ne_nil_of_length_pos (Nat.zero_lt_of_lt big)
  rw [Batch.fits_iff, or_iff_left full, pending.measured, GoesApart]
  omega

/-- What a message does that is longer than the package size, if it comes upon what is collected. -/
theorem collect_closedBy (pending : Pending packageSize batch)
    (admitted : batch.admits message = true) (big : packageSize < message.length) :
    collect packageSize batch message =
      (closedBy packageSize batch.maxSize message (frames packageSize batch []),
        batch.holding []) := by
  rw [collect_big pending admitted big, frames]
  congr 1
  have apart := fits_iff_goesApart pending big
  cases fits : batch.fits message with
  | true =>
      have together := apart.mp fits
      cases empty : batch.isEmpty with
      | true =>
          have none : batch.messages = [] := by simpa [Batch.isEmpty] using empty
          simp [closedBy, none]
      | false => simp [closedBy, together]
  | false =>
      have full := messages_ne_nil_of_parted pending.measured admitted fits
      have alone : GoesApart packageSize batch.maxSize message batch.messages := by
        simpa [fits] using apart
      simp [closedBy, Batch.isEmpty, full, alone]

/-- A message that is longer than the package size ends a frame. The messages before it are framed
as if the pass had ended with them, and those behind it as if the pass had begun with them. -/
theorem frames_big (wide : Frame.headerLength < packageSize) (pending : Pending packageSize batch)
    (admitted : batch.admits message = true) (big : packageSize < message.length)
    (before rest : List Bytes) :
    frames packageSize batch (before ++ message :: rest) =
      closedBy packageSize batch.maxSize message (frames packageSize batch before) ++
        frames packageSize (batch.holding []) rest := by
  induction before generalizing batch with
  | nil => rw [List.nil_append, frames.eq_2, collect_closedBy pending admitted big]
  | cons first more ih =>
      rw [List.cons_append, frames.eq_2, frames.eq_2]
      have collected := collect_collected packageSize pending.measured first
      generalize collect packageSize batch first = step at collected
      have afresh := ih (pending_holding_nil wide batch) admitted
      cases collected with
      | refuses refused => exact ih pending admitted
      | joins fits below => exact ih (pending.joined fits below) admitted
      | fills fits reached =>
          simp only [List.singleton_append]
          rw [closedBy_cons_of_reached reached]
          exact congrArg (List.cons _) afresh
      | parts accepted crowded below =>
          have next := pending_holding_singleton accepted below
          obtain ⟨others, later, split⟩ :=
            frames_extend packageSize next.measured (by simp [Batch.holding]) more
          simp only [List.singleton_append]
          rw [closedBy_cons _ _ _ _ (by simp [split])]
          exact congrArg (List.cons _) (ih next admitted)
      | partsAndFills _ crowded reached =>
          simp only [List.cons_append, List.nil_append]
          rw [closedBy_cons _ _ _ _ (by simp), closedBy_cons_of_reached reached]
          exact congrArg (fun others => _ :: _ :: others) afresh

/-- A frame of a pass that holds a message longer than the package size holds nothing behind it. -/
theorem Packed.big_last {kind : Batch} {messages : List Bytes} {frames : List (List Bytes)}
    (packed : Packed packageSize kind messages frames) {frame front back : List Bytes}
    (member : frame ∈ frames) (split : frame = front ++ message :: back)
    (big : packageSize < message.length) : back = [] := by
  rcases List.eq_nil_or_concat back with rfl | ⟨middle, last, rfl⟩
  · rfl
  · have below := packed.below frame member
    rw [split, List.concat_eq_append, ← List.cons_append, ← List.append_assoc,
      List.dropLast_concat, Frame.sizeOf, Frame.bodySize_append, Frame.bodySize] at below
    omega

section Runs

variable {Handler : Type} {settings : OutboxSettings} {maxFrame : Nat} {outbox : Outbox Handler}

/-- As long as a batched outbox has its transport, a message that is longer than the package size
and not too long for a frame is the last of its frame. It is alone there exactly if the last frame
that the messages before it in the pass are packed into has reached the package size or has no room
for it. Otherwise it shares that frame. -/
theorem long_messages_close (created : create settings maxFrame = .ok (.ok outbox))
    (batched : settings.batched = true) {events : List (Event Handler)}
    (attached : ((Passage.opened outbox).run events).dispatch.outbox.attached = true)
    (room : ∀ pass ∈ ((Passage.opened outbox).run events).passes, [] ∈ pass →
      settings.packageSize + Frame.lengthLength < Bytes.wordValues) :
    let kind := Batch.withMaxSize maxFrame
    let packs := frames settings.packageSize kind
    let after := (Passage.opened outbox).run events
    after.dispatch.sends.map Send.messages ++ after.dispatch.outbox.ahead kind =
        after.passes.flatMap packs ∧
      (∀ send ∈ after.dispatch.sends, ∀ front message back,
        send.messages = front ++ message :: back → settings.packageSize < message.length →
          back = []) ∧
      ∀ pass ∈ after.passes, ∀ before message rest, pass = before ++ message :: rest →
        settings.packageSize < message.length → kind.admits message = true →
          packs pass =
              closedBy settings.packageSize kind.maxSize message (packs before) ++ packs rest ∧
            (closedBy settings.packageSize kind.maxSize message (packs before) =
                packs before ++ [[message]] ↔
              ∀ frame ∈ (packs before).getLast?,
                GoesApart settings.packageSize kind.maxSize message frame) := by
  intro kind packs after
  have filed : after.Filed kind settings.packageSize :=
    (Passage.opened_filed created batched).run events attached room
  have nothing : Pending settings.packageSize kind := pending_holding_nil filed.sizes.wide kind
  refine ⟨filed.split, fun send member front message back split big => ?_,
    fun pass _ before message rest split big admitted => ⟨?_, closedBy_eq_iff _ _ _ _⟩⟩
  · have sent : send.messages ∈ after.passes.flatMap packs := by
      refine filed.split ▸ ?_
      exact List.mem_append_left _ (List.mem_map_of_mem member)
    obtain ⟨pass, _, framed⟩ := List.mem_flatMap.mp sent
    exact (frames_packed filed.sizes.wide nothing pass).big_last framed split big
  · subst split
    exact frames_big filed.sizes.wide nothing admitted big before rest

end Runs

/-- A message that is longer than the package size. -/
def bulk : Bytes := List.replicate 25 0x62

/-- A long message comes behind a short one and ahead of another long one. -/
def sharing : List (Event Unit) :=
  [.call 0 (.subscribe ()), .call 0 (.send [[0x61], bulk, bulk]), .resume .worker (.ok 0),
    .land (.ok 0), .land (.ok 0)]

theorem long_messages_close_sharing :
    ∃ outbox : Outbox Unit,
      create { batched := true, packageSize := 16 } 65536 = .ok (.ok outbox) ∧
        let kind := Batch.withMaxSize 65536
        let after := (Passage.opened outbox).run sharing
        after.dispatch.outbox.attached = true ∧ [[0x61], bulk, bulk] ∈ after.passes ∧
          16 < bulk.length ∧ kind.admits bulk = true ∧
          (∀ pass ∈ after.passes, [] ∉ pass) ∧
          frames 16 kind [[0x61], bulk, bulk] = [[[0x61], bulk], [bulk]] ∧
          after.dispatch.sends.map Send.messages = [[[0x61], bulk], [bulk]] := by
  obtain ⟨outbox, created⟩ : ∃ outbox : Outbox Unit,
      create { batched := true, packageSize := 16 } 65536 = .ok (.ok outbox) := ⟨_, rfl⟩
  have attached : ((Passage.opened outbox).run sharing).dispatch.outbox.attached = true := by
    cases created
    decide
  have passes : ((Passage.opened outbox).run sharing).passes = [[[0x61], bulk, bulk]] := by
    cases created
    decide
  have landed : ((Passage.opened outbox).run sharing).dispatch.outbox.flight = none := by
    cases created
    decide
  have full : ∀ pass ∈ ((Passage.opened outbox).run sharing).passes, [] ∉ pass := by
    rw [passes]
    decide
  have admitted : (Batch.withMaxSize 65536).admits bulk = true := by decide
  obtain ⟨sent, _, closes⟩ :=
    long_messages_close created rfl attached fun pass member none => absurd none (full pass member)
  have member : [[0x61], bulk, bulk] ∈ ((Passage.opened outbox).run sharing).passes := by
    rw [passes]
    exact List.mem_cons_self
  have first := (closes _ member [[0x61]] bulk [bulk] rfl (by decide) admitted).1
  have split : frames 16 (Batch.withMaxSize 65536) [[0x61], bulk, bulk] =
      [[[0x61], bulk], [bulk]] := by
    rw [first]
    decide
  rw [passes] at sent
  simp only [ahead, landed, Option.elim, List.append_nil, List.flatMap_cons, List.flatMap_nil,
    split] at sent
  exact ⟨outbox, created, attached, member, by decide, admitted, full, split, sent⟩

theorem long_message_shares :
    ¬∀ (settings : OutboxSettings) (maxFrame : Nat) (outbox : Outbox Unit)
      (events : List (Event Unit)), create settings maxFrame = .ok (.ok outbox) →
      settings.batched = true → ∀ send ∈ ((Passage.opened outbox).run events).dispatch.sends,
        ∀ message ∈ send.messages, settings.packageSize < message.length →
          send.messages = [message] := by
  intro alone
  obtain ⟨outbox, created⟩ : ∃ outbox : Outbox Unit,
      create { batched := true, packageSize := 16 } 65536 = .ok (.ok outbox) := ⟨_, rfl⟩
  have sent : ((Passage.opened outbox).run sharing).dispatch.sends.map Send.messages =
      [[[0x61], bulk], [bulk]] := by
    cases created
    decide
  have shared : [[0x61], bulk] ∈
      ((Passage.opened outbox).run sharing).dispatch.sends.map Send.messages := by
    rw [sent]
    exact List.mem_cons_self
  obtain ⟨send, member, messages⟩ := List.mem_map.mp shared
  have single := alone _ _ outbox sharing created rfl send member bulk
    (by rw [messages]; decide) (by decide)
  rw [messages] at single
  exact absurd single (by decide)

end Outbox

end ReliableTransport
