import ReliableTransport.Proofs.Outbox.Outcomes
/-!
This module says how a batched outbox splits the messages of its passes into frames, in every run.
-/

namespace ReliableTransport

namespace Outbox

open Mailbox (Role)

open Dispatch (Event)

variable {Handler : Type} {settings : OutboxSettings} {maxFrame : Nat} {outbox : Outbox Handler}

/-- As long as a batched outbox has its transport, its sends are the frames that its passes are
packed into, one pass behind the other. The frames of a pass hold its messages that are not too
long for any frame. Each of them ends where it reaches the package size or has no room for the next
message, or with the pass. Only messages that no frame can hold are refused, nothing stays collected
after a pass, and the frames are the same however the sends end. The package size has to leave room
for an empty message where a pass has one. -/
theorem passes_packed (created : create settings maxFrame = .ok (.ok outbox))
    (batched : settings.batched = true) {events : List (Event Handler)}
    (attached : ((Passage.opened outbox).run events).dispatch.outbox.attached = true)
    (room : ∀ pass ∈ ((Passage.opened outbox).run events).passes, [] ∈ pass →
      settings.packageSize + Frame.lengthLength < Bytes.wordValues) :
    let kind := Batch.withMaxSize maxFrame
    let packs := frames settings.packageSize kind
    let after := (Passage.opened outbox).run events
    (∀ pass ∈ after.passes, Packed settings.packageSize kind pass (packs pass)) ∧
      after.dispatch.sends.map Send.messages ++ after.dispatch.outbox.ahead kind =
        after.passes.flatMap packs ∧
      (∀ send ∈ after.dispatch.sends, send.delivery.Writes send.messages) ∧
      (∀ order ∈ Effect.orders after.dispatch.effects, after.dispatch.Explains kind order) ∧
      (after.dispatch.outbox.flight = none → after.dispatch.outbox.batch = some kind) ∧
      (after.dispatch.outbox.mailbox.worker ≠ .broken →
        after.accepted = after.passes.flatten ++ after.dispatch.outbox.mailbox.queue) ∧
      ∀ others : List (Event Handler), others.map Event.plan = events.map Event.plan →
        let other := (Passage.opened outbox).run others
        other.passes = after.passes ∧
          other.dispatch.sends.map Send.messages = after.dispatch.sends.map Send.messages := by
  intro kind packs after
  have filed : after.Filed kind settings.packageSize :=
    (Passage.opened_filed created batched).run events attached room
  refine ⟨fun pass _ => ?_, filed.split, filed.written, filed.told, fun landed => ?_,
    filed.accepted, fun others alike => ?_⟩
  · exact frames_packed filed.sizes.wide (pending_holding_nil filed.sizes.wide kind) pass
  · obtain ⟨held, holds, empty⟩ := filed.holds
    rw [empty landed] at holds
    exact holds
  · have twins := (Twins.refl (Passage.opened outbox)).run alike
    refine ⟨twins.passes, ?_⟩
    have loads := congrArg (List.map Prod.snd) twins.sends
    simpa [Send.load, Function.comp_def] using loads

/-- The frames reach the package size exactly, are too small for the next message and end with the
pass. -/
def mixed : List Bytes :=
  [[1], [0, 0, 0, 0, 0, 0, 0, 0, 0, 0, 0, 0, 0], [2, 2, 2], [3, 3], [4, 4, 4, 4, 4, 4, 4], [], [6]]

/-- The first of the sends fails. -/
def mixedRun : List (Event Unit) :=
  [.call 0 (.subscribe ()), .call 0 (.send mixed), .resume .worker (.error (.io .brokenPipe)),
    .land (.ok 0), .land (.ok 0), .land (.ok 0), .land (.ok 0)]

theorem passes_packed_mixed :
    ∃ outbox : Outbox Unit,
      create { batched := true, packageSize := 20, messagesPerPass := 7 } 24 = .ok (.ok outbox) ∧
        let after := (Passage.opened outbox).run mixedRun
        after.dispatch.outbox.attached = true ∧ after.passes = [mixed] ∧
          20 + Frame.lengthLength < Bytes.wordValues ∧
          Packed 20 (Batch.withMaxSize 24) mixed
            [[[1], [2, 2, 2]], [[3, 3]], [[4, 4, 4, 4, 4, 4, 4], []], [[6]]] ∧
          after.dispatch.sends.map Send.messages =
            [[[1], [2, 2, 2]], [[3, 3]], [[4, 4, 4, 4, 4, 4, 4], []], [[6]]] ∧
          after.dispatch.sends.map Send.succeeds = [false, true, true, true] ∧
          after.dispatch.outbox.batch = some (Batch.withMaxSize 24) := by
  obtain ⟨outbox, created⟩ : ∃ outbox : Outbox Unit,
      create { batched := true, packageSize := 20, messagesPerPass := 7 } 24 =
        .ok (.ok outbox) := ⟨_, rfl⟩
  have attached : ((Passage.opened outbox).run mixedRun).dispatch.outbox.attached = true := by
    cases created
    decide
  have passes : ((Passage.opened outbox).run mixedRun).passes = [mixed] := by
    cases created
    decide
  have landed : ((Passage.opened outbox).run mixedRun).dispatch.outbox.flight = none := by
    cases created
    decide
  have ends : ((Passage.opened outbox).run mixedRun).dispatch.sends.map Send.succeeds =
      [false, true, true, true] := by
    cases created
    decide
  have split : frames 20 (Batch.withMaxSize 24) mixed =
      [[[1], [2, 2, 2]], [[3, 3]], [[4, 4, 4, 4, 4, 4, 4], []], [[6]]] := by decide
  have small : 20 + Frame.lengthLength < Bytes.wordValues := by decide
  obtain ⟨packed, sent, _, _, emptied, _, _⟩ :=
    passes_packed created rfl attached fun _ _ _ => small
  rw [passes] at packed sent
  have whole := packed mixed List.mem_cons_self
  rw [split] at whole
  simp only [ahead, landed, Option.elim, List.append_nil, List.flatMap_cons, List.flatMap_nil,
    split] at sent
  exact ⟨outbox, created, attached, passes, small, whole, sent, ends, emptied landed⟩

end Outbox

end ReliableTransport
