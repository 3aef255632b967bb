import Mathlib.Tactic.ByContra
import ReliableTransport.Outbox
import ReliableTransport.Proofs.Batch.Runs
/-!
This module says how an outbox collects messages into a batch, up to the point where the batch goes
or the messages run out. Every message that an empty batch takes ends up in a batch, and every other
one is told to the handlers.
-/

namespace ReliableTransport

namespace Batch

/-- Whether an empty batch of this kind takes a message. -/
def admits (batch : Batch) (message : Bytes) : Bool := message.length ≤ batch.maxMessageLength

theorem admits_iff (batch : Batch) (message : Bytes) :
    batch.admits message ↔
      message.length ≤ batch.maxSize - (Frame.headerLength + Frame.lengthLength) :=
  decide_eq_true_iff

theorem admits_congr {left right : Batch} (same : left.maxSize = right.maxSize) :
    left.admits = right.admits := by
  funext message
  rw [Bool.eq_iff_iff, admits_iff, admits_iff, same]

/-- What a batch takes, an empty batch takes too. -/
theorem admits_of_fits {batch : Batch} (measured : batch.Measured) {message : Bytes}
    (fits : batch.fits message) : batch.admits message := by
  have header := headerLength_le_size measured
  rw [admits_iff]
  simp only [Batch.fits, decide_eq_true_eq] at fits
  omega

/-- A batch that messages are collected into. It can be written, and it has not reached the package
size unless it is empty. -/
structure Growing (packageSize : Nat) (batch : Batch) : Prop where
  measured : batch.Measured
  bounded : batch.maxSize ≤ Bytes.maxWord
  writable : batch.size ≤ Bytes.maxWord
  below : batch.messages = [] ∨ batch.size < packageSize

theorem Growing.clear {packageSize : Nat} {batch : Batch}
    (bounded : batch.maxSize ≤ Bytes.maxWord) :
    batch.clear.Growing packageSize :=
  ⟨rfl, bounded, show Frame.headerLength ≤ Bytes.maxWord by decide, Or.inl rfl⟩

/-- A batch can still be written after it took a message. Only empty messages are not bounded by the
batch itself, so the package size has to leave room for one. -/
theorem Growing.writable_add {packageSize : Nat} {batch grown : Batch} {message : Bytes}
    (growing : batch.Growing packageSize)
    (room : message = [] → packageSize + Frame.lengthLength < Bytes.wordValues)
    (added : batch.add? message = some grown) : grown.size ≤ Bytes.maxWord := by
  obtain ⟨measured, bounded, _, below⟩ := growing
  obtain ⟨taken, rfl⟩ := (add?_eq_some_iff batch grown message).mp added
  rcases taken with within | rfl
  · simp only
    omega
  · have spare := room rfl
    simp only [Bytes.wordValues, Bytes.maxWord, Frame.lengthLength, List.length_nil] at spare ⊢
    rcases below with empty | small
    · rw [measured, empty]
      decide
    · omega

end Batch

namespace Outbox

open Mailbox (Role)

variable {Handler Result : Type}

theorem isCrowded_eq (batch : Batch) (message : Bytes) :
    isCrowded batch message = (batch.admits message && !batch.fits message) := rfl

/-- A batch that is not crowded has room for every message that an empty batch takes. -/
theorem fits_iff_admits {batch : Batch} (measured : batch.Measured) {message : Bytes}
    (roomy : isCrowded batch message = false) : batch.fits message = batch.admits message := by
  cases fits : batch.fits message with
  | true => exact (Batch.admits_of_fits measured fits).symm
  | false =>
      rw [isCrowded_eq, fits] at roomy
      simpa using roomy.symm

/-- A crowded batch has a message. -/
theorem messages_ne_nil_of_crowded {batch : Batch} (measured : batch.Measured) {message : Bytes}
    (crowded : isCrowded batch message = true) : batch.messages ≠ [] := by
  intro empty
  rw [Batch.Measured, empty, Frame.sizeOf, Frame.bodySize] at measured
  rw [isCrowded_eq, Bool.and_eq_true, Batch.admits_iff] at crowded
  simp only [Batch.fits, measured, Bool.not_eq_true', decide_eq_false_iff_not] at crowded
  omega

/-- What the handlers are told of the messages among these that no batch takes. -/
def refusals (outbox : Outbox Handler) (admits : Bytes → Bool) (messages : List Bytes) :
    List (Effect Role (Order Handler) Result) :=
  (messages.filter fun message => !admits message).flatMap fun message =>
    outbox.reports (.invalidOperation .oversizeMessage) [message]

@[simp] theorem refusals_nil (outbox : Outbox Handler) (admits : Bytes → Bool) :
    (outbox.refusals admits [] : List (Effect Role (Order Handler) Result)) = [] := rfl

theorem refusals_append (outbox : Outbox Handler) (admits : Bytes → Bool)
    (front back : List Bytes) :
    (outbox.refusals admits (front ++ back) : List (Effect Role (Order Handler) Result)) =
      outbox.refusals admits front ++ outbox.refusals admits back := by
  simp [refusals]

/-- How messages are handed to a transport: a single one as it is, and those of a batch in one
frame. -/
inductive Carries : Bool → Delivery → List Bytes → Prop where
  | alone (message : Bytes) : Carries false (.whole message) [message]
  | together {messages parts : List Bytes} (full : messages ≠ []) (fits : Frame.Fits messages)
      (joined : parts.flatten = Frame.layout messages) : Carries true (.parts parts) messages

/-- Nothing is handed to a transport without a message. -/
theorem Carries.nonempty {batched : Bool} {delivery : Delivery} {messages : List Bytes}
    (carries : Carries batched delivery messages) : messages ≠ [] := by
  cases carries with
  | alone message => exact List.cons_ne_nil message []
  | together full _ _ => exact full

/-- What a frame of a batch holds. -/
theorem Carries.frame {delivery : Delivery} {messages : List Bytes}
    (carries : Carries true delivery messages) :
    Frame.Fits messages ∧ delivery.data = Frame.layout messages := by
  cases carries with
  | together _ fits joined => exact ⟨fits, joined⟩

/-- How collecting goes on until a batch departs or the messages run out. -/
inductive Collects (outbox : Outbox Handler) :
    Batch → List Bytes → Progress Handler Result → Prop where
  | finishes {batch : Batch} (empty : batch.messages = []) :
      Collects outbox batch []
        { outbox := { outbox with batch := some batch }, effects := [], complete := true }
  | departs {batch : Batch} {flight : Flight} {rest : List Bytes} {delivery : Delivery}
      (behind : flight.rest = rest) (together : ∀ message rest, flight ≠ .single message rest)
      (measured : batch.Measured) (carries : Carries true delivery batch.messages) :
      Collects outbox batch rest
        { outbox := { outbox with batch := some batch, flight := some flight }
          effects := [.order .worker (.send delivery)]
          complete := false }
  | refuses {batch : Batch} {message : Bytes} {rest : List Bytes}
      {progress : Progress Handler Result}
      (refused : batch.admits message = false) (further : Collects outbox batch rest progress) :
      Collects outbox batch (message :: rest)
        (progress.after (outbox.reports (.invalidOperation .oversizeMessage) [message]))
  | takes {batch grown : Batch} {message : Bytes} {rest : List Bytes}
      {progress : Progress Handler Result} (admitted : batch.admits message = true)
      (taken : batch.add? message = some grown) (further : Collects outbox grown rest progress) :
      Collects outbox batch (message :: rest) progress

/-- A batch that a frame can hold departs. -/
theorem collects_flush {outbox : Outbox Handler} {batch : Batch} {flight : Flight}
    {rest : List Bytes} (behind : flight.rest = rest)
    (together : ∀ message rest, flight ≠ .single message rest) (measured : batch.Measured)
    (full : batch.messages ≠ []) (writable : batch.size ≤ Bytes.maxWord) :
    Collects outbox batch rest (outbox.flush batch flight : Progress Handler Result) := by
  have small : batch.size < Bytes.wordValues := by
    simp only [Bytes.maxWord, Bytes.wordValues] at writable ⊢
    omega
  have fits := Frame.fits_of_sizeOf (measured ▸ small)
  obtain ⟨parts, written, joined⟩ := Batch.toParts_of_measured measured small
  simp only [flush, written]
  exact .departs behind together measured (.together full fits joined)

/-- An outbox that has its transport collects. -/
theorem sendBatched_collects {outbox : Outbox Handler} (attached : outbox.attached = true)
    (messages : List Bytes) {batch : Batch} (growing : batch.Growing outbox.packageSize)
    (room : [] ∈ messages → outbox.packageSize + Frame.lengthLength < Bytes.wordValues) :
    Collects outbox batch messages
      (outbox.sendBatched batch messages : Progress Handler Result) := by
  induction messages generalizing batch with
  | nil =>
      by_cases empty : batch.messages = []
      · have finishes : Collects outbox batch []
            ({ outbox := { outbox with batch := some batch }, effects := [], complete := true } :
              Progress Handler Result) :=
          .finishes empty
        simpa [sendBatched, Batch.isEmpty, empty] using finishes
      · have flushed : Collects outbox batch []
            (outbox.flush batch .last : Progress Handler Result) :=
          collects_flush rfl (by simp) growing.measured empty growing.writable
        simpa [sendBatched, Batch.isEmpty, empty, attached] using flushed
  | cons message rest ih =>
      have roomRest (member : [] ∈ rest) := room (List.mem_cons_of_mem _ member)
      cases crowded : isCrowded batch message with
      | true =>
          have flushed : Collects outbox batch (message :: rest)
              (outbox.flush batch (.crowded message rest) : Progress Handler Result) :=
            collects_flush rfl (by simp) growing.measured
              (messages_ne_nil_of_crowded growing.measured crowded) growing.writable
          simpa [sendBatched, crowded, attached] using flushed
      | false =>
          have roomy := fits_iff_admits growing.measured crowded
          cases added : batch.add? message with
          | none =>
              have refused : batch.admits message = false := by
                rw [← roomy]
                simpa [Batch.add?] using added
              simpa [sendBatched, crowded, added] using
                Collects.refuses refused (ih growing roomRest)
          | some grown =>
              have admitted : batch.admits message = true := by
                rw [← roomy]
                by_contra refused
                simp [Batch.add?, refused] at added
              have measured := Batch.measured_add growing.measured added
              have writable :=
                growing.writable_add (fun empty => room (empty ▸ List.mem_cons_self)) added
              obtain ⟨_, same⟩ := (Batch.add?_eq_some_iff batch grown message).mp added
              refine .takes admitted added ?_
              by_cases below : grown.size < outbox.packageSize
              · have bounded : grown.maxSize ≤ Bytes.maxWord := same ▸ growing.bounded
                have further := ih ⟨measured, bounded, writable, Or.inr below⟩ roomRest
                simpa [sendBatched, crowded, added, below] using further
              · have flushed : Collects outbox grown rest
                    (outbox.flush grown (.full rest) : Progress Handler Result) :=
                  collects_flush rfl (by simp) measured (by simp [same]) writable
                simpa [sendBatched, crowded, added, below, attached] using flushed

/-- Nothing is left in the batch when the messages ran out: each of them was refused. -/
theorem Collects.all_refused {outbox : Outbox Handler} {batch : Batch} {messages : List Bytes}
    {progress : Progress Handler Result} (collects : Collects outbox batch messages progress)
    (complete : progress.complete = true) :
    batch.messages = [] ∧ (∀ message ∈ messages, batch.admits message = false) ∧
      progress.outbox = { outbox with batch := some batch } ∧
      progress.effects = outbox.refusals batch.admits messages := by
  induction collects with
  | finishes empty => exact ⟨empty, by simp, rfl, rfl⟩
  | departs => cases complete
  | refuses refused further ih =>
      obtain ⟨empty, others, reached, told⟩ := ih complete
      refine ⟨empty, by simpa [refused] using others, reached, ?_⟩
      simp [Progress.after, told, refusals, refused]
  | takes admitted taken further ih =>
      obtain ⟨_, same⟩ := (Batch.add?_eq_some_iff _ _ _).mp taken
      have empty := (ih complete).1
      simp [same] at empty

/-- A batch that departs holds the messages that are gone and were not refused. -/
theorem Collects.departed {outbox : Outbox Handler} {batch : Batch} {messages : List Bytes}
    {progress : Progress Handler Result} (collects : Collects outbox batch messages progress)
    (waits : progress.complete = false) :
    ∃ gone flight grown delivery, messages = gone ++ Flight.rest flight ∧
      (∀ message rest, flight ≠ .single message rest) ∧ grown.Measured ∧
      grown.maxSize = batch.maxSize ∧
      grown.messages = batch.messages ++ gone.filter batch.admits ∧
      Carries true delivery grown.messages ∧
      progress.outbox = { outbox with batch := some grown, flight := some flight } ∧
      progress.effects =
        outbox.refusals batch.admits gone ++ [.order .worker (.send delivery)] := by
  induction collects with
  | finishes => cases waits
  | @departs batch flight rest delivery behind together measured carries =>
      exact ⟨[], flight, batch, delivery, behind.symm, together, measured, rfl, by simp, carries,
        rfl, rfl⟩
  | @refuses batch message rest progress refused further ih =>
      obtain ⟨gone, flight, grown, delivery, split, together, measured, bound, content, carries,
        reached, told⟩ := ih waits
      refine ⟨message :: gone, flight, grown, delivery, by rw [split, List.cons_append], together,
        measured, bound, ?_, carries, reached, ?_⟩
      · rw [content, List.filter_cons_of_neg (by simp [refused])]
      · simp [Progress.after, told, refusals, refused]
  | @takes batch next message rest progress admitted taken further ih =>
      obtain ⟨gone, flight, grown, delivery, split, together, measured, bound, content, carries,
        reached, told⟩ := ih waits
      obtain ⟨_, same⟩ := (Batch.add?_eq_some_iff _ _ _).mp taken
      have nextBound : next.maxSize = batch.maxSize := by rw [same]
      have nextAdmits : next.admits = batch.admits := Batch.admits_congr nextBound
      refine ⟨message :: gone, flight, grown, delivery, by rw [split, List.cons_append], together,
        measured, bound.trans nextBound, ?_, carries, reached, ?_⟩
      · rw [content, nextAdmits, List.filter_cons_of_pos admitted, same]
        simp
      · rw [told, nextAdmits]
        simp [refusals, admitted]

end Outbox

end ReliableTransport
