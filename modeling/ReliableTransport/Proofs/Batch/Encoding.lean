import ReliableTransport.Batch
import ReliableTransport.Proofs.Frame
/-!
This module shows that writing a batch and reading a frame undo each other. A batch that knows its
size is written as the layout of its messages, and reading accepts exactly these layouts.
-/

namespace ReliableTransport

namespace Batch

/-- The batch knows the size of the frame of its messages. -/
def Measured (batch : Batch) : Prop := batch.size = Frame.sizeOf batch.messages

theorem headerLength_le_size {batch : Batch} (measured : batch.Measured) :
    Frame.headerLength ≤ batch.size := by
  rw [measured, Frame.sizeOf]
  omega

theorem bodyParts_of_small {messages : List Bytes}
    (small : ∀ message ∈ messages, message.length < Bytes.wordValues) :
    bodyParts messages =
      .ok (messages.flatMap fun message => [Bytes.ofWord message.length, message]) := by
  have lengths : (messages.mapM fun message => Word.narrow message.length) =
      .ok (messages.map List.length) := by
    induction messages with
    | nil => rfl
    | cons message rest ih =>
        have tail := ih fun other member => small other (List.mem_cons_of_mem _ member)
        have first : Word.narrow message.length = .ok message.length :=
          if_pos (small message List.mem_cons_self)
        simp only [List.mapM_cons, first, tail]
        rfl
  simp only [bodyParts, lengths, bind, Except.bind, pure, Except.pure, Except.ok.injEq]
  clear small lengths
  induction messages with
  | nil => rfl
  | cons message rest ih => simpa using ih

/-- The header is one part, and every message has two. -/
theorem toParts_of_fits {batch : Batch} (small : batch.size < Bytes.wordValues)
    (fits : Frame.Fits batch.messages) :
    batch.toParts =
      .ok ((Bytes.ofWord batch.size ++ Bytes.ofWord batch.count) ::
        batch.messages.flatMap fun message => [Bytes.ofWord message.length, message]) := by
  have sizeField : Word.narrow batch.size = .ok batch.size := if_pos small
  have countField : Word.narrow batch.count = .ok batch.count := if_pos fits.2.1
  simp only [toParts, sizeField, countField, bodyParts_of_small fits.2.2, bind, Except.bind, pure,
    Except.pure]

/-- The parts of a batch are the pieces of its frame. -/
theorem toParts_of_measured {batch : Batch} (measured : batch.Measured)
    (small : batch.size < Bytes.wordValues) :
    ∃ parts, batch.toParts = .ok parts ∧ parts.flatten = Frame.layout batch.messages := by
  have fits := Frame.fits_of_sizeOf (measured ▸ small)
  refine ⟨_, toParts_of_fits small fits, ?_⟩
  rw [List.flatten_cons, measured, count, Frame.layout]
  congr 1
  induction batch.messages with
  | nil => rfl
  | cons message rest ih => simp [ih]

/-- A batch whose size field would overflow has no parts. -/
theorem toParts_of_tooWide {batch : Batch} (wide : Bytes.wordValues ≤ batch.size) :
    batch.toParts = .error (.tooWide batch.size) := by
  have sizeField : Word.narrow batch.size = .error (.tooWide batch.size) := if_neg (by omega)
  simp only [toParts, sizeField, bind, Except.bind]

/-- A batch can be written exactly if its size fits the size field. -/
theorem toParts_ok_iff {batch : Batch} (measured : batch.Measured) :
    (∃ parts, batch.toParts = .ok parts) ↔ batch.size ≤ Bytes.maxWord := by
  simp only [Bytes.maxWord]
  rcases Nat.lt_or_ge batch.size Bytes.wordValues with small | wide
  · obtain ⟨parts, written, _⟩ := toParts_of_measured measured small
    exact iff_of_true ⟨parts, written⟩ (by omega)
  · refine iff_of_false ?_ (by simp only [Bytes.wordValues] at wide ⊢; omega)
    rintro ⟨parts, written⟩
    rw [toParts_of_tooWide wide] at written
    cases written

theorem toBytes_of_measured {batch : Batch} (measured : batch.Measured)
    (small : batch.size < Bytes.wordValues) :
    batch.toBytes = .ok (Frame.layout batch.messages) := by
  obtain ⟨parts, written, joined⟩ := toParts_of_measured measured small
  simp only [toBytes, written, bind, Except.bind, pure, Except.pure, joined]

/-- A batch that was read holds the messages of the frame, and may grow as far as a frame can. -/
theorem ofBytes_ok_iff (data : Bytes) (batch : Batch) :
    ofBytes data = .ok batch ↔
      Frame.Fits batch.messages ∧ data = Frame.layout batch.messages ∧ batch.size = data.length ∧
        batch.maxSize = Bytes.maxWord := by
  constructor
  · intro read
    simp only [ofBytes, bind, Except.bind] at read
    split at read
    · cases read
    next messages found =>
      cases read
      obtain ⟨fits, layout⟩ := Frame.scan_exact found
      exact ⟨fits, layout, rfl, rfl⟩
  · rintro ⟨fits, layout, size, maxSize⟩
    obtain ⟨messages, _, _⟩ := batch
    simp only at fits layout size maxSize
    subst size maxSize
    simp only [ofBytes, layout, Frame.scan_layout fits, bind, Except.bind, pure, Except.pure]

/-- The frame of messages is read back. -/
theorem ofBytes_layout {messages : List Bytes} (fits : Frame.Fits messages) :
    ofBytes (Frame.layout messages) =
      .ok { messages, size := (Frame.layout messages).length, maxSize := Bytes.maxWord } :=
  (ofBytes_ok_iff _ _).mpr ⟨fits, rfl, rfl, rfl⟩

/-- Data that cannot be read is malformed. -/
theorem ofBytes_stop {data : Bytes} {stop : Frame.Stop} (stopped : ofBytes data = .error stop) :
    ∃ fault, stop = .malformed fault := by
  simp only [ofBytes, bind, Except.bind] at stopped
  split at stopped
  next _ found =>
    cases stopped
    exact Frame.scan_stop found
  · cases stopped

theorem measured_of_ofBytes {data : Bytes} {batch : Batch} (read : ofBytes data = .ok batch) :
    batch.Measured := by
  obtain ⟨_, layout, size, _⟩ := (ofBytes_ok_iff data batch).mp read
  rw [Measured, size, layout, Frame.layout_length]

/-- Two lists of messages never have the same frame. -/
theorem layout_injective {left right : List Bytes} (leftFits : Frame.Fits left)
    (rightFits : Frame.Fits right) (same : Frame.layout left = Frame.layout right) :
    left = right := by
  have read := Frame.scan_layout leftFits
  rw [same, Frame.scan_layout rightFits] at read
  exact (Except.ok.inj read).symm

/-- Reading succeeds exactly on the layouts of messages whose numbers fit. It finds these messages,
no other messages have the same layout, and writing them gives the data back. All other data is
refused as malformed. -/
theorem ofBytes_exact (data : Bytes) :
    ((∃ batch, ofBytes data = .ok batch) ↔
      ∃ messages, Frame.Fits messages ∧ data = Frame.layout messages) ∧
    (∀ batch, ofBytes data = .ok batch →
      (∀ messages, Frame.Fits messages ∧ data = Frame.layout messages ↔ batch.messages = messages) ∧
        batch.size = data.length ∧ batch.toBytes = .ok data) ∧
    ((∃ fault, ofBytes data = .error (.malformed fault)) ↔
      ¬ ∃ messages, Frame.Fits messages ∧ data = Frame.layout messages) := by
  have accepted : (∃ batch, ofBytes data = .ok batch) ↔
      ∃ messages, Frame.Fits messages ∧ data = Frame.layout messages := by
    constructor
    · rintro ⟨batch, read⟩
      obtain ⟨fits, layout, _⟩ := (ofBytes_ok_iff data batch).mp read
      exact ⟨batch.messages, fits, layout⟩
    · rintro ⟨messages, fits, layout⟩
      exact ⟨{ messages, size := data.length, maxSize := Bytes.maxWord },
        (ofBytes_ok_iff data _).mpr ⟨fits, layout, rfl, rfl⟩⟩
  refine ⟨accepted, ?_, ?_⟩
  · intro batch read
    obtain ⟨fits, layout, size, _⟩ := (ofBytes_ok_iff data batch).mp read
    have measured := measured_of_ofBytes read
    refine ⟨fun messages => ⟨?_, ?_⟩, size, ?_⟩
    · rintro ⟨otherFits, otherLayout⟩
      exact layout_injective fits otherFits (layout.symm.trans otherLayout)
    · rintro rfl
      exact ⟨fits, layout⟩
    · rw [toBytes_of_measured measured (measured ▸ fits.1), ← layout]
  · rw [← accepted]
    cases read : ofBytes data with
    | ok batch => simp
    | error stop =>
        obtain ⟨fault, rfl⟩ := ofBytes_stop read
        simp

end Batch

end ReliableTransport
