import ReliableTransport.Batch
/-!
This module runs one batch through a list of steps and reports each step's answer together with
the batch that the step leaves behind.
-/

namespace ReliableTransport.Rehearsal.Batches

inductive Step where
  | add (message : Bytes)
  | fits (message : Bytes)
  | clear
  | toParts
  | toBytes
  | messages
  /-- Takes the messages out. A new batch takes the place of the old one. -/
  | takeMessages
  /-- Reads a frame. The batch that it holds takes the place of the old one. -/
  | parse (data : Bytes)
  /-- Writes the batch, reads it again and compares. -/
  | roundTrip
  /-- Copies the batch to the slot. -/
  | save
  /-- Copies the slot to the batch. -/
  | restore
  | equalsSaved

inductive Answer where
  | nothing
  | accepted
  | refused (message : Bytes)
  | flag (value : Bool)
  | pieces (parts : List Bytes)
  | whole (data : Bytes)
  | compared (same sameMessages : Bool) (size : Nat)
  | failed (failure : Failure)

structure Report where
  answer : Answer
  batch : Batch

/-- A stop that lies in the data is a failure. Any other stop is a defect. -/
def settle (stop : Frame.Stop) : Except Defect Failure :=
  match stop with
  | .malformed fault => .ok (.malformedFrame fault)
  | .outside => .error .outsideData

def compare (batch : Batch) (read : Except Frame.Stop Batch) : Except Defect Answer :=
  match read with
  | .error stop => (settle stop).map .failed
  | .ok other =>
    .ok (.compared (other == batch) (other.messages == batch.messages) other.size)

/-- Performs one step on a batch and a slot. -/
def perform (step : Step) (batch slot : Batch) : Except Defect (Answer × Batch × Batch) := do
  match step with
  | .add message =>
    match batch.add? message with
    | some grown => pure (.accepted, grown, slot)
    | none => pure (.refused message, batch, slot)
  | .fits message => pure (.flag (batch.fits message), batch, slot)
  | .clear => pure (.nothing, batch.clear, slot)
  | .toParts =>
    let parts ← batch.toParts
    pure (.pieces parts, batch, slot)
  | .toBytes =>
    let data ← batch.toBytes
    pure (.whole data, batch, slot)
  | .messages => pure (.pieces batch.messages, batch, slot)
  | .takeMessages => pure (.pieces batch.messages, Batch.empty, slot)
  | .parse data =>
    match Batch.ofBytes data with
    | .ok read => pure (.accepted, read, slot)
    | .error stop =>
      let failure ← settle stop
      pure (.failed failure, batch, slot)
  | .roundTrip =>
    let data ← batch.toBytes
    let answer ← compare batch (Batch.ofBytes data)
    pure (answer, batch, slot)
  | .save => pure (.nothing, batch, batch)
  | .restore => pure (.nothing, slot, slot)
  | .equalsSaved => pure (.flag (batch == slot), batch, slot)

/-- Performs the steps one after the other. A defect ends the rehearsal. -/
def perform? : List Step → Batch → Batch → Except Defect (List Report)
  | [], _, _ => .ok []
  | step :: rest, batch, slot => do
    let (answer, batch, slot) ← perform step batch slot
    let reports ← perform? rest batch slot
    pure ({ answer, batch } :: reports)

/-- Runs the steps on a new batch. The slot holds the new batch too. -/
def run (maxSize : Option Nat) (steps : List Step) : Except Defect (List Report) :=
  let batch := maxSize.elim Batch.empty Batch.withMaxSize
  perform? steps batch batch

end ReliableTransport.Rehearsal.Batches
