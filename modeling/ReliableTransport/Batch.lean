import ReliableTransport.Frame
import ReliableTransport.Word
/-!
This module holds batches: messages that are collected to go over the wire as one frame.
A batch keeps the size of its frame and refuses a message that would make the frame too big.
-/

namespace ReliableTransport

structure Batch where
  messages : List Bytes
  /-- The size of the frame of the messages. -/
  size : Nat
  /-- The size that the frame may reach. -/
  maxSize : Nat
  deriving Repr, DecidableEq

namespace Batch

/-- An empty batch whose frame may reach a size. No frame is bigger than its size field says. -/
def withMaxSize (maxSize : Nat) : Batch where
  messages := []
  size := Frame.headerLength
  maxSize := min maxSize Bytes.maxWord

/-- An empty batch that is bounded by the frame format alone. -/
def empty : Batch := withMaxSize Bytes.maxWord

def count (batch : Batch) : Nat := batch.messages.length

def isEmpty (batch : Batch) : Bool := batch.messages.isEmpty

/-- The longest message that an empty batch of this kind takes. -/
def maxMessageLength (batch : Batch) : Nat :=
  batch.maxSize - (Frame.headerLength + Frame.lengthLength)

/-- A message fits if the frame stays within the size that it may reach. -/
def fits (batch : Batch) (message : Bytes) : Bool :=
  message.length ≤ batch.maxSize - (batch.size + Frame.lengthLength)

/-- Puts a message behind the others. A message that does not fit is refused. -/
def add? (batch : Batch) (message : Bytes) : Option Batch :=
  if batch.fits message then
    some { batch with
      messages := batch.messages ++ [message]
      size := batch.size + (Frame.lengthLength + message.length) }
  else none

def clear (batch : Batch) : Batch :=
  { batch with messages := [], size := Frame.headerLength }

/-- The length and the bytes of each message as parts of their own. -/
def bodyParts (messages : List Bytes) : Except Defect (List Bytes) := do
  let lengths ← messages.mapM fun message => Word.narrow message.length
  pure ((lengths.zip messages).flatMap fun entry => [Bytes.ofWord entry.1, entry.2])

/-- The frame as parts that are written one behind the other. -/
def toParts (batch : Batch) : Except Defect (List Bytes) := do
  let size ← Word.narrow batch.size
  let count ← Word.narrow batch.count
  let parts ← bodyParts batch.messages
  pure ((Bytes.ofWord size ++ Bytes.ofWord count) :: parts)

/-- The frame in one piece. -/
def toBytes (batch : Batch) : Except Defect Bytes := do
  let parts ← batch.toParts
  pure parts.flatten

/-- Reads a frame. The batch may then grow as far as the frame format allows. -/
def ofBytes (data : Bytes) : Except Frame.Stop Batch := do
  let messages ← Frame.scan data
  pure { messages, size := data.length, maxSize := Bytes.maxWord }

end Batch

end ReliableTransport
