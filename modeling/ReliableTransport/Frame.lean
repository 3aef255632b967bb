import ReliableTransport.Bytes
import ReliableTransport.Failure
/-!
This module holds the frame format: a header of two numbers, the size of the whole frame and the
count of its messages, and then each message behind its own length. It holds the layout that
writing produces and the scan that reads a frame.

The scan keeps the offset of its place in the frame beside the bytes that are left. Every access
is checked, and an access outside the data would be a stop of its own.
-/

namespace ReliableTransport

namespace Frame

/-- The two numbers in front of the messages. -/
def headerLength : Nat := 8

/-- The length in front of each message. -/
def lengthLength : Nat := 4

/-- The bytes that messages take in a frame. -/
def bodySize : List Bytes → Nat
  | [] => 0
  | message :: rest => lengthLength + message.length + bodySize rest

/-- The size of the frame of messages. -/
def sizeOf (messages : List Bytes) : Nat := headerLength + bodySize messages

/-- The messages, each behind its length. -/
def layoutBody (messages : List Bytes) : Bytes :=
  messages.flatMap fun message => Bytes.ofWord message.length ++ message

/-- The frame of messages. -/
def layout (messages : List Bytes) : Bytes :=
  Bytes.ofWord (sizeOf messages) ++ Bytes.ofWord messages.length ++ layoutBody messages

/-- Every number in the frame of the messages fits its four bytes. -/
def Fits (messages : List Bytes) : Prop :=
  sizeOf messages < Bytes.wordValues ∧ messages.length < Bytes.wordValues ∧
    ∀ message ∈ messages, message.length < Bytes.wordValues

instance (messages : List Bytes) : Decidable (Fits messages) := by
  unfold Fits
  infer_instance

/-- Why a scan stops before its end. -/
inductive Stop where
  | malformed (fault : FrameFault)
  /-- An access left the data. -/
  | outside
  deriving Repr, DecidableEq

/-- The place of a scan between two messages. -/
structure Cursor where
  /-- The offset of the next message's length in the frame. -/
  offset : Nat
  /-- The bytes of the frame that were not looked at yet. -/
  rest : Bytes
  /-- The messages behind the cursor, the first one first. -/
  messages : Array Bytes
  deriving Repr, DecidableEq

/-- Reads a number and moves past it. -/
def Cursor.word (cursor : Cursor) : Except Stop (Nat × Cursor) :=
  match Bytes.takeWord? cursor.rest with
  | none => .error .outside
  | some (value, rest) => .ok (value, { cursor with rest })

/-- Moves past bytes without reading them. -/
def Cursor.skip (cursor : Cursor) (length : Nat) : Except Stop Cursor :=
  if cursor.rest.reaches length then .ok { cursor with rest := cursor.rest.drop length }
  else .error .outside

/-- Takes the message in front of the cursor out of the data. -/
def Cursor.next (data : Array UInt8) (cursor : Cursor) : Except Stop Cursor := do
  if ¬ cursor.rest.reaches lengthLength then
    throw (.malformed (.endsInsideLength cursor.messages.size))
  let (length, cursor) ← cursor.word
  let offset := cursor.offset + lengthLength
  if ¬ cursor.rest.reaches length then
    throw (.malformed (.messageTooLong cursor.messages.size length cursor.rest.length))
  let cursor ← cursor.skip length
  match Bytes.range? data offset length with
  | none => throw .outside
  | some message =>
    pure { cursor with offset := offset + length, messages := cursor.messages.push message }

/-- Takes a number of messages out of the data. -/
def Cursor.run (data : Array UInt8) : Nat → Cursor → Except Stop Cursor
  | 0, cursor => .ok cursor
  | count + 1, cursor => do
    let cursor ← cursor.next data
    cursor.run data count

/-- What the header of a frame says. -/
structure Header where
  total : Nat
  count : Nat
  deriving Repr, DecidableEq

/-- Reads and checks the header. Every message needs its length at least, so the size of the
frame bounds the count. -/
def scanHeader (data : Bytes) : Except Stop (Header × Cursor) := do
  if data.length < headerLength then throw (.malformed (.shorterThanHeader data.length))
  let (total, cursor) ← Cursor.word { offset := headerLength, rest := data, messages := #[] }
  let (count, cursor) ← cursor.word
  if total ≠ data.length then throw (.malformed (.sizeMismatch total data.length))
  if (data.length - headerLength) / lengthLength < count then
    throw (.malformed (.tooManyMessages data.length count))
  pure ({ total, count }, cursor)

/-- Reads a frame from its first byte to its last one. -/
def scan (data : Bytes) : Except Stop (List Bytes) := do
  let (header, cursor) ← scanHeader data
  let cursor ← cursor.run data.toArray header.count
  if ¬ cursor.rest.isEmpty then throw (.malformed (.trailingBytes cursor.rest.length))
  pure cursor.messages.toList

end Frame

end ReliableTransport
