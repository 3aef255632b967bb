import ReliableTransport.Bytes
import ReliableTransport.Failure
/-!
This module holds the receiving ends of byte streams. What comes in is a list of chunks, and the
chunks have nothing to do with the datagrams. Each datagram is read as its length in four bytes,
followed by so many bytes. A stream may end between two datagrams and nowhere else.
-/

namespace ReliableTransport

namespace Inlet

/-- What a receive ends with. -/
inductive Reception where
  | datagram (data : Bytes)
  /-- The stream has ended where a datagram would begin. -/
  | closed
  | failed (failure : Failure)
  deriving Repr, DecidableEq

/-- The stream has ended inside a length. -/
def endsInLength : Failure :=
  .ioText .unexpectedEof "connection closed inside a datagram's length prefix"

/-- The stream has ended inside the bytes that a length announced. -/
def endsEarly : Failure := .ioText .unexpectedEof "early eof"

/-- A length that is more than the receiver takes. -/
def tooLong (length limit : Nat) : Failure :=
  .ioText .invalidData
    ("received a datagram of " ++ toString length ++
      " bytes, exceeding the configured maximum of " ++ toString limit)

/-- Reads a number of bytes, or fewer where the stream ends, and leaves the rest. -/
def fill : Nat → List Bytes → Bytes × List Bytes
  | 0, chunks => ([], chunks)
  | _ + 1, [] => ([], [])
  | count + 1, chunk :: rest =>
    if chunk.length ≤ count + 1 then
      let (more, left) := fill (count + 1 - chunk.length) rest
      (chunk ++ more, left)
    else (chunk.take (count + 1), chunk.drop (count + 1) :: rest)

/-- Receives the next datagram, which may have so many bytes at most. -/
def receive (limit : Nat) (chunks : List Bytes) : Reception × List Bytes :=
  let head := fill 4 chunks
  match Bytes.takeWord? head.1 with
  | none => (if head.1.isEmpty then .closed else .failed endsInLength, head.2)
  | some (length, _) =>
    if limit < length then (.failed (tooLong length limit), head.2)
    else
      let body := fill length head.2
      (if body.1.length = length then .datagram body.1 else .failed endsEarly, body.2)

/-- Reading neither loses nor adds a byte. -/
theorem fill_append (count : Nat) (chunks : List Bytes) :
    (fill count chunks).1 ++ (fill count chunks).2.flatten = chunks.flatten := by
  induction chunks generalizing count with
  | nil => cases count <;> simp [fill]
  | cons chunk rest ih =>
    cases count with
    | zero => simp [fill]
    | succ count =>
      simp only [fill]
      split
      · simp [ih]
      · simp [← List.append_assoc, List.take_append_drop]

/-- A datagram takes its length out of the stream at least. -/
theorem receive_shorter {limit : Nat} {chunks rest : List Bytes} {data : Bytes}
    (received : receive limit chunks = (.datagram data, rest)) :
    rest.flatten.length < chunks.flatten.length := by
  have kept := congrArg List.length (fill_append 4 chunks)
  simp only [List.length_append] at kept
  simp only [receive] at received
  split at received
  · split at received <;> simp at received
  · next length others read =>
    have present : 4 ≤ (fill 4 chunks).1.length := Nat.le_of_not_lt fun short => by
      simp [(Bytes.takeWord?_eq_none_iff _).mpr short] at read
    split at received
    · simp at received
    · have body := congrArg List.length (fill_append length (fill 4 chunks).2)
      rw [(Prod.mk.inj received).2, List.length_append] at body
      omega

/-- Receives until something other than a datagram comes, which is the last. -/
def receiveAll (limit : Nat) (chunks : List Bytes) : List Reception :=
  match _outcome : receive limit chunks with
  | (.datagram data, rest) => .datagram data :: receiveAll limit rest
  | (other, _) => [other]
termination_by chunks.flatten.length
decreasing_by exact receive_shorter _outcome

end Inlet

end ReliableTransport
