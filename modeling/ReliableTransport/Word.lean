import ReliableTransport.Bytes
import ReliableTransport.Defect
/-!
This module holds the conversions between lengths in memory, which are 64-bit numbers, and the
32-bit numbers of the wire formats.
-/

namespace ReliableTransport

namespace Word

/-- A 32-bit number keeps its value as a 64-bit number. -/
def widen (value : UInt32) : UInt64 := value.toUInt64

/-- A length that was checked before fits into 32 bits. Any other length is a defect. -/
def narrow (value : Nat) : Except Defect Nat :=
  if value < Bytes.wordValues then .ok value else .error (.tooWide value)

/-- The sum of two 64-bit numbers, if it is a 64-bit number too. -/
def sum? (left right : UInt64) : Option UInt64 :=
  let total := left + right
  if total < left then none else some total

/-- The part of a buffer from an offset on, if the buffer reaches that far. -/
def range? (data : Bytes) (offset length : UInt64) : Option Bytes :=
  match sum? offset length with
  | none => none
  | some last =>
    if data.length < last.toNat then none
    else some ((data.drop offset.toNat).take length.toNat)

end Word

end ReliableTransport
