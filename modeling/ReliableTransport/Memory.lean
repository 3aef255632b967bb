/-!
This module holds the bound on memory. A collection that reserves its room at once needs it in one
piece, and the size of a piece is a signed 64-bit number.
-/

namespace ReliableTransport.Memory

/-- The most bytes that one piece can have. -/
def maxPiece : Nat := 9223372036854775807

/-- Whether a piece can hold so many items of a size in bytes. -/
def hasRoom (count itemSize : Nat) : Bool := count * itemSize ≤ maxPiece

theorem hasRoom_iff (count itemSize : Nat) :
    hasRoom count itemSize ↔ count * itemSize ≤ maxPiece := by
  simp [hasRoom]

end ReliableTransport.Memory
