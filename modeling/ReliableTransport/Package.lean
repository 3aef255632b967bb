import ReliableTransport.Address
import ReliableTransport.Bytes
/-!
This module holds what receivers pass on: bytes and the address that they came from.
-/

namespace ReliableTransport

/-- What was received, and from where. -/
structure Package where
  remote : Address
  data : Bytes
  deriving Repr, DecidableEq

/-- The bytes that a queue needs for a package: those for its data and as many for its address. -/
def Package.slotSize : Nat := Bytes.slotSize + 32

end ReliableTransport
