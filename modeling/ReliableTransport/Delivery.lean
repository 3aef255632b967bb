import ReliableTransport.Bytes
/-!
This module holds what is handed to a transport: one message, in one piece or in parts.
-/

namespace ReliableTransport

inductive Delivery where
  | whole (data : Bytes)
  | parts (pieces : List Bytes)
  deriving Repr, DecidableEq

namespace Delivery

/-- The message itself. -/
def data : Delivery → Bytes
  | whole data => data
  | parts pieces => pieces.flatten

def length (delivery : Delivery) : Nat := delivery.data.length

/-- What a transport is given that sends parts only if it gathers them itself. Any other transport
is given their copy in one piece. -/
def toTransport (delivery : Delivery) (gathers : Bool) : Delivery :=
  if gathers then delivery else .whole delivery.data

end Delivery

end ReliableTransport
