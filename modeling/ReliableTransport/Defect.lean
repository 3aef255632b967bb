/-!
This module holds the defects: calls that break a promise of the caller. A defect is no failure
that an operation reports. It ends the task that runs into it.
-/

namespace ReliableTransport

inductive Defect where
  /-- A number that had to fit into 32 bits does not. -/
  | tooWide (value : Nat)
  /-- A queue was created without room for an element. -/
  | noRoom
  /-- A mailbox was created whose passes hold no item. -/
  | emptyPasses
  /-- A collection was created that needs more room than memory has. -/
  | noMemory
  /-- A span was made of more seconds than it can have. -/
  | spanTooLong
  /-- A connection end was used that does not exist. -/
  | missingEnd
  /-- A read left the data that it reads. -/
  | outsideData
  deriving Repr, DecidableEq

namespace Defect

def message : Defect → String
  | tooWide value => "this is a bug: " ++ toString value ++ " should have been checked to fit a u32"
  | noRoom => "a blocking queue needs room for at least one element"
  | emptyPasses => "assertion failed: max_pass_len > 0"
  | noMemory => "capacity overflow"
  | spanTooLong => "overflow in Duration::new"
  | missingEnd => "called `Option::unwrap()` on a `None` value"
  | outsideData => "range outside the data"

end Defect

end ReliableTransport
