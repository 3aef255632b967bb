import ReliableTransport.Failure
/-!
This module holds scripts: lists of outcomes that a scripted outside hands out one by one.
-/

namespace ReliableTransport

/-- How a scripted operation ends. -/
inductive Verdict where
  | success
  /-- Success with a returned length. -/
  | returns (length : Nat)
  | fails (failure : Failure)
  deriving Repr, DecidableEq

/-- A scripted end and how long it takes, in milliseconds. -/
structure Outcome where
  verdict : Verdict := .success
  delay : Nat := 0
  deriving Repr, DecidableEq

namespace Verdict

/-- The answer of an operation that returns a length. Mere success returns the one that it was
given. -/
def length (verdict : Verdict) (given : Nat) : Except Failure Nat :=
  match verdict with
  | success => .ok given
  | returns length => .ok length
  | fails failure => .error failure

/-- The answer of an operation that returns nothing. -/
def unit : Verdict → Except Failure Unit
  | success | returns _ => .ok ()
  | fails failure => .error failure

end Verdict

abbrev Script := List Outcome

namespace Script

/-- The next outcome. A script that is used up goes on with a given one. -/
def next (script : Script) (default : Outcome) : Outcome × Script :=
  match script with
  | [] => (default, [])
  | outcome :: rest => (outcome, rest)

end Script

end ReliableTransport
