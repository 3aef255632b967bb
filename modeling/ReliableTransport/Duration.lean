import ReliableTransport.Defect
/-!
This module holds time spans and their text. The text uses the largest unit that the span reaches
and no more digits than needed.
-/

namespace ReliableTransport

/-- A span of time is a number of nanoseconds. -/
structure Duration where
  nanos : Nat
  deriving Repr, DecidableEq

namespace Duration

def ofMillis (millis : Nat) : Duration := ⟨millis * 1000000⟩

/-- Nanoseconds beyond a second count as seconds. The seconds of a span are a 64-bit number. -/
def ofSeconds (seconds nanos : Nat) : Except Defect Duration :=
  if seconds + nanos / 1000000000 < 18446744073709551616 then
    .ok ⟨seconds * 1000000000 + nanos⟩
  else .error .spanTooLong

/-- The decimal digits of a fraction without the zeros at its end. The number of places is fixed. -/
def fractionDigits (places fraction : Nat) : List Char :=
  let digits := (toString fraction).toList
  let padded := List.replicate (places - digits.length) '0' ++ digits
  (padded.reverse.dropWhile (· == '0')).reverse

/-- A number of parts of a unit, where a unit has `10 ^ places` parts. -/
def inUnit (amount places : Nat) (unit : String) : String :=
  let parts := Nat.pow 10 places
  match fractionDigits places (amount % parts) with
  | [] => toString (amount / parts) ++ unit
  | digits => toString (amount / parts) ++ "." ++ String.ofList digits ++ unit

/-- The text of a span: seconds, milliseconds, microseconds or nanoseconds. -/
def text (span : Duration) : String :=
  if 1000000000 ≤ span.nanos then inUnit span.nanos 9 "s"
  else if 1000000 ≤ span.nanos then inUnit span.nanos 6 "ms"
  else if 1000 ≤ span.nanos then inUnit span.nanos 3 "µs"
  else inUnit span.nanos 0 "ns"

end Duration

end ReliableTransport
