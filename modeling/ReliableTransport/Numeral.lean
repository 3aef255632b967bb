/-!
This module holds numbers that are written with the digits of a base, the highest digit first. Zeros
in front of a number do not count.
-/

namespace ReliableTransport.Numeral

/-- The digit of a value. Sixteen values have one. -/
def digit (value : Nat) : Char := Nat.digitChar value

/-- The value of a digit. Letters stand for the values from ten to fifteen, in either case. -/
def value? (digit : Char) : Option Nat :=
  if '0' ≤ digit ∧ digit ≤ '9' then some (digit.toNat - '0'.toNat)
  else if 'a' ≤ digit ∧ digit ≤ 'f' then some (digit.toNat - 'a'.toNat + 10)
  else if 'A' ≤ digit ∧ digit ≤ 'F' then some (digit.toNat - 'A'.toNat + 10)
  else none

/-- The number that digits of a base write behind the number that was read so far. -/
def readBehind? (base number : Nat) : List Char → Option Nat
  | [] => some number
  | digit :: rest =>
    match value? digit with
    | none => none
    | some value =>
      if value < base then readBehind? base (base * number + value) rest else none

/-- The number that digits of a base write. One digit is needed at least. -/
def read? (base : Nat) (digits : List Char) : Option Nat :=
  if digits.isEmpty then none else readBehind? base 0 digits

/-- The number that decimal digits write, if it is below a bound. -/
def decimalBelow? (bound : Nat) (digits : List Char) : Option Nat :=
  (read? 10 digits).filter (· < bound)

/-- The decimal digits of a number. -/
def decimal (number : Nat) : String := String.ofList (Nat.toDigits 10 number)

/-- The hexadecimal digits of a number, in lower case. -/
def hexadecimal (number : Nat) : String := String.ofList (Nat.toDigits 16 number)

/-- Every value below sixteen is read back from its digit. -/
theorem value?_digit {value : Nat} (small : value < 16) : value? (digit value) = some value := by
  have each : ∀ other ∈ List.range 16, value? (digit other) = some other := by decide
  exact each value (List.mem_range.mpr small)

end ReliableTransport.Numeral
