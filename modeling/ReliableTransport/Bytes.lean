/-!
This module holds byte strings and the numbers that the wire formats write into them.
A number takes four bytes, the lowest first.
-/

namespace ReliableTransport

/-- A byte string is a list, so its laws are the laws of lists. -/
abbrev Bytes := List UInt8

namespace Bytes

/-- The bytes that a queue needs for a byte string, however long the string is. -/
def slotSize : Nat := 32

/-- The number of values that four bytes can hold. -/
def wordValues : Nat := 4294967296

/-- The largest number that four bytes can hold. -/
def maxWord : Nat := wordValues - 1

/-- The four bytes of a number, the lowest first. Higher bits are dropped. -/
def ofWord (value : Nat) : Bytes :=
  [UInt8.ofNat value, UInt8.ofNat (value / 256), UInt8.ofNat (value / 65536),
    UInt8.ofNat (value / 16777216)]

/-- The number that four bytes write. -/
def toWord (first second third fourth : UInt8) : Nat :=
  first.toNat + 256 * second.toNat + 65536 * third.toNat + 16777216 * fourth.toNat

/-- The number at the front and the bytes behind it. There is none in fewer than four bytes. -/
def takeWord? : Bytes → Option (Nat × Bytes)
  | first :: second :: third :: fourth :: rest => some (toWord first second third fourth, rest)
  | _ => none

/-- Whether there are at least so many bytes. This looks at no more of them than it has to. -/
def reaches : Bytes → Nat → Bool
  | _, 0 => true
  | [], _ + 1 => false
  | _ :: rest, count + 1 => reaches rest count

/-- The bytes of the range that starts at an offset. A range that leaves the data has none. -/
def range? (data : Array UInt8) (offset length : Nat) : Option Bytes :=
  if offset + length ≤ data.size then some (data.extract offset (offset + length)).toList
  else none

@[simp] theorem ofWord_length (value : Nat) : (ofWord value).length = 4 := rfl

theorem reaches_iff (data : Bytes) (count : Nat) :
    reaches data count ↔ count ≤ data.length := by
  induction data generalizing count with
  | nil => cases count <;> simp [reaches]
  | cons _ rest ih => cases count <;> simp [reaches, ih]

theorem range?_toArray (data : Bytes) (offset length : Nat) :
    range? data.toArray offset length =
      if offset + length ≤ data.length then some ((data.drop offset).take length) else none := by
  simp [range?, List.extract_eq_take_drop]

theorem takeWord?_eq_none_iff (data : Bytes) : takeWord? data = none ↔ data.length < 4 := by
  match data with
  | [] | [_] | [_, _] | [_, _, _] => simp [takeWord?]
  | _ :: _ :: _ :: _ :: rest => simp [takeWord?]

theorem toWord_lt (first second third fourth : UInt8) :
    toWord first second third fourth < wordValues := by
  have := first.toNat_lt
  have := second.toNat_lt
  have := third.toNat_lt
  have := fourth.toNat_lt
  simp only [toWord, wordValues]
  omega

/-- A number that fits is read back, and the bytes behind it are left over. -/
theorem takeWord?_ofWord (value : Nat) (fits : value < wordValues) (rest : Bytes) :
    takeWord? (ofWord value ++ rest) = some (value, rest) := by
  simp only [wordValues] at fits
  simp only [ofWord, List.cons_append, List.nil_append, takeWord?, toWord, UInt8.toNat_ofNat']
  congr 2
  omega

/-- What is read at the front is exactly what writing puts there. -/
theorem eq_of_takeWord? {data rest : Bytes} {value : Nat}
    (read : takeWord? data = some (value, rest)) : data = ofWord value ++ rest := by
  match data, read with
  | first :: second :: third :: fourth :: others, read =>
    simp only [takeWord?, Option.some.injEq, Prod.mk.injEq] at read
    obtain ⟨rfl, rfl⟩ := read
    have h1 := first.toNat_lt
    have h2 := second.toNat_lt
    have h3 := third.toNat_lt
    have h4 := fourth.toNat_lt
    simp only [ofWord, List.cons_append, List.nil_append, List.cons.injEq, and_true, toWord]
    refine ⟨?_, ?_, ?_, ?_⟩ <;> apply UInt8.toNat_inj.mp <;> rw [UInt8.toNat_ofNat'] <;> omega

/-- What is read is never more than four bytes can hold. -/
theorem takeWord?_lt {data rest : Bytes} {value : Nat}
    (read : takeWord? data = some (value, rest)) : value < wordValues := by
  match data, read with
  | first :: second :: third :: fourth :: _, read =>
    simp only [takeWord?, Option.some.injEq, Prod.mk.injEq] at read
    rw [← read.1]
    exact toWord_lt first second third fourth

end Bytes

end ReliableTransport
