import ReliableTransport.Numeral
/-!
This module holds the addresses of endpoints and their text. An address has one written form.
Reading also understands other spellings of it: zeros in front of a number, capital letters in
hexadecimal digits, zero groups that are written out or left out elsewhere, and a dotted end.
-/

namespace ReliableTransport

/-- What an endpoint is known by in the network. -/
inductive Host where
  /-- Four bytes, written in decimal digits between dots. -/
  | dotted (first second third fourth : UInt8)
  /-- Eight groups, written in hexadecimal digits between colons. Scope zero is none. -/
  | grouped (groups : Vector UInt16 8) (scope : UInt32)
  deriving Repr, DecidableEq

structure Address where
  host : Host
  port : UInt16
  deriving Repr, DecidableEq

namespace Host

/-! Writing -/

def dottedText (bytes : List UInt8) : String :=
  ".".intercalate (bytes.map fun byte => Numeral.decimal byte.toNat)

def groupsText (groups : List UInt16) : String :=
  ":".intercalate (groups.map fun group => Numeral.hexadecimal group.toNat)

/-- The two bytes of a group. -/
def groupBytes (group : UInt16) : List UInt8 :=
  [UInt8.ofNat (group.toNat / 256), UInt8.ofNat group.toNat]

/-- How many groups at the front are zero. -/
def zerosAhead (groups : List UInt16) : Nat := (groups.takeWhile (· == 0)).length

/-- The place and the length of the longest run of zero groups. Of equally long runs it is the
first one. -/
def longestGap (groups : List UInt16) : Nat × Nat :=
  (List.range groups.length).foldl (fun longest place =>
    let length := zerosAhead (groups.drop place)
    if longest.2 < length then (place, length) else longest) (0, 0)

/-- The text of eight groups. Two colons stand for the longest run of zero groups if it has two of
them. The groups of an embedded dotted host show that host. -/
def eightText (groups : List UInt16) : String :=
  match groups with
  | [0, 0, 0, 0, 0, 0xffff, high, low] =>
    "::ffff:" ++ dottedText (groupBytes high ++ groupBytes low)
  | _ =>
    let (place, length) := longestGap groups
    if length < 2 then groupsText groups
    else groupsText (groups.take place) ++ "::" ++ groupsText (groups.drop (place + length))

def text : Host → String
  | dotted first second third fourth => dottedText [first, second, third, fourth]
  | grouped groups scope =>
    let scopeText := if scope = 0 then "" else "%" ++ Numeral.decimal scope.toNat
    "[" ++ eightText groups.toList ++ scopeText ++ "]"

/-! Reading -/

/-- The pieces of a text between marks. -/
def pieces (mark : Char) : List Char → List (List Char)
  | [] => [[]]
  | sign :: rest =>
    if sign = mark then [] :: pieces mark rest
    else
      match pieces mark rest with
      | [] => [[sign]]
      | piece :: others => (sign :: piece) :: others

/-- A byte is written without a zero in front. -/
def readByte? (digits : List Char) : Option UInt8 :=
  if digits.head? = some '0' ∧ digits ≠ ['0'] then none
  else (Numeral.decimalBelow? 256 digits).map UInt8.ofNat

def readDotted? (text : List Char) : Option (List UInt8) :=
  ((pieces '.' text).mapM readByte?).filter (·.length = 4)

/-- A group has four digits at most. -/
def readGroup? (digits : List Char) : Option UInt16 :=
  if 4 < digits.length then none else (Numeral.read? 16 digits).map UInt16.ofNat

/-- A dotted end stands for two groups. -/
def readEnd? (text : List Char) : Option (List UInt16) :=
  if '.' ∈ text then
    (readDotted? text).map fun bytes =>
      match bytes with
      | [first, second, third, fourth] =>
        [first.toUInt16 * 256 + second.toUInt16, third.toUInt16 * 256 + fourth.toUInt16]
      | _ => []
  else (readGroup? text).map ([·])

def readPieces? : List (List Char) → Option (List UInt16)
  | [] => some []
  | [last] => readEnd? last
  | first :: rest => do
    let group ← readGroup? first
    let groups ← readPieces? rest
    pure (group :: groups)

def readGroups? (text : List Char) : Option (List UInt16) :=
  if text.isEmpty then some [] else readPieces? (pieces ':' text)

/-- What stands before and behind the first two colons in a row. -/
def splitAtGap? : List Char → Option (List Char × List Char)
  | ':' :: ':' :: rest => some ([], rest)
  | sign :: rest => (splitAtGap? rest).map fun (before, behind) => (sign :: before, behind)
  | [] => none

/-- Two colons stand for one zero group at least, and only the end of the text may be dotted. -/
def readEight? (text : List Char) : Option (List UInt16) :=
  match splitAtGap? text with
  | none => readGroups? text
  | some (before, behind) => do
    let first ← readGroups? before
    let last ← readGroups? behind
    if '.' ∈ before ∨ 8 ≤ first.length + last.length then none
    else some (first ++ List.replicate (8 - (first.length + last.length)) 0 ++ last)

def readGrouped? (text : List Char) : Option Host := do
  let (groups, scope) ←
    match pieces '%' text with
    | [groups] => some (groups, 0)
    | [groups, scope] => (Numeral.decimalBelow? 4294967296 scope).map fun scope => (groups, scope)
    | _ => none
  let groups ← readEight? groups
  if eight : groups.toArray.size = 8 then
    some (grouped ⟨groups.toArray, eight⟩ (UInt32.ofNat scope))
  else none

/-- The host that a text writes. Groups stand in brackets. -/
def ofText? (text : List Char) : Option Host :=
  match text with
  | '[' :: rest =>
    if rest.getLast? = some ']' then readGrouped? rest.dropLast else none
  | _ =>
    match readDotted? text with
    | some [first, second, third, fourth] => some (dotted first second third fourth)
    | _ => none

end Host

namespace Address

/-- A port of the host that reaches itself. -/
def loopback (port : UInt16) : Address := ⟨.dotted 127 0 0 1, port⟩

def text (address : Address) : String :=
  address.host.text ++ ":" ++ Numeral.decimal address.port.toNat

/-- The address that a text writes. The port stands behind the last colon. -/
def ofText? (text : String) : Option Address := do
  let signs := text.toList.reverse
  let port ← Numeral.decimalBelow? 65536 (signs.takeWhile (· != ':')).reverse
  match signs.dropWhile (· != ':') with
  | ':' :: host => return ⟨← Host.ofText? host.reverse, UInt16.ofNat port⟩
  | _ => none

end Address

end ReliableTransport
