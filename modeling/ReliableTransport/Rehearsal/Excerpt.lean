import ReliableTransport.Bytes
import ReliableTransport.Numeral
/-!
This module holds how reports show bytes: in hexadecimal digits if they are few, and by their number
and a checksum otherwise. Bytes are read from hexadecimal digits too.
-/

namespace ReliableTransport.Rehearsal

/-- The value of a hexadecimal digit. Any other character counts as zero. -/
def hexValue (digit : Char) : Nat := (Numeral.value? digit).getD 0

/-- The bytes that pairs of digits write. A digit that is left over writes none. -/
def ofHex (digits : List Char) : Bytes := (go digits #[]).toList
where
  go : List Char → Array UInt8 → Array UInt8
    | high :: low :: rest, bytes =>
      go rest (bytes.push (UInt8.ofNat (16 * hexValue high + hexValue low)))
    | _, bytes => bytes

/-- The two digits of each byte. -/
def toHex (data : Bytes) : String :=
  String.ofList (data.flatMap fun byte =>
    [Numeral.digit (byte.toNat / 16), Numeral.digit (byte.toNat % 16)])

/-- The sixteen digits of a 64-bit number. -/
def wordToHex (value : UInt64) : String :=
  String.ofList ((List.range 16).map fun place =>
    Numeral.digit ((value.toNat >>> (60 - 4 * place)) % 16))

/-- The checksum that multiplies by a prime after each byte is mixed in. -/
def checksum (data : Bytes) : UInt64 :=
  data.foldl (fun sum byte => (sum ^^^ byte.toUInt64) * 0x100000001b3) 0xcbf29ce484222325

/-- What a report shows of bytes. -/
inductive Excerpt where
  | whole (digits : String)
  | digest (length : Nat) (checksum : String)

/-- Bytes are few up to this number. -/
def Excerpt.limit : Nat := 48

def Excerpt.of (data : Bytes) : Excerpt :=
  if data.length ≤ limit then .whole (toHex data)
  else .digest data.length (wordToHex (checksum data))

end ReliableTransport.Rehearsal
