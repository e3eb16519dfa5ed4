import StubProxy.Text.Utf8
import StubProxy.Text.Numeral

/-!
# Percent-encoding

Which characters of each part of a URL are written as `%XX`, byte by byte of their UTF-8. All
characters beyond ASCII are.
-/

namespace StubProxy.Url

open Text

/-- Controls, and everything beyond ASCII. -/
def isControl (c : Char) : Bool := c.toNat < 0x20 || 0x7E < c.toNat

/-- What is encoded in a fragment. -/
def inFragment (c : Char) : Bool := isControl c || c ∈ [' ', '"', '<', '>', '\x60']

/-- What is encoded in a query; URLs of the web also encode the apostrophe. -/
def inQuery (special : Bool) (c : Char) : Bool :=
  isControl c || c ∈ [' ', '"', '#', '<', '>'] || (special && c = '\'')

/-- What is encoded in a path. -/
def inPath (c : Char) : Bool := inFragment c || c ∈ ['#', '?', '{', '}']

/-- What is encoded in a user name or password. -/
def inUserinfo (c : Char) : Bool :=
  inPath c || c ∈ ['/', ':', ';', '=', '@', '[', '\\', ']', '^', '|']

/-- A digit of a byte in capital letters. -/
def upperHexDigit (n : Nat) : Char := Char.ofNat (if n < 10 then 48 + n else 55 + n)

/-- A byte as `%XX`. -/
def encodeByte (b : UInt8) : List Char :=
  ['%', upperHexDigit (b.toNat / 16), upperHexDigit (b.toNat % 16)]

/-- The text with the characters of a class encoded. -/
def percentEncode (p : Char → Bool) (s : List Char) : List Char :=
  s.flatMap fun c => if p c then (String.utf8EncodeChar c).flatMap encodeByte else [c]

/-- The value of the byte `b` as a hexadecimal digit. -/
def byteDigit? (b : UInt8) : Option Nat := hexDigit? (Char.ofNat b.toNat)

/-- The bytes with each `%XX` decoded; any other `%` stays. -/
def percentDecode : List UInt8 → List UInt8
  | 0x25 :: x :: y :: r =>
    match byteDigit? x, byteDigit? y with
    | some m, some n => UInt8.ofNat (16 * m + n) :: percentDecode r
    | _, _ => 0x25 :: percentDecode (x :: y :: r)
  | b :: r => b :: percentDecode r
  | [] => []

end StubProxy.Url
