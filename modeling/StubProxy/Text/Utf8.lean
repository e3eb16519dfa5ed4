/-!
# UTF-8

Writing characters as bytes, and reading bytes that may be no valid UTF-8.

* `scan` reads bytes from left to right: a well-formed sequence is a character, and each longest
  broken part (one byte, or the first bytes of a sequence that stops too early) is a gap.
* `decode?` refuses gaps, `decodeLossy` puts U+FFFD in the place of each.
-/

namespace StubProxy.Text.Utf8

/-- The bytes of a text. -/
def encode (s : List Char) : List UInt8 := s.flatMap String.utf8EncodeChar

/-- The six bits that a continuation byte carries. -/
def payload (b : UInt8) : Nat := b.toNat % 64

/-- A continuation byte. -/
def isCont (b : UInt8) : Bool := 0x80 ≤ b && b ≤ 0xBF

/--
What may follow the first byte of a three-byte sequence. The narrower ranges keep out long forms
and surrogates.
-/
def isSecond3 (lead b : UInt8) : Bool :=
  if lead = 0xE0 then 0xA0 ≤ b && b ≤ 0xBF
  else if lead = 0xED then 0x80 ≤ b && b ≤ 0x9F
  else isCont b

/-- What may follow the first byte of a four-byte sequence: no long form, nothing above U+10FFFF. -/
def isSecond4 (lead b : UInt8) : Bool :=
  if lead = 0xF0 then 0x90 ≤ b && b ≤ 0xBF
  else if lead = 0xF4 then 0x80 ≤ b && b ≤ 0x8F
  else isCont b

def char2 (a b : UInt8) : Char := Char.ofNat (a.toNat % 32 * 64 + payload b)

def char3 (a b c : UInt8) : Char :=
  Char.ofNat (a.toNat % 16 * 4096 + payload b * 64 + payload c)

def char4 (a b c d : UInt8) : Char :=
  Char.ofNat (a.toNat % 8 * 262144 + payload b * 4096 + payload c * 64 + payload d)

/-- The characters of a byte string in order, with `none` for each longest broken part. -/
def scan : List UInt8 → List (Option Char)
  | [] => []
  | a :: r =>
    if a < 0x80 then some (Char.ofNat a.toNat) :: scan r
    else if 0xC2 ≤ a ∧ a ≤ 0xDF then
      match r with
      | b :: r1 => if isCont b then some (char2 a b) :: scan r1 else none :: scan (b :: r1)
      | [] => [none]
    else if 0xE0 ≤ a ∧ a ≤ 0xEF then
      match r with
      | b :: r1 =>
        if isSecond3 a b then
          match r1 with
          | c :: r2 => if isCont c then some (char3 a b c) :: scan r2 else none :: scan (c :: r2)
          | [] => [none]
        else none :: scan (b :: r1)
      | [] => [none]
    else if 0xF0 ≤ a ∧ a ≤ 0xF4 then
      match r with
      | b :: r1 =>
        if isSecond4 a b then
          match r1 with
          | c :: r2 =>
            if isCont c then
              match r2 with
              | d :: r3 =>
                if isCont d then some (char4 a b c d) :: scan r3 else none :: scan (d :: r3)
              | [] => [none]
            else none :: scan (c :: r2)
          | [] => [none]
        else none :: scan (b :: r1)
      | [] => [none]
    else none :: scan r

/-- The character that stands for what cannot be decoded. -/
def replacement : Char := '\uFFFD'

/-- Decodes any bytes, with one U+FFFD for each longest broken part. -/
def decodeLossy (b : List UInt8) : List Char := (scan b).map (·.getD replacement)

/-- Decodes valid UTF-8 only. -/
def decode? (b : List UInt8) : Option (List Char) := (scan b).mapM id

end StubProxy.Text.Utf8
