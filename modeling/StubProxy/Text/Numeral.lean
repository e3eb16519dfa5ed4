/-!
# Numerals

Reading and writing natural numbers. `readWord16` reads what fits 16 bits and tells the first
reason, from left to right, why a text is no such number.
-/

namespace StubProxy.Text

/-- A decimal digit. -/
def digit? (c : Char) : Option Nat := if '0' ≤ c ∧ c ≤ '9' then some (c.toNat - 48) else none

/-- An octal digit. -/
def octalDigit? (c : Char) : Option Nat := if '0' ≤ c ∧ c ≤ '7' then some (c.toNat - 48) else none

/-- A hexadecimal digit in either case. -/
def hexDigit? (c : Char) : Option Nat :=
  if '0' ≤ c ∧ c ≤ '9' then some (c.toNat - 48)
  else if 'a' ≤ c ∧ c ≤ 'f' then some (c.toNat - 87)
  else if 'A' ≤ c ∧ c ≤ 'F' then some (c.toNat - 55)
  else none

/-- The number that a text of digits writes behind `n`; `none` at a character that is no digit. -/
def readDigits (base : Nat) (digit? : Char → Option Nat) (n : Nat) : List Char → Option Nat
  | [] => some n
  | c :: s => (digit? c).bind fun d => readDigits base digit? (base * n + d) s

/-- The number that the leading hexadecimal digits write behind `n`, and what follows them. -/
def readHex (n : Nat) : List Char → Nat × List Char
  | [] => (n, [])
  | c :: s =>
    match hexDigit? c with
    | some d => readHex (16 * n + d) s
    | none => (n, c :: s)

/-- A number in decimal. -/
def decimal (n : Nat) : List Char := Nat.toDigits 10 n

/-- A number in hexadecimal, small letters. -/
def hexadecimal (n : Nat) : List Char := Nat.toDigits 16 n

/-- The integers that 64 bits hold. -/
def isWord64 (i : Int) : Bool := -9223372036854775808 ≤ i && i ≤ 9223372036854775807

/-- Why a text is no number of 16 bits. -/
inductive NumeralFault where
  | empty
  | invalidDigit
  | tooLarge
  deriving DecidableEq, Repr

/-- The wording of a fault. -/
def NumeralFault.message : NumeralFault → String
  | empty => "cannot parse integer from empty string"
  | invalidDigit => "invalid digit found in string"
  | tooLarge => "number too large to fit in target type"

/-- Decimal digits behind `n`, of a number of at most 16 bits. -/
def readWordDigits (n : Nat) : List Char → Except NumeralFault Nat
  | [] => .ok n
  | c :: s =>
    match digit? c with
    | none => .error .invalidDigit
    | some d => if 65535 < 10 * n + d then .error .tooLarge else readWordDigits (10 * n + d) s

/-- A decimal number of at most 16 bits; one plus sign may stand in front. -/
def readWord16 : List Char → Except NumeralFault Nat
  | [] => .error .empty
  | ['+'] => .error .invalidDigit
  | '+' :: s => readWordDigits 0 s
  | s => readWordDigits 0 s

/-- A text with one plus sign in front of it, or without. -/
def Signed (signed text : List Char) : Prop := signed = text ∨ signed = '+' :: text

/-- The text writes a number of 16 bits: one digit or more, behind a sign if there is one. -/
def Writes16 (text : List Char) (n : Nat) : Prop :=
  ∃ digits, Signed text digits ∧ digits ≠ [] ∧ (∀ c ∈ digits, c.isDigit) ∧
    Nat.ofDigitChars 10 digits 0 = n ∧ n ≤ 65535

/-- The text starts with the digits of a number that 16 bits do not hold. -/
def Overflows16 (text : List Char) : Prop :=
  ∃ digits rest, Signed text (digits ++ rest) ∧ (∀ c ∈ digits, c.isDigit) ∧
    65535 < Nat.ofDigitChars 10 digits 0

/-- What a fault says about a text. -/
def NumeralFault.Explains (text : List Char) : NumeralFault → Prop
  | empty => text = []
  | tooLarge => Overflows16 text
  | invalidDigit => text ≠ [] ∧ ¬ Overflows16 text ∧ ∀ n, ¬ Writes16 text n

end StubProxy.Text
