import StubProxy.Text.Numeral

/-!
# Numbers in double precision

A double is a whole number of up to 53 binary digits times a power of two, with a sign; or it is
infinite, or not a number. `Double.read` takes the double nearest to a numeral, and of two that are
equally near the one with the even digits. All arithmetic is on whole numbers, so nothing is rounded
twice.
-/

namespace StubProxy

open Text

/-- A number in double precision. -/
inductive Double where
  | nan
  | infinite (negative : Bool)
  /-- `m * 2 ^ q`. -/
  | finite (negative : Bool) (m : Nat) (q : Int)
  deriving DecidableEq

namespace Double

/-- The exponent of the smallest doubles. -/
def minExponent : Int := -1074

/-- The exponent of the largest doubles. -/
def maxExponent : Int := 971

/-- Zero of a sign. -/
def zero (negative : Bool) : Double := finite negative 0 minExponent

/-- Whether a double is zero, of either sign. -/
def isZero : Double → Bool
  | finite _ m _ => m = 0
  | _ => false

/-- The whole number nearest to a fraction, the even one of two. -/
def roundDiv (num den : Nat) : Nat :=
  let k := num / den
  let twice := 2 * (num % den)
  if twice < den ∨ (twice = den ∧ k % 2 = 0) then k else k + 1

/-- Numerator and denominator of a fraction divided by `base ^ e`. -/
def descale (base num den : Nat) (e : Int) : Nat × Nat :=
  if 0 ≤ e then (num, den * Nat.pow base e.toNat) else (num * Nat.pow base (-e).toNat, den)

/-- The whole numbers below this one have at most 53 binary digits. -/
def mantissaBound : Nat := 9007199254740992

/-- The exponent at which a positive fraction has 53 binary digits, or the smallest one. -/
def exponentOf (num den : Nat) : Int :=
  let q := max ((num.log2 : Int) - den.log2 - 53) minExponent
  let (a, b) := descale 2 num den q
  if mantissaBound ≤ a / b then q + 1 else q

/-- The double nearest to a positive fraction, with a sign. -/
def ofFraction (negative : Bool) (num den : Nat) : Double :=
  let q := exponentOf num den
  let (a, b) := descale 2 num den q
  let m := roundDiv a b
  let (m, q) := if m = mantissaBound then (m / 2, q + 1) else (m, q)
  if maxExponent < q then infinite negative else finite negative m q

/-- The double nearest to `d * 10 ^ e`, with a sign; what is far out of range is not computed. -/
def ofDecimal (negative : Bool) (d : Nat) (e : Int) : Double :=
  let order := (decimal d).length + e
  if d = 0 ∨ order < -330 then zero negative
  else if 310 < order then infinite negative
  else
    let (num, den) := descale 10 d 1 (-e)
    ofFraction negative num den

/-- The digits in front and what follows them. -/
def spanDigits (s : List Char) : List Char × List Char := s.span Char.isDigit

/-- The number that digits write, in the order they are written. -/
def natOfDigits (ds : List Char) : Nat := (readDigits 10 digit? 0 ds).getD 0

/-- The sign in front, if any, and the rest. -/
def splitSign : List Char → Bool × List Char
  | '-' :: s => (true, s)
  | '+' :: s => (false, s)
  | s => (false, s)

/-- The exponent of a numeral: nothing, or `e` and a number. -/
def readExponent : List Char → Option Int
  | [] => some 0
  | c :: s =>
    let (negative, ds) := splitSign s
    if c.toLower = 'e' ∧ ds ≠ [] ∧ ds.all Char.isDigit then
      some (if negative then -(natOfDigits ds : Int) else natOfDigits ds)
    else none

/-- A numeral without sign: digits around a point, not all of them missing, and an exponent. -/
def readUnsigned (negative : Bool) (s : List Char) : Option Double :=
  let (whole, s) := spanDigits s
  let (fraction, s) := match s with
    | '.' :: s => spanDigits s
    | s => ([], s)
  if whole = [] ∧ fraction = [] then none
  else (readExponent s).map fun e =>
    ofDecimal negative (natOfDigits (whole ++ fraction)) (e - fraction.length)

/-- The double that a text writes: a numeral, or infinity or no number by name. -/
def read (s : List Char) : Option Double :=
  let (negative, s) := splitSign s
  let name := String.ofList (s.map Char.toLower)
  if name = "inf" ∨ name = "infinity" then some (infinite negative)
  else if name = "nan" then some nan
  else readUnsigned negative s

end Double

end StubProxy
