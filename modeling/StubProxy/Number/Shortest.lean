import StubProxy.Number.Double

/-!
# The shortest text of a double

Of all decimals that read back as a double, the text shows one with the fewest digits, and of those
the nearest (`Double.shortest`). Digits are never followed by an exponent, and there is always a
decimal place.
-/

namespace StubProxy.Double

open Text

/-- Numerator and denominator of `m * 2 ^ q`. -/
def fraction (m : Nat) (q : Int) : Nat × Nat := descale 2 m 1 (-q)

/-- How many digits a positive fraction has before the point; less zeros behind it, if none. -/
def order (num den : Nat) : Int :=
  if den ≤ num then (decimal (num / den)).length else 1 - ((decimal (den / num)).length : Int)

/-- Of the two multiples of `10 ^ e` around a fraction, the nearest that reads back as the double. -/
def neighbour (m : Nat) (q e : Int) : Option Nat :=
  let (num, den) := fraction m q
  let (a, b) := descale 10 num den e
  let below := a / b
  let reads (d : Nat) : Bool := ofDecimal false d e = finite false m q
  match reads below, reads (below + 1) with
  | true, true => some (if 2 * (a % b) ≤ b then below else below + 1)
  | true, false => some below
  | false, true => some (below + 1)
  | false, false => none

/-- Tries one more digit until some decimal reads back. -/
def search (m : Nat) (q order : Int) : Nat → Nat → Nat × Int
  | 0, n => (((fraction m q).1 / (fraction m q).2), n)
  | fuel + 1, n =>
    match neighbour m q (order - n) with
    | some d => (d, order - n)
    | none => search m q order fuel (n + 1)

/-- The shortest decimal of `m * 2 ^ q`: a whole number and a power of ten. -/
def shortest (m : Nat) (q : Int) : Nat × Int :=
  let (num, den) := fraction m q
  search m q (order num den) 18 0

/-- The text of `d * 10 ^ e`, with a decimal place at least. -/
def positional (d : Nat) (e : Int) : List Char :=
  let ds := decimal d
  if 0 ≤ e then ds ++ List.replicate e.toNat '0' ++ ['.', '0']
  else
    let places := (-e).toNat
    let ds := List.replicate (places + 1 - ds.length) '0' ++ ds
    ds.take (ds.length - places) ++ '.' :: ds.drop (ds.length - places)

/-- The text of a double. -/
def toText : Double → List Char
  | nan => ['N', 'a', 'N']
  | infinite negative => (if negative then ['-'] else []) ++ ['i', 'n', 'f']
  | finite negative m q =>
    let (d, e) := if m = 0 then (0, 0) else shortest m q
    (if negative then ['-'] else []) ++ positional d e

end StubProxy.Double
