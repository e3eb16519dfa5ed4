import StubProxy.Toml.Value

/-!
# TOML numbers

Between two digits there may be an underscore. Whole numbers may have a base, and fit 64 bits;
others have a fraction or an exponent and may not be beyond the largest double.
-/

namespace StubProxy.Toml

open Text

/-- Digits behind the first one; an underscore has to stand between two. -/
def readMoreDigits (p : Char → Bool) : List Char → Option (List Char × List Char)
  | [] => some ([], [])
  | c :: s =>
    if c = '_' then
      match s with
      | d :: s => if p d then (readMoreDigits p s).map fun (ds, s) => (d :: ds, s) else none
      | [] => none
    else if p c then (readMoreDigits p s).map fun (ds, s) => (c :: ds, s)
    else some ([], c :: s)

/-- Digits, one at least. -/
def readDigitRun (p : Char → Bool) : List Char → Option (List Char × List Char)
  | [] => none
  | c :: s => if p c then (readMoreDigits p s).map fun (ds, s) => (c :: ds, s) else none

/-- The digits of a decimal whole number, which begins with zero only if it is zero. -/
def readWhole (s : List Char) : Option (List Char × List Char) :=
  match s with
  | '0' :: s => some (['0'], s)
  | _ => readDigitRun Char.isDigit s

/-- A fraction in front, if any, with its point. -/
def readFraction : List Char → Option (List Char × List Char)
  | '.' :: s => (readDigitRun Char.isDigit s).map fun (ds, s) => ('.' :: ds, s)
  | s => some ([], s)

/-- An exponent in front, if any, with its letter and sign. -/
def readExponent (s : List Char) : Option (List Char × List Char) :=
  let digits (mark : List Char) (s : List Char) : Option (List Char × List Char) :=
    (readDigitRun Char.isDigit s).map fun (ds, s) => (mark ++ ds, s)
  match s with
  | 'e' :: s | 'E' :: s =>
    match s with
    | '+' :: s => digits ['e'] s
    | '-' :: s => digits ['e', '-'] s
    | s => digits ['e'] s
  | s => some ([], s)

/-- A whole number of a base behind its mark. -/
def readBased (base : Nat) (digit? : Char → Option Nat) (s : List Char) :
    Option (Toml × List Char) := do
  let (ds, s) ← readDigitRun (fun c => (digit? c).isSome) s
  let n ← readDigits base digit? 0 ds
  if isWord64 n then some (.integer n, s) else none

/-- The value of a binary digit. -/
def binaryDigit? (c : Char) : Option Nat := if c = '0' then some 0 else if c = '1' then some 1 else none

/-- A decimal number behind its sign. -/
def readUnsigned (negative : Bool) (s : List Char) : Option (Toml × List Char) := do
  let (whole, s) ← readWhole s
  let (fraction, s) ← readFraction s
  let (exponent, s) ← readExponent s
  if fraction = [] ∧ exponent = [] then
    let n ← readDigits 10 digit? 0 whole
    let i : Int := if negative then -n else n
    if isWord64 i then some (.integer i, s) else none
  else
    let x ← Double.readUnsigned negative (whole ++ fraction ++ exponent)
    if x = .infinite false then none else some (.float x, s)

/-- A number in front. -/
def readNumber (s : List Char) : Option (Toml × List Char) :=
  match s with
  | '0' :: 'x' :: r => readBased 16 hexDigit? r
  | '0' :: 'o' :: r => readBased 8 octalDigit? r
  | '0' :: 'b' :: r => readBased 2 binaryDigit? r
  | _ =>
    match Double.splitSign s with
    | (negative, 'i' :: 'n' :: 'f' :: r) => some (.float (.infinite negative), r)
    | (_, 'n' :: 'a' :: 'n' :: r) => some (.float .nan, r)
    | (negative, r) => readUnsigned negative r

end StubProxy.Toml
