import StubProxy.Text.Split
import StubProxy.Text.Numeral

/-!
# Numeric addresses

Reading and writing the two kinds of numeric host addresses. One of the first kind is four bytes,
shown as four decimals. URLs also write it with one to four numbers, decimal, octal or hexadecimal,
where the last fills all bytes that are left. One of the second kind is eight groups; the longest
run of zero groups is shown as `::`.
-/

namespace StubProxy.Address

open Text

/-- A number of an address: hexadecimal behind `0x`, octal behind `0`, else decimal. -/
def readNumber : List Char → Option Nat
  | [] => none
  | '0' :: 'x' :: s => readDigits 16 hexDigit? 0 s
  | '0' :: 'X' :: s => readDigits 16 hexDigit? 0 s
  | '0' :: c :: s => readDigits 8 octalDigit? 0 (c :: s)
  | s => readDigits 10 digit? 0 s

/-- The labels of a name without one empty label at the end. -/
def addressParts (s : List Char) : List (List Char) :=
  let parts := pieces '.' s
  if parts.getLast? = some [] then parts.dropLast else parts

/-- Whether the last label makes the name an address, valid or not. -/
def endsInNumber (s : List Char) : Bool :=
  match (addressParts s).getLast? with
  | none => false
  | some last => (last ≠ [] && last.all (fun c => (digit? c).isSome)) || (readNumber last).isSome

/-- The four bytes of an address in a URL, as one number. -/
def readLooseIpv4 (s : List Char) : Option Nat := do
  let parts := addressParts s
  if 4 < parts.length then none else
  let numbers ← parts.mapM readNumber
  let last ← numbers.getLast?
  let front := numbers.dropLast
  if last >>> (8 * (4 - front.length)) ≠ 0 ∨ front.any (255 < ·) then none
  else some (front.zipIdx.foldl (fun n p => n + p.1 <<< (8 * (3 - p.2))) last)

/-- Four decimals with dots between them. -/
def writeIpv4 (n : Nat) : List Char :=
  joinPieces '.' ([n / 16777216, n / 65536 % 256, n / 256 % 256, n % 256].map decimal)

/-- A byte in decimal without superfluous zeros. -/
def readByte (s : List Char) : Option Nat :=
  match s with
  | [] => none
  | '0' :: _ :: _ => none
  | s => (readDigits 10 digit? 0 s).filter (· < 256)

/-- Four decimals with dots between them, as one number. -/
def readIpv4 (s : List Char) : Option Nat := do
  match ← (pieces '.' s).mapM readByte with
  | [a, b, c, d] => some (16777216 * a + 65536 * b + 256 * c + d)
  | _ => none

/--
The groups of an address from its text. `gap` is the number of groups up to and with the zero group
of `::`, if that has been met.
-/
def readGroups : Nat → List Nat → Option Nat → List Char → Option (List Nat × Option Nat)
  | _, groups, gap, [] => some (groups, gap)
  | 0, _, _, _ => none
  | fuel + 1, groups, gap, c :: s =>
    if groups.length = 8 then none
    else if c = ':' then
      if gap.isSome then none
      else readGroups fuel (groups ++ [0]) (some (groups.length + 1)) s
    else
      let digits := ((c :: s).take 4).takeWhile fun c => (hexDigit? c).isSome
      let group := (readHex 0 digits).1
      match (c :: s).drop digits.length with
      | [] => some (groups ++ [group], gap)
      | '.' :: _ =>
        if digits = [] ∨ 6 < groups.length then none
        else (readIpv4 (c :: s)).map fun n => (groups ++ [n / 65536, n % 65536], gap)
      | ':' :: r => if r = [] then none else readGroups fuel (groups ++ [group]) gap r
      | _ => none

/-- The eight groups of an address, with zeros in the place of `::`. -/
def readIpv6 (s : List Char) : Option (List Nat) := do
  let (groups, gap) ← match s with
    | ':' :: ':' :: r => readGroups r.length [0] (some 1) r
    | ':' :: _ => none
    | [] | [_] => none
    | _ => readGroups s.length [] none s
  match gap with
  | some g => some (groups.take g ++ List.replicate (8 - groups.length) 0 ++ groups.drop g)
  | none => if groups.length = 8 then some groups else none

/-- The number of zeros at the front. -/
def zeroRun (groups : List Nat) : Nat := (groups.takeWhile (· = 0)).length

/-- Start and length of the first longest run of zeros, given those of `best` before position `i`. -/
def longestZeros (i : Nat) (best : Nat × Nat) : List Nat → Nat × Nat
  | [] => best
  | g :: gs =>
    let run := zeroRun (g :: gs)
    longestZeros (i + 1) (if best.2 < run then (i, run) else best) gs

/-- Eight groups with `::` in the place of the longest run of at least two zeros. -/
def writeIpv6 (groups : List Nat) : List Char :=
  let show_ (gs : List Nat) := joinPieces ':' (gs.map hexadecimal)
  let (start, run) := longestZeros 0 (0, 0) groups
  if run < 2 then show_ groups
  else show_ (groups.take start) ++ [':', ':'] ++ show_ (groups.drop (start + run))

end StubProxy.Address
