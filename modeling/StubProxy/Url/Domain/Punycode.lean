/-!
# Punycode

A label with characters beyond ASCII is written as its ASCII characters, a hyphen and a run of
digits that say which character to insert where. Each number is written with the least digit first
in base 36, and a threshold that adapts to the numbers so far ends it.
-/

namespace StubProxy.Url.Domain.Punycode

/-- The digit of value `d`: letters first. -/
def digit (d : Nat) : Char := Char.ofNat (if d < 26 then 97 + d else 22 + d)

/-- The value of a digit, in either case. -/
def digit? (c : Char) : Option Nat :=
  if 'a' ≤ c ∧ c ≤ 'z' then some (c.toNat - 97)
  else if 'A' ≤ c ∧ c ≤ 'Z' then some (c.toNat - 65)
  else if '0' ≤ c ∧ c ≤ '9' then some (c.toNat - 22)
  else none

/-- Digits below the threshold end a number; `k` is 36 for the first digit, 72 for the second. -/
def threshold (k bias : Nat) : Nat := max 1 (min 26 (k - bias))

/-- Divides by 35 until at most 455 is left, adding 36 for each step. -/
def scale : Nat → Nat → Nat → Nat
  | 0, k, _ => k
  | fuel + 1, k, delta =>
    if 455 < delta then scale fuel (k + 36) (delta / 35) else k + 36 * delta / (delta + 38)

/-- The bias after writing `delta` as the number that makes `count` characters. -/
def adapt (delta count : Nat) (first : Bool) : Nat :=
  let d := if first then delta / 700 else delta / 2
  scale (d + d / count + 1) 0 (d + d / count)

/-- Where reading stands: what is decoded, the next code point and position, the current number. -/
structure Reading where
  out : List Char
  code : Nat
  position : Nat
  bias : Nat
  start : Nat
  weight : Nat
  k : Nat

/-- Inserts the character that a finished number stands for. -/
def Reading.finish (r : Reading) (position : Nat) : Option Reading :=
  let count := r.out.length + 1
  let code := r.code + position / count
  if code.isValidChar then
    some {
      out := r.out.take (position % count) ++ Char.ofNat code :: r.out.drop (position % count)
      code
      position := position % count + 1
      bias := adapt (position - r.start) count (r.start = 0)
      start := position % count + 1
      weight := 1
      k := 36 }
  else none

/-- Reads the digits to the end, which must not be inside a number. -/
def readDigits (r : Reading) : List Char → Option (List Char)
  | [] => if r.k = 36 then some r.out else none
  | c :: s =>
    match digit? c with
    | none => none
    | some d =>
      let position := r.position + d * r.weight
      let t := threshold r.k r.bias
      if d < t then (r.finish position).bind fun r => readDigits r s
      else readDigits { r with position, weight := r.weight * (36 - t), k := r.k + 36 } s

/-- The label that `s` writes. -/
def decode (s : List Char) : Option (List Char) :=
  let tail := s.reverse.takeWhile (· ≠ '-')
  let plain := (s.reverse.drop (tail.length + 1)).reverse
  if plain.all (·.toNat < 0x80) then
    readDigits ⟨plain, 128, 0, 72, 0, 1, 36⟩ tail.reverse
  else none

theorem threshold_pos (k bias : Nat) : 1 ≤ threshold k bias := Nat.le_max_left ..

/-- A number as its digits. -/
def writeNumber (k bias q : Nat) : List Char :=
  let t := threshold k bias
  if q < t then [digit q]
  else digit (t + (q - t) % (36 - t)) :: writeNumber (k + 36) bias ((q - t) / (36 - t))
termination_by q
decreasing_by
  have := threshold_pos k bias
  exact Nat.lt_of_le_of_lt (Nat.div_le_self _ _) (by omega)

/-- Where writing stands: the digits so far, the gap since the last insertion, characters done. -/
structure Writing where
  out : List Char
  delta : Nat
  bias : Nat
  done : Nat

/-- Passes one character of the label while those of value `m` are written; `plain` are ASCII. -/
def Writing.pass (plain m : Nat) (w : Writing) (c : Char) : Writing :=
  if c.toNat < m then { w with delta := w.delta + 1 }
  else if c.toNat = m then
    { out := w.out ++ writeNumber 36 w.bias w.delta
      delta := 0
      bias := adapt w.delta (w.done + 1) (w.done = plain)
      done := w.done + 1 }
  else w

/-- Writes the characters of the values `ms`, which ascend; `n` is the least value not passed. -/
def writeValues (label : List Char) (plain : Nat) : List Nat → Nat → Writing → Writing
  | [], _, w => w
  | m :: ms, n, w =>
    let w := label.foldl (Writing.pass plain m) { w with delta := w.delta + (m - n) * (w.done + 1) }
    writeValues label plain ms (m + 1) { w with delta := w.delta + 1 }

/-- The label in ASCII, without the mark in front that tells such labels. -/
def encode (label : List Char) : List Char :=
  let plain := label.filter (·.toNat < 0x80)
  let values := ((label.filter (0x80 ≤ ·.toNat)).map Char.toNat).mergeSort.eraseDups
  let w := writeValues label plain.length values 128 ⟨[], 0, 72, plain.length⟩
  plain ++ (if plain = [] then [] else ['-']) ++ w.out

end StubProxy.Url.Domain.Punycode
