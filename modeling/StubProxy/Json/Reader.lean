import StubProxy.Json.Value
import StubProxy.Text.Numeral

/-!
# Reading JSON

`Json.parse` reads a JSON text and nothing else: blanks may surround any part, strings hold no
control characters, escaped surrogates come in pairs, numbers have no superfluous zeros. Values may
be nested 127 deep.
-/

namespace StubProxy.Json

open Text

/-- The blanks of JSON. -/
def isBlank (c : Char) : Bool := c = ' ' || c = '\n' || c = '\t' || c = '\r'

/-- Without blanks in front. -/
def skip (s : List Char) : List Char := s.dropWhile isBlank

/-- Four hexadecimal digits in front. -/
def readHex4 : List Char → Option (Nat × List Char)
  | a :: b :: c :: d :: s => (readDigits 16 hexDigit? 0 [a, b, c, d]).map (·, s)
  | _ => none

/-- The character that an escape stands for and what follows it; the backslash is gone already. -/
def readEscape : List Char → Option (Char × List Char)
  | '"' :: s => some ('"', s)
  | '\\' :: s => some ('\\', s)
  | '/' :: s => some ('/', s)
  | 'b' :: s => some (Char.ofNat 8, s)
  | 'f' :: s => some (Char.ofNat 12, s)
  | 'n' :: s => some ('\n', s)
  | 'r' :: s => some ('\r', s)
  | 't' :: s => some ('\t', s)
  | 'u' :: s => do
    let (n, s) ← readHex4 s
    if 0xD800 ≤ n ∧ n < 0xDC00 then
      match s with
      | '\\' :: 'u' :: s =>
        let (m, s) ← readHex4 s
        if 0xDC00 ≤ m ∧ m < 0xE000 then
          some (Char.ofNat (0x10000 + (n - 0xD800) * 1024 + (m - 0xDC00)), s)
        else none
      | _ => none
    else if 0xDC00 ≤ n ∧ n < 0xE000 then none
    else some (Char.ofNat n, s)
  | _ => none

/-- A string behind its opening quote; `done` holds its characters so far, last first. -/
def readString : Nat → List Char → List Char → Option (String × List Char)
  | 0, _, _ => none
  | _ + 1, _, [] => none
  | fuel + 1, done, c :: s =>
    if c = '"' then some (String.ofList done.reverse, s)
    else if c = '\\' then (readEscape s).bind fun (c, s) => readString fuel (c :: done) s
    else if c.toNat < 0x20 then none
    else readString fuel (c :: done) s

/-- The digits in front. -/
def spanDigits (s : List Char) : List Char × List Char := s.span Char.isDigit

/-- A sign in front if it is one of `signs`, and what follows. -/
def readSign (signs : List Char) : List Char → List Char × List Char
  | [] => ([], [])
  | c :: s => if c ∈ signs then ([c], s) else ([], c :: s)

/-- A fraction in front if there is one. -/
def readFraction : List Char → Option (List Char × List Char)
  | '.' :: s =>
    let (digits, s) := spanDigits s
    if digits = [] then none else some ('.' :: digits, s)
  | s => some ([], s)

/-- An exponent in front if there is one, with the small letter. -/
def readExponent : List Char → Option (List Char × List Char)
  | 'e' :: s | 'E' :: s =>
    let (sign, s) := readSign ['+', '-'] s
    let (digits, s) := spanDigits s
    if digits = [] then none else some ('e' :: sign ++ digits, s)
  | s => some ([], s)

/-- A number: sign, digits, and where there are any, fraction and exponent. -/
def readNumber (s : List Char) : Option (String × List Char) := do
  let (sign, s) := readSign ['-'] s
  let (digits, s) := spanDigits s
  if digits = [] ∨ (digits.head? = some '0' ∧ digits ≠ ['0']) then none else
  let (fraction, s) ← readFraction s
  let (exponent, s) ← readExponent s
  some (String.ofList (sign ++ digits ++ fraction ++ exponent), s)

/-- A word in front. -/
def readWord (word : String) (v : Json) (s : List Char) : Option (Json × List Char) :=
  if word.toList.isPrefixOf s then some (v, s.drop word.toList.length) else none

mutual

/-- A value in front. Each step into an array or object costs one of `depth`. -/
def readValue (fuel depth : Nat) (s : List Char) : Option (Json × List Char) :=
  match fuel with
  | 0 => none
  | fuel + 1 =>
    match skip s with
    | 'n' :: s => readWord "ull" .null s
    | 't' :: s => readWord "rue" (.bool true) s
    | 'f' :: s => readWord "alse" (.bool false) s
    | '"' :: s => (readString (s.length + 1) [] s).map fun (t, s) => (.string t, s)
    | '[' :: s =>
      if depth ≤ 1 then none
      else match skip s with
        | ']' :: s => some (.array [], s)
        | s => (readItems fuel (depth - 1) s).map fun (vs, s) => (.array vs, s)
    | '{' :: s =>
      if depth ≤ 1 then none
      else match skip s with
        | '}' :: s => some (.object [], s)
        | s => (readMembers fuel (depth - 1) s).map fun (ms, s) => (.object ms, s)
    | s => (readNumber s).map fun (n, s) => (.number n, s)

/-- The items up to the closing bracket. -/
def readItems (fuel depth : Nat) (s : List Char) : Option (List Json × List Char) :=
  match fuel with
  | 0 => none
  | fuel + 1 =>
    match readValue fuel depth s with
    | none => none
    | some (v, s) =>
      match skip s with
      | ']' :: s => some ([v], s)
      | ',' :: s => (readItems fuel depth s).map fun (vs, s) => (v :: vs, s)
      | _ => none

/-- The members up to the closing brace. -/
def readMembers (fuel depth : Nat) (s : List Char) : Option (List (String × Json) × List Char) :=
  match fuel with
  | 0 => none
  | fuel + 1 =>
    match skip s with
    | '"' :: s =>
      match readString (s.length + 1) [] s with
      | none => none
      | some (name, s) =>
        match skip s with
        | ':' :: s =>
          match readValue fuel depth s with
          | none => none
          | some (v, s) =>
            match skip s with
            | '}' :: s => some ([(name, v)], s)
            | ',' :: s => (readMembers fuel depth s).map fun (ms, s) => ((name, v) :: ms, s)
            | _ => none
        | _ => none
    | _ => none

end

/-- The value of a whole text. -/
def parse (s : List Char) : Option Json :=
  match readValue (2 * s.length + 2) 128 s with
  | some (v, r) => if skip r = [] then some v else none
  | none => none

end StubProxy.Json
