import StubProxy.Text.Numeral

/-!
# The small parts of TOML: blanks, comments, strings, keys

A reader takes its part off the front of a text and gives what it read with the rest, or nothing if
the part is malformed.
-/

namespace StubProxy.Toml

open Text

/-- The blanks within a line. -/
def isBlank (c : Char) : Bool := c = ' ' || c = '\t'

/-- Without blanks in front. -/
def skipBlanks (s : List Char) : List Char := s.dropWhile isBlank

/-- What may stand in comments and, but for the signs that end them, in strings. -/
def isPlain (c : Char) : Bool := c = '\t' || (0x20 ≤ c.toNat && c.toNat ≠ 0x7F)

/-- The end of a line in front, or that of the text. -/
def readLineEnd : List Char → Option (List Char)
  | [] => some []
  | '\n' :: s => some s
  | '\r' :: '\n' :: s => some s
  | _ => none

/-- The rest of a line that holds nothing any more but blanks and a comment. -/
def readLineRest (s : List Char) : Option (List Char) :=
  match skipBlanks s with
  | '#' :: s => readLineEnd (s.dropWhile isPlain)
  | s => readLineEnd s

/-- Without blanks, line ends and comments in front; at most `fuel` line ends are taken. -/
def skipSpace : Nat → List Char → Option (List Char)
  | 0, _ => none
  | fuel + 1, s =>
    match skipBlanks s with
    | '#' :: s => skipSpace fuel (s.dropWhile isPlain)
    | '\n' :: s => skipSpace fuel s
    | '\r' :: '\n' :: s => skipSpace fuel s
    | '\r' :: _ => none
    | s => some s

/-! ### Strings -/

/-- The character with a number of `digits` hexadecimal digits in front. -/
def readCodePoint (digits : Nat) (s : List Char) : Option (Char × List Char) :=
  let ds := s.take digits
  if ds.length < digits then none
  else match readDigits 16 hexDigit? 0 ds with
    | some n => if n.isValidChar then some (Char.ofNat n, s.drop digits) else none
    | none => none

/-- The character that an escape stands for; the backslash is gone already. -/
def readEscape : List Char → Option (Char × List Char)
  | '"' :: s => some ('"', s)
  | '\\' :: s => some ('\\', s)
  | 'b' :: s => some (Char.ofNat 8, s)
  | 'f' :: s => some (Char.ofNat 12, s)
  | 'n' :: s => some ('\n', s)
  | 'r' :: s => some ('\r', s)
  | 't' :: s => some ('\t', s)
  | 'u' :: s => readCodePoint 4 s
  | 'U' :: s => readCodePoint 8 s
  | _ => none

/-- A string on one line behind its opening quote; `done` holds its characters, last first. -/
def readQuoted (escapes : Bool) (quote : Char) :
    Nat → List Char → List Char → Option (String × List Char)
  | 0, _, _ => none
  | _ + 1, _, [] => none
  | fuel + 1, done, c :: s =>
    if c = quote then some (String.ofList done.reverse, s)
    else if c = '\\' ∧ escapes then
      (readEscape s).bind fun (c, s) => readQuoted escapes quote fuel (c :: done) s
    else if isPlain c then readQuoted escapes quote fuel (c :: done) s
    else none

/-- Whether a line ends here, behind blanks, and if so what follows it. -/
def foldedLine (s : List Char) : Option (List Char) :=
  match skipBlanks s with
  | '\n' :: s => some s
  | '\r' :: '\n' :: s => some s
  | _ => none

/-- Without blanks and line ends in front. -/
def skipLines : Nat → List Char → List Char
  | 0, s => s
  | fuel + 1, s =>
    match foldedLine s with
    | some s => skipLines fuel s
    | none => skipBlanks s

/--
A string of several lines behind its opening quotes. Three quotes end it, and up to two more in
front of them belong to it. A backslash at the end of a line joins the lines.
-/
def readLong (escapes : Bool) (quote : Char) :
    Nat → List Char → List Char → Option (String × List Char)
  | 0, _, _ => none
  | _ + 1, _, [] => none
  | fuel + 1, done, c :: s =>
    if c = quote then
      let quotes := 1 + min 4 (s.takeWhile (· = quote)).length
      if 3 ≤ quotes then
        some (String.ofList (done.reverse ++ List.replicate (quotes - 3) quote),
          s.drop (quotes - 1))
      else readLong escapes quote fuel (c :: done) s
    else if c = '\\' ∧ escapes then
      match readEscape s, foldedLine s with
      | some (c, s), _ => readLong escapes quote fuel (c :: done) s
      | none, some s => readLong escapes quote fuel done (skipLines s.length s)
      | none, none => none
    else if c = '\r' ∧ s.head? = some '\n' then readLong escapes quote fuel done s
    else if c = '\n' ∨ isPlain c then readLong escapes quote fuel (c :: done) s
    else none

/-- Without one line end in front. -/
def dropLineEnd : List Char → List Char
  | '\n' :: s => s
  | '\r' :: '\n' :: s => s
  | s => s

/-- A string behind its first quote, of one line or several. -/
def readString (quote : Char) (s : List Char) : Option (String × List Char) :=
  let escapes : Bool := quote = '"'
  match s with
  | a :: b :: r =>
    if a = quote ∧ b = quote then readLong escapes quote (r.length + 1) [] (dropLineEnd r)
    else readQuoted escapes quote (s.length + 1) [] s
  | _ => readQuoted escapes quote (s.length + 1) [] s

/-! ### Keys -/

/-- What a key without quotes consists of. -/
def isKeyChar (c : Char) : Bool := c.isAlphanum || c = '_' || c = '-'

/-- One part of a key. -/
def readKeyPart (s : List Char) : Option (String × List Char) :=
  match s with
  | '"' :: r => readQuoted true '"' (r.length + 1) [] r
  | '\'' :: r => readQuoted false '\'' (r.length + 1) [] r
  | _ =>
    let name := s.takeWhile isKeyChar
    if name = [] then none else some (String.ofList name, s.drop name.length)

/-- The parts of a key, with points between them; at most `fuel` of them. -/
def readKeyParts : Nat → List Char → Option (List String × List Char)
  | 0, _ => none
  | fuel + 1, s =>
    match readKeyPart (skipBlanks s) with
    | none => none
    | some (name, s) =>
      match skipBlanks s with
      | '.' :: s => (readKeyParts fuel s).map fun (names, s) => (name :: names, s)
      | s => some ([name], s)

/-- How deep keys and values may be nested. -/
def maxDepth : Nat := 79

/-- A key and the blanks around it. -/
def readKey (s : List Char) : Option (List String × List Char) := readKeyParts maxDepth s

end StubProxy.Toml
