import StubProxy.Json.Value
import StubProxy.Text.Numeral

/-!
# JSON texts

Two layouts of the same value: `compact` has no blanks, `pretty` puts each item and member on a line
of its own, two spaces further in. Only the quote, the backslash and control characters are escaped.
-/

namespace StubProxy.Json

open Text

/-- Four hexadecimal digits. -/
def hex4 (n : Nat) : List Char :=
  let digits := hexadecimal n
  List.replicate (4 - digits.length) '0' ++ digits

/-- A character as it stands in a string. -/
def escape (c : Char) : List Char :=
  match c with
  | '"' => ['\\', '"']
  | '\\' => ['\\', '\\']
  | '\n' => ['\\', 'n']
  | '\r' => ['\\', 'r']
  | '\t' => ['\\', 't']
  | c =>
    if c.toNat = 8 then ['\\', 'b']
    else if c.toNat = 12 then ['\\', 'f']
    else if c.toNat < 0x20 then '\\' :: 'u' :: hex4 c.toNat
    else [c]

/-- A string in quotes. -/
def writeString (s : String) : List Char := '"' :: s.toList.flatMap escape ++ ['"']

/-- How the parts of a value are laid out. -/
structure Layout where
  /-- What opens a line at a depth. -/
  newline : Nat → List Char
  /-- What stands between a member's name and its value. -/
  colon : List Char

/-- Everything on one line, without blanks. -/
def Layout.compact : Layout := ⟨fun _ => [], [':']⟩

/-- One line for each item, indented by two spaces for each depth. -/
def Layout.pretty : Layout := ⟨fun n => '\n' :: List.replicate (2 * n) ' ', [':', ' ']⟩

/-- Texts in brackets with commas between them, each opening a line. -/
def enclose (l : Layout) (depth : Nat) (first last : Char) (parts : List (List Char)) : List Char :=
  match parts with
  | [] => [first, last]
  | p :: ps =>
    first :: l.newline (depth + 1) ++ p ++ ps.flatMap (fun q => ',' :: l.newline (depth + 1) ++ q)
      ++ l.newline depth ++ [last]

mutual

/-- The text of a value at a depth. -/
def write (l : Layout) (depth : Nat) : Json → List Char
  | null => "null".toList
  | bool true => "true".toList
  | bool false => "false".toList
  | number numeral => numeral.toList
  | string s => writeString s
  | array items => enclose l depth '[' ']' (writeItems l (depth + 1) items)
  | object members => enclose l depth '{' '}' (writeMembers l (depth + 1) members)

/-- The texts of items. -/
def writeItems (l : Layout) (depth : Nat) : List Json → List (List Char)
  | [] => []
  | v :: vs => write l depth v :: writeItems l depth vs

/-- The texts of members. -/
def writeMembers (l : Layout) (depth : Nat) : List (String × Json) → List (List Char)
  | [] => []
  | (n, v) :: ms => (writeString n ++ l.colon ++ write l depth v) :: writeMembers l depth ms

end

/-- The text without blanks. -/
def compact (v : Json) : String := String.ofList (write .compact 0 v)

/-- The text with a line for each item. -/
def pretty (v : Json) : String := String.ofList (write .pretty 0 v)

end StubProxy.Json
