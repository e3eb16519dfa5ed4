import StubProxy.Text.Numeral

/-!
# Maps on code points, given by ranges

A property of characters is kept as its rows in ascending order: a first and a last code point and
the value that all between them share. Code points in no row have no value.

Rows are written as text, in hexadecimal and with blanks between them: `41-5A` or `AA`, followed
for maps with values by a sign that is no digit and what the sign governs (`300-314=230`).
-/

namespace StubProxy.Text

/-- Rows of first and last code point and value, ascending and apart. -/
structure RangeMap (β : Type) where
  rows : Array (Nat × Nat × β)

namespace RangeMap

variable {β : Type}

/-- One row from its text; `read` makes the value of what follows the code points. -/
def readRow (read : List Char → β) (s : List Char) : Nat × Nat × β :=
  match readHex 0 s with
  | (first, '-' :: r) => let (last, v) := readHex 0 r; (first, last, read v)
  | (first, v) => (first, first, read v)

/-- One more row, unless its text is empty; the text is held last character first. -/
def addRow (read : List Char → β) (row : List Char) (rows : Array (Nat × Nat × β)) :
    Array (Nat × Nat × β) :=
  if row = [] then rows else rows.push (readRow read row.reverse)

/-- Collects the rows of a text; `row` holds the characters of the current one, last first. -/
def readRows (read : List Char → β) (row : List Char) (rows : Array (Nat × Nat × β)) :
    List Char → Array (Nat × Nat × β)
  | [] => addRow read row rows
  | c :: s =>
    if c = ' ' ∨ c = '\n' then readRows read [] (addRow read row rows) s
    else readRows read (c :: row) rows s

/-- The map written in `s`. -/
def ofText (read : List Char → β) (s : String) : RangeMap β := ⟨readRows read [] #[] s.toList⟩

/-- Halves the stretch of rows from `lo` to before `hi` until it finds the row of `n`. -/
def search (m : RangeMap β) (n : Nat) : Nat → Nat → Nat → Option β
  | 0, _, _ => none
  | fuel + 1, lo, hi =>
    match m.rows[(lo + hi) / 2]? with
    | none => none
    | some (first, last, v) =>
      if hi ≤ lo then none
      else if n < first then search m n fuel lo ((lo + hi) / 2)
      else if last < n then search m n fuel ((lo + hi) / 2 + 1) hi
      else some v

/-- The value of the code point `n`. -/
def find? (m : RangeMap β) (n : Nat) : Option β := m.search n (m.rows.size + 1) 0 m.rows.size

end RangeMap

/-- A set of code points. -/
abbrev CodeSet := RangeMap Unit

/-- The set written in `s`. -/
def CodeSet.ofText (s : String) : CodeSet := RangeMap.ofText (fun _ => ()) s

/-- Whether the set has the character `c`. -/
def CodeSet.has (m : CodeSet) (c : Char) : Bool := (m.find? c.toNat).isSome

end StubProxy.Text
