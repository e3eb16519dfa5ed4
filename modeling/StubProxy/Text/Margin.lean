import StubProxy.Text.Split
import StubProxy.Text.Blank

/-!
# The common margin of a block

Rules are often written as indented blocks. `dedent` takes away the longest indentation that all
lines with visible text share, and empties the lines that hold only spaces and tabs.
-/

namespace StubProxy.Text

/-- Spaces and tabs only. -/
def isBare (line : List Char) : Bool := line.all isIndent

/-- The spaces and tabs in front. -/
def indentOf (line : List Char) : List Char := line.takeWhile isIndent

/-- The longest common beginning of two texts. -/
def commonStart : List Char → List Char → List Char
  | a :: s, b :: t => if a = b then a :: commonStart s t else []
  | _, _ => []

/-- The longest indentation shared by the lines that are not bare; empty if all are. -/
def margin (ls : List (List Char)) : List Char :=
  match (ls.filter fun l => !isBare l).map indentOf with
  | [] => []
  | i :: is => is.foldl commonStart i

/-- A line without the margin `m`. -/
def stripMargin (m line : List Char) : List Char :=
  if isBare line then [] else if m.isPrefixOf line then line.drop m.length else line

/-- The text without the margin common to its lines. -/
def dedent (s : List Char) : List Char :=
  let ls := pieces '\n' s
  joinPieces '\n' (ls.map (stripMargin (margin ls)))

/-- The text with its first line as it is and the others without the margin `m`: what dedenting makes
of a text that starts within a line. -/
def unindent (m s : List Char) : List Char :=
  match pieces '\n' s with
  | [] => []
  | l :: ls => joinPieces '\n' (l :: ls.map (stripMargin m))

end StubProxy.Text
