import StubProxy.Rule.Basic
import StubProxy.Directory

/-!
# Rule files

A rule file holds text rules with lines of three hyphens between them. What is blank between two
such lines is no rule.
-/

namespace StubProxy.Rule

open Text

/-- A line that separates two rules. -/
def isSeparator (line : List Char) : Bool := trim isBlank line = ['-', '-', '-']

/-- Puts one more line in front of the first group. -/
def consLine (line : List Char) : List (List (List Char)) → List (List (List Char))
  | [] => [[line]]
  | g :: gs => (line :: g) :: gs

/-- The groups of lines between the separators. -/
def groups : List (List Char) → List (List (List Char))
  | [] => [[]]
  | line :: ls => if isSeparator line then [] :: groups ls else consLine line (groups ls)

/-- The text of a group, each line ended. -/
def groupText (g : List (List Char)) : List Char := g.flatMap (· ++ ['\n'])

/-- The rules of a file's contents. -/
def ofFile (contents : List Char) : List Rule :=
  let texts := (groups (lines '\n' '\r' contents)).map groupText
  (texts.filter (trim isBlank · ≠ [])).map fun t => text (String.ofList t)

/-- The rules of a file from its bytes. -/
def ofBytes (b : List UInt8) : Except IoError (List Rule) :=
  match Utf8.decode? b with
  | some s => .ok (ofFile s)
  | none => .error .notUtf8

/-- The rules of one file. -/
def load : FileContents → Except IoError (List Rule)
  | .ok b => ofBytes b
  | .error e => .error (.system e)

/-- The rules of several files in order, or the error of the first that cannot be read. -/
def loadAll : List FileContents → Except IoError (List Rule)
  | [] => .ok []
  | f :: fs =>
    match load f with
    | .error e => .error e
    | .ok rs => (loadAll fs).map (rs ++ ·)

end StubProxy.Rule
