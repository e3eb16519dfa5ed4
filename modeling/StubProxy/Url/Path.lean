import StubProxy.Url.Percent
import StubProxy.Text.Split

/-!
# Paths

A path is read segment by segment. Segments `.` vanish and segments `..` take away the one before
them, also when the dots are percent-encoded. Drive letters are kept: no `..` removes one, and at
the front of a file path `C|` is written `C:`.
-/

namespace StubProxy.Url

open Text

/-- One dot, plain or encoded. -/
def isSingleDot (s : List Char) : Bool := s.map Char.toLower ∈ ["." , "%2e"].map String.toList

/-- Two dots, plain or encoded. -/
def isDoubleDot (s : List Char) : Bool :=
  s.map Char.toLower ∈ ["..", ".%2e", "%2e.", "%2e%2e"].map String.toList

/-- A letter followed by a colon or a bar. -/
def isDriveLetter : List Char → Bool
  | [a, b] => a.isAlpha && (b = ':' || b = '|')
  | _ => false

/-- A drive letter, and after it nothing or what would end a segment somewhere. -/
def startsWithDrive (s : List Char) : Bool :=
  isDriveLetter (s.take 2) && (s.drop 2).head?.all (· ∈ ['/', '\\', '?', '#'])

/-- The segments before the one being read, last first, and whether a host goes with the path. -/
structure Trail where
  segments : List (List Char)
  hasHost : Bool

/--
Adds a segment. `atEnd` tells that no slash follows it; then a dot segment leaves an empty last
segment. At the front of a file path a drive letter is normalized, and the host is given up.
-/
def Trail.add (isFile atEnd : Bool) (t : Trail) (s : List Char) : Trail :=
  if isDoubleDot s then
    let kept := match t.segments with
      | [] => []
      | last :: before => if startsWithDrive (last ++ ['/']) then last :: before else before
    { t with segments := if atEnd then [] :: kept else kept }
  else if isSingleDot s then
    { t with segments := if atEnd then [] :: t.segments else t.segments }
  else if isFile && t.segments.isEmpty && isDriveLetter s then
    ⟨[s.take 1 ++ [':']], false⟩
  else { t with segments := s :: t.segments }

/-- Adds segments, the last of which no slash follows. -/
def Trail.addAll (isFile : Bool) (t : Trail) : List (List Char) → Trail
  | [] => t
  | [s] => t.add isFile true s
  | s :: s' :: ss => (t.add isFile false s).addAll isFile (s' :: ss)

/-- The text of the path, each segment with a slash in front. -/
def Trail.toText (t : Trail) : List Char := t.segments.reverse.flatMap ('/' :: ·)

/-- The segments of a text; URLs of the web also end a segment with a backslash. -/
def rawSegments (special : Bool) (s : List Char) : List (List Char) :=
  pieces '/' (if special then s.map fun c => if c = '\\' then '/' else c else s)

/-- The trail of a path from the text behind its first slash. -/
def readPath (special isFile hasHost : Bool) (s : List Char) : Trail :=
  Trail.addAll isFile ⟨[], hasHost⟩ ((rawSegments special s).map (percentEncode inPath))

end StubProxy.Url
