import StubProxy.Error
import StubProxy.Text.Split

/-!
# Files

What reading paths gives, and the working directory of a few files, in which paths start.
-/

namespace StubProxy

open Text

/-- A file as it is found: its bytes, or why there are none. -/
abbrev FileContents := Except SystemError (List UInt8)

/-- What reading a path gives. -/
abbrev FileSystem := String → FileContents

/-- The names of files with their bytes. -/
abbrev Directory := List (String × List UInt8)

namespace Directory

/-- The parts of a path, without those that lead nowhere. -/
def pathParts (path : String) : List (List Char) :=
  (pieces '/' path.toList).filter fun p => p ≠ [] && p ≠ ['.']

/-- A path without the parts that lead nowhere. -/
def plainPath (path : String) : String := String.ofList (joinPieces '/' (pathParts path))

/-- Whether a path insists on a directory by its end. -/
def endsInDirectory (path : String) : Bool :=
  (pieces '/' path.toList).getLast? ∈ [some [], some ['.']]

/-- The file at a path. Nothing is found outside the directory. -/
def read (dir : Directory) : FileSystem := fun path =>
  let parts := pathParts path
  if path = "" then .error .notFound
  else if parts.all (· = ['.', '.']) then .error .isADirectory
  else if path.startsWith "/" then .error .notFound
  else match dir.find? fun f => pathParts f.1 = parts with
    | some f => if endsInDirectory path then .error .notADirectory else .ok f.2
    | none =>
      if dir.any fun f => (pathParts f.1).isPrefixOf parts then .error .notADirectory
      else if dir.any fun f => parts.isPrefixOf (pathParts f.1) then .error .isADirectory
      else .error .notFound

end Directory

end StubProxy
