import StubProxy.Rule.Basic

/-!
# Writing rules

The written form of a directive: the request line, one line for each header and for the content
type, and the response line, on which the body starts. Several rules go into one file with a line of
three hyphens between each two.
-/

namespace StubProxy

open Text

/-- The line `METHOD URL`. -/
def requestLine (method url : String) : List Char := method.toList ++ ' ' :: url.toList

/-- A line `Name: value`. -/
def headerLine (header : String × String) : List Char :=
  header.1.toList ++ ':' :: ' ' :: header.2.toList

/-- The status between two spaces. -/
def statusText (status : Nat) : List Char := ' ' :: decimal status ++ [' ']

/-- The line `-> STATUS :`, in front of the body. -/
def responseLine (status : Nat) : List Char := arrow ++ statusText status ++ [':']

namespace Script

variable {α : Type}

/-- Lines, each of them ended. -/
def writeLines (S : Script α) (ls : List (List Char)) : List α :=
  ls.flatMap fun l => S.write l ++ [S.lineFeed]

/-- A rule from its parts. -/
def render (S : Script α) (method url : String) (headers : Headers) (status : Nat)
    (body : List α) : List α :=
  S.writeLines (requestLine method url :: headers.map headerLine) ++ S.write (responseLine status)
    ++ body

end Script

namespace Directive

/-- The content type as a header. -/
def contentTypeHeader (d : Directive) : Headers :=
  (d.contentType.map fun value => ("Content-Type", value)).toList

/-- The rule that writes a directive with these header lines, of the kind of its body. -/
def written (d : Directive) (headers : Headers) : Rule :=
  match d.body with
  | .text s => .text (String.ofList (textScript.render d.method d.url headers d.status s.toList))
  | .binary b => .binary (byteScript.render d.method d.url headers d.status b)

end Directive

/-- The line that separates two rules in a file, between two line breaks. -/
def Rule.separator : List Char := ['\n', '-', '-', '-', '\n']

/-- The contents of a file with these rules. -/
def Rule.contents (rules : List String) : List Char :=
  separator.intercalate (rules.map String.toList)

end StubProxy
