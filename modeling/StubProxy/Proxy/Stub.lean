import StubProxy.Proxy.Message
import StubProxy.Rule.Grammar

/-!
# Stubbed responses

The response that a directive describes: its status and body, its effective content type, and its
headers in order, each taking the place of an earlier one of the same name. Headers that may not be
sent are left out. A directive with a status that cannot end an exchange gives an error response.
-/

namespace StubProxy.Directive

open Text

/-- The headers of the response in order, with those that may not be sent. -/
def declaredFields (d : Directive) : List (String × String) :=
  ("content-type", d.effectiveContentType) :: d.headerList

/-- Sets a header if it may be sent. -/
def setField (fs : Fields) (header : String × String) : Fields :=
  match Field.read header.1 (Utf8.encode header.2.toList) with
  | some f => fs.insert f
  | none => fs

/-- The response that a directive describes. -/
def response (d : Directive) : Response :=
  if isFinalStatus d.status then ⟨d.status, d.declaredFields.foldl setField [], d.body.bytes⟩
  else .plain 500 ("Invalid status in directive: " ++ String.ofList (decimal d.status))

end StubProxy.Directive
