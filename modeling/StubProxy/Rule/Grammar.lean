import StubProxy.Rule.Script
import StubProxy.Text.Quoted

/-!
# The grammar of rules

    METHOD URL
    Name: value

    -> STATUS :BODY

The request line and any header lines stand before the first arrow. Behind it come the status, and
after the first colon the body, which goes on to the end of the rule.

* `Script.parse` reads a rule or tells which part of it is wrong, the first in this order: arrow,
  request line, form of the status, range of the status. No header line and no body is ever wrong.
-/

namespace StubProxy

open Text

/-- What is wrong with a rule. -/
inductive RuleError where
  /-- There is no arrow. -/
  | missingArrow (rule : String)
  /-- The request line has not two words. -/
  | malformedRequestLine (words : List String)
  /-- The status is no number. -/
  | malformedStatus (text : String) (reason : NumeralFault)
  /-- No response can end with this status. -/
  | invalidStatus (status : Nat)
  deriving DecidableEq

/-- The wording of an error. -/
def RuleError.message : RuleError → String
  | missingArrow rule => "Rule has no `->` response marker: " ++ quoted rule
  | malformedRequestLine words =>
    "Unsupported directives: " ++ quotedList words ++ ". Expected: HTTP_METHOD URL"
  | malformedStatus text reason =>
    "Invalid status " ++ quoted text ++ ": " ++ reason.message
  | invalidStatus status =>
    "Status code out of range: " ++ String.ofList (decimal status)

/-- The statuses that a response can end with. -/
def isFinalStatus (n : Nat) : Bool := 200 ≤ n && n ≤ 999

/-- What separates the request from the response. -/
def arrow : List Char := ['-', '>']

/-- Name and value of a header line; lines without a value do not count. -/
def Script.readHeader {α : Type} [DecidableEq α] (S : Script α) (line : List α) :
    Option (String × String) :=
  let (name, value) := S.splitAtColon (S.trim line)
  if S.trim value = [] then none
  else some (S.toString (S.trim name), S.toString (S.trim value))

/-- What the header lines of a rule have declared so far. -/
structure Declared where
  headers : Headers
  contentType : Option String

namespace Declared

/-- Nothing is declared yet. -/
def empty : Declared := ⟨[], none⟩

/-- One more header line. Only the exact name `Content-Type` is the content type. -/
def add (t : Declared) (header : String × String) : Declared :=
  if header.1 = "Content-Type" then { t with contentType := some header.2 }
  else { t with headers := t.headers.insert header.1 header.2 }

/-- What header lines declare, one after the other. -/
def ofHeaders (hs : Headers) : Declared := hs.foldl add empty

end Declared

/-- The number that a status text writes. -/
def readStatus (text : List Char) : Except RuleError Nat :=
  match readWord16 (trim isBlank text) with
  | .error reason => .error (.malformedStatus (String.ofList text) reason)
  | .ok n => if isFinalStatus n then .ok n else .error (.invalidStatus n)

namespace Script

variable {α : Type} [DecidableEq α]

/-- The request line, and the header lines below it. -/
def requestLines (S : Script α) (request : List α) : List α × List (List α) :=
  if S.lineFeed ∈ request then
    match S.lines request with
    | [] => (request, [])
    | line :: rest => (line, rest)
  else (request, [])

/-- Reads a rule. -/
def parse (S : Script α) (source : List α) : Except RuleError Directive :=
  let rule := S.trim source
  match S.split arrow rule with
  | none => .error (.missingArrow (S.toString rule))
  | some (request, response) =>
    let (line, headerLines) := S.requestLines request
    let declared := Declared.ofHeaders (headerLines.filterMap S.readHeader)
    match S.words line with
    | [method, url] =>
      let (status, body) := S.splitAtColon response
      match readStatus (S.read status) with
      | .error e => .error e
      | .ok n =>
        .ok {
          method := S.toString method
          url := S.toString url
          status := n
          body := S.body body
          headers := declared.headers.unlessEmpty
          contentType := declared.contentType }
    | words => .error (.malformedRequestLine (words.map S.toString))

end Script

end StubProxy
