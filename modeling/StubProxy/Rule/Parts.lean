import StubProxy.Rule.Grammar

/-!
# The parts of a rule

What a rule means, as a relation that reads nothing: how a rule falls into parts, and which parts
make a directive. The header lines and the body have no condition to meet.

* `Script.Parts`: the request line, the header lines, the status text and the body of a rule.
* `Script.Declares`: the header that a line declares.
* `Script.Reads`: the directive that a rule is read as, but for its headers, or the error that
  names the first of its parts that is wrong.
-/

namespace StubProxy

open Text

/-- The directive without its headers and its content type. -/
def Directive.bare (d : Directive) : Directive := .new d.method d.url d.status d.body

/-- The directive with what one more header line declares. -/
def Directive.declare (d : Directive) (header : String × String) : Directive :=
  if header.1 = "Content-Type" then d.withContentType header.2
  else d.withHeader header.1 header.2

namespace Script

variable {α : Type} [DecidableEq α]

/--
The rule between its blank ends, cut at the first arrow; what stands before it cut at the first line
break, and what stands behind it at the first colon.
-/
def Parts (S : Script α) (rule line headerLines status body : List α) : Prop :=
  ∃ request response, CutAt (S.write arrow) (S.trim rule) request response ∧
    UpTo S.lineFeed request line headerLines ∧ UpTo S.colon response status body

/-- What a line below the request line declares, if it does: it holds a colon, and what stands behind
the first one is not blank. -/
def Declares (S : Script α) (line : List α) (h : String × String) : Prop :=
  ∃ name value, S.colon ∉ name ∧ line = name ++ S.colon :: value ∧ S.trim value ≠ [] ∧
    h = (S.toString (S.trim name), S.toString (S.trim value))

/-- What a rule is read as. -/
inductive Reads (S : Script α) (rule : List α) : Except RuleError Directive → Prop
  | noArrow : ¬ S.write arrow <:+: S.trim rule →
      S.Reads rule (.error (.missingArrow (S.toString (S.trim rule))))
  | wrongWords {line headerLines status body : List α} :
      S.Parts rule line headerLines status body → (S.words line).length ≠ 2 →
      S.Reads rule (.error (.malformedRequestLine ((S.words line).map S.toString)))
  | noNumeral {line headerLines status body method url : List α} {fault : NumeralFault} :
      S.Parts rule line headerLines status body → S.words line = [method, url] →
      fault.Explains (Text.trim Text.isBlank (S.read status)) →
      S.Reads rule (.error (.malformedStatus (S.toString status) fault))
  | outOfRange {line headerLines status body method url : List α} {n : Nat} :
      S.Parts rule line headerLines status body → S.words line = [method, url] →
      Writes16 (Text.trim Text.isBlank (S.read status)) n → n < 200 ∨ 999 < n →
      S.Reads rule (.error (.invalidStatus n))
  | accepted {line headerLines status body method url : List α} {n : Nat} :
      S.Parts rule line headerLines status body → S.words line = [method, url] →
      Writes16 (Text.trim Text.isBlank (S.read status)) n → 200 ≤ n → n ≤ 999 →
      S.Reads rule (.ok (.new (S.toString method) (S.toString url) n (S.body body)))

end Script

end StubProxy
