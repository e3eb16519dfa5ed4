import StubProxy.Rule.Parts

/-!
# Header blocks

A rule put together from its lines: the request line, further lines in any number, and the response.
What each of them says is told without reading the rule.

* `Script.block`: the rule that lines and a response make.
* `Script.Responds`: the status and the body of a response.
* `Script.kept`: the lines that declare something.
* `Script.IsBlock`: lines and a response that make a rule.
-/

namespace StubProxy

open Text

namespace Script

variable {α : Type}

/-- The rule with these lines, the last of which the arrow ends, and this response behind it. -/
def block (S : Script α) (request : List α) (lines : List (List α)) (response : List α) : List α :=
  joinPieces S.lineFeed (request :: lines) ++ S.write arrow ++ response

/-- A response gives a status that can end an exchange, and behind the first colon the body. -/
def Responds (S : Script α) (response : List α) (n : Nat) (body : List α) : Prop :=
  200 ≤ n ∧ n ≤ 999 ∧ ∃ status, UpTo S.colon response status body ∧
    Writes16 (Text.trim Text.isBlank (S.read status)) n

variable [DecidableEq α]

/-- The lines that declare something. -/
def kept (S : Script α) (lines : List (List α)) : List (List α) :=
  lines.filter fun l => (S.readHeader l).isSome

/-- A request line with a method and a URL, any further lines, none of them with a line break or an
arrow in it, and a response. -/
structure IsBlock (S : Script α) (request : List α) (lines : List (List α)) (response : List α)
    (method url : String) (n : Nat) (body : List α) : Prop where
  no_lineFeed : ∀ l ∈ request :: lines, S.lineFeed ∉ l
  no_arrow : ∀ l ∈ request :: lines, ¬ S.write arrow <:+: l
  words : (S.words request).map S.toString = [method, url]
  response : S.Responds response n body

end Script

end StubProxy
