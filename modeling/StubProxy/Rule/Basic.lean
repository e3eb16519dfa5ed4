import StubProxy.Rule.Grammar
import StubProxy.Text.Margin

/-!
# Rules and rule lists

A rule of length zero is a placeholder and stands for no directive. Text rules lose their common
margin before they are read, so that they can be written as indented blocks.
-/

namespace StubProxy

open Text

/-- A stubbing rule. -/
inductive Rule where
  | text (s : String)
  | binary (b : List UInt8)
  deriving DecidableEq

namespace Rule

/-- Whether the rule has length zero. -/
def isEmpty : Rule → Bool
  | text s => s.toList.isEmpty
  | binary b => b.isEmpty

/-- A text rule; `none` for the empty one. -/
def parseText (s : List Char) : Except RuleError (Option Directive) :=
  if s = [] then .ok none else (textScript.parse (dedent s)).map some

/-- A binary rule; `none` for the empty one. -/
def parseBytes (b : List UInt8) : Except RuleError (Option Directive) :=
  if b = [] then .ok none else (byteScript.parse b).map some

/-- The directive that a rule writes; `none` for the empty rule. -/
def parse : Rule → Except RuleError (Option Directive)
  | text s => parseText s.toList
  | binary b => parseBytes b

/-- The directives of a list of rules, or the error of the first bad rule. -/
def directives : List Rule → Except RuleError (List Directive)
  | [] => .ok []
  | r :: rs =>
    match r.parse with
    | .error e => .error e
    | .ok none => directives rs
    | .ok (some d) => (directives rs).map (d :: ·)

end Rule

end StubProxy
