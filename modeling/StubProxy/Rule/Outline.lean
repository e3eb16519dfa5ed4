import StubProxy.Rule.Parts

/-!
# The outline of a rule

What a rule says, taken apart but not judged: nothing in an outline is wrong yet. Reading a rule is
outlining and judging, so that two rules with one outline are read alike.

* `Script.outline`: the words of the request line, what the header lines declare, the status and the
  body. Lines are what stands between line feeds, in either script.
* `Script.judge`: the directive of an outline, or which part of it is wrong.
-/

namespace StubProxy

open Text

/-- What a rule says. Status and body are still written in the symbols of the rule. -/
structure Outline (α : Type) where
  words : List String
  headers : Headers
  status : List α
  body : List α

/-- The outline with its status and its body written in other symbols. -/
def Outline.map {α β : Type} (φ : List α → List β) (o : Outline α) : Outline β :=
  ⟨o.words, o.headers, φ o.status, φ o.body⟩

namespace Script

variable {α : Type}

/-- The directive that an outline makes. -/
def judge (S : Script α) (o : Outline α) : Except RuleError Directive :=
  match o.words with
  | [method, url] => (readStatus (S.read o.status)).map fun n =>
      o.headers.foldl Directive.declare (.new method url n (S.body o.body))
  | words => .error (.malformedRequestLine words)

theorem judge_of_words {S : Script α} {o : Outline α} (h : ∀ method url, o.words ≠ [method, url]) :
    S.judge o = .error (.malformedRequestLine o.words) := by
  unfold judge
  split
  · rename_i method url hw
    exact absurd hw (h method url)
  · rfl

variable [DecidableEq α]

/-- The words in front of the first line feed. -/
def firstWords (S : Script α) (request : List α) : List String :=
  (S.words ((pieces S.lineFeed request).headD [])).map S.toString

/-- What the lines behind the first line feed declare. -/
def declared (S : Script α) (request : List α) : Headers :=
  (pieces S.lineFeed request).tail.filterMap S.readHeader

/-- The outline of a rule; a rule without an arrow has none. -/
def outline (S : Script α) (rule : List α) : Option (Outline α) :=
  (S.split arrow (S.trim rule)).map fun p =>
    ⟨S.firstWords p.1, S.declared p.1, (S.splitAtColon p.2).1, (S.splitAtColon p.2).2⟩

end Script

end StubProxy
