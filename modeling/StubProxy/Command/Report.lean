import StubProxy.Error

/-!
# Reports of failed commands

A command that fails shows its error and the causes behind it, each indented, and numbered if there
are several.
-/

namespace StubProxy

open Text

/-- An error with the causes behind it, the nearest first. -/
structure Report where
  message : String
  causes : List String
  deriving DecidableEq

namespace Report

/-- The causes behind an error. -/
def causesOf : Error → List String
  | .rule (.malformedStatus _ fault) => [fault.message]
  | .io e => [e.message]
  | _ => []

/-- The report of an error. -/
def ofError (e : Error) : Report := ⟨e.message, causesOf e⟩

/-- The report of an error that something else failed with. -/
def within (doing : String) (e : Error) : Report := ⟨doing, e.message :: causesOf e⟩

/-- The lines of numbered causes. -/
def numbered (n : Nat) : List String → String
  | [] => ""
  | c :: cs => "    " ++ String.ofList (decimal n) ++ ": " ++ c ++ "\n" ++ numbered (n + 1) cs

/-- The lines of the causes. -/
def causeLines : List String → String
  | [c] => "    " ++ c ++ "\n"
  | cs => numbered 0 cs

/-- The text of a report. -/
def toText (r : Report) : String :=
  "Error: " ++ r.message ++ "\n"
    ++ if r.causes = [] then "" else "\nCaused by:\n" ++ causeLines r.causes

end Report

end StubProxy
