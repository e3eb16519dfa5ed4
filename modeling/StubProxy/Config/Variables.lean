import StubProxy.Config.Setting

/-!
# Settings from the environment

A variable whose name begins with the prefix gives a setting, in letters of any size; two
underscores stand for a point. Words for truth and numbers are taken as such, all else as text.
-/

namespace StubProxy

open Text

/-- A variable of the environment: its name and value. -/
abbrev Variable := String × String

/-- How the names of variables with settings begin. -/
def variablePrefix : List Char := "responsemock_".toList

/-- Two underscores become a point. -/
def pointed : List Char → List Char
  | '_' :: '_' :: s => '.' :: pointed s
  | c :: s => c :: pointed s
  | [] => []

/-- The key of the setting that a variable gives, if it gives one. -/
def variableKey (name : String) : Option String :=
  let name := lower name.toList
  if variablePrefix.isPrefixOf name then
    some (String.ofList (pointed (name.drop variablePrefix.length)))
  else none

/-- A whole number of 64 bits with a sign, if it is written as one. -/
def readWord64 (s : List Char) : Option Int :=
  let (negative, ds) := Double.splitSign s
  if ds = [] then none
  else match readDigits 10 digit? 0 ds with
    | some n =>
      let i : Int := if negative then -n else n
      if isWord64 i then some i else none
    | none => none

/-- The scalar that a value writes. -/
def readVariable (value : String) : Scalar :=
  let s := value.toList
  let word := lower s
  if word = "true".toList then .bool true
  else if word = "false".toList then .bool false
  else match readWord64 s, Double.read s with
    | some i, _ => .integer i
    | none, some x => .float x
    | none, none => .text value

/-- The settings of one variable over those that are there. -/
def Setting.addVariable (s : Setting) (v : Variable) : Setting :=
  match variableKey v.1 with
  | some key => s.putKey key (.scalar .environment (readVariable v.2))
  | none => s

/-- The settings of the environment over those that are there. -/
def Setting.addVariables (vs : List Variable) (s : Setting) : Setting :=
  vs.foldl Setting.addVariable s

end StubProxy
