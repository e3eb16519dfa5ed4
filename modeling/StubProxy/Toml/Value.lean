import StubProxy.Number.Double

/-!
# TOML values

A table keeps its members in the order in which their names first occur. Dates and times are kept as
the text that shows them.
-/

namespace StubProxy

/-- A TOML value. -/
inductive Toml where
  | text (s : String)
  | integer (i : Int)
  | float (x : Double)
  | bool (b : Bool)
  /-- A date, a time, or both. -/
  | moment (shown : String)
  | array (items : List Toml)
  | table (members : List (String × Toml))

end StubProxy
