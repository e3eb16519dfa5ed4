/-!
# Calls

The history of a session: one entry for each request, in order.
-/

namespace StubProxy

/-- How a request was answered. -/
inductive Outcome where
  | stubbed (status : Nat)
  | passthrough
  | unmatched
  deriving DecidableEq

/-- One request with its outcome. -/
structure Call where
  method : String
  url : String
  outcome : Outcome
  deriving DecidableEq

namespace Call

/-- Whether nothing matched the request. -/
def isUnmatched (c : Call) : Bool := c.outcome = .unmatched

/-- Method and URL in one line. -/
def summary (c : Call) : String := c.method ++ " " ++ c.url

end Call

end StubProxy
