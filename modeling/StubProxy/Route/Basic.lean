import StubProxy.Directive

/-!
# Routes

A route is a registered directive together with the number of times it has been served. Requests
find their routes by key: the method and the normal form of the URL.

The normal form is a parameter, `norm`: routing works the same for any function on texts.
-/

namespace StubProxy

/-- What a request is looked up by: its method and the normal form of its URL. -/
abbrev Key := String × String

/-- The key of a request. -/
def Key.of (norm : String → String) (method url : String) : Key := (method, norm url)

/-- A registered directive with the number of its calls. -/
structure Route where
  directive : Directive
  matchUrl : String
  calls : Nat

namespace Route

/-- A route that has not been served yet. -/
def new (norm : String → String) (d : Directive) : Route := ⟨d, norm d.url, 0⟩

/-- The key that the route answers. -/
def key (r : Route) : Key := (r.directive.method, r.matchUrl)

/-- Whether the route answers a request. -/
def answers (norm : String → String) (r : Route) (method url : String) : Bool :=
  r.key = Key.of norm method url

/-- Whether the route has been served. -/
def isFired (r : Route) : Bool := 0 < r.calls

/-- The route after one more call. -/
def fire (r : Route) : Route := { r with calls := r.calls + 1 }

@[simp] theorem fire_directive (r : Route) : r.fire.directive = r.directive := rfl

@[simp] theorem fire_key (r : Route) : r.fire.key = r.key := rfl

@[simp] theorem fire_calls (r : Route) : r.fire.calls = r.calls + 1 := rfl

@[simp] theorem isFired_fire (r : Route) : r.fire.isFired := by simp [isFired]

@[simp] theorem isFired_new (norm : String → String) (d : Directive) :
    (new norm d).isFired = false := rfl

/-- Method and matched URL in one line. -/
def summary (r : Route) : String := r.directive.method ++ " " ++ r.matchUrl

end Route

end StubProxy
