import StubProxy.Route.Basic
import StubProxy.Url.Basic

/-!
# The routing table

The table serves its routes in one of two orders.

* In loose order a request is served by the first route of its key that has not been served, and
  once all have been, by the last one again and again.
* In strict order only the route at the cursor can be served, and each once.

`Table.choose` says which route a request is served from, `Table.lookup` serves it. URLs that begin
with one of the passthrough beginnings are left to the network.
-/

namespace StubProxy

/-- Routes in the order of registration, and the beginnings of the URLs that are not stubbed. -/
structure Table where
  strict : Bool
  routes : List Route
  passthrough : List String
  cursor : Nat

namespace Table

/-- A table without routes. -/
def empty (strict : Bool) : Table := ⟨strict, [], [], 0⟩

/-- Registers a directive. -/
def add (norm : String → String) (d : Directive) (t : Table) : Table :=
  { t with routes := t.routes ++ [Route.new norm d] }

/-- Leaves the URLs that begin with `start` to the network. -/
def addPassthrough (start : String) (t : Table) : Table :=
  { t with passthrough := t.passthrough ++ [start] }

/-- Forgets routes and passthrough beginnings. -/
def clear (t : Table) : Table := empty t.strict

/-- The position of the last element that satisfies `p`. -/
def lastIndex? {α : Type} (p : α → Bool) : List α → Option Nat
  | [] => none
  | a :: l =>
    match lastIndex? p l with
    | some i => some (i + 1)
    | none => if p a then some 0 else none

/-- The position of the route that answers a key in loose order. -/
def chooseLoose (routes : List Route) (k : Key) : Option Nat :=
  (routes.findIdx? fun r => r.key = k && !r.isFired).or (lastIndex? (fun r => r.key = k) routes)

/-- The position of the route that answers a key in strict order. -/
def chooseStrict (routes : List Route) (cursor : Nat) (k : Key) : Option Nat :=
  if (routes[cursor]?).any fun r => r.key = k then some cursor else none

/-- The position of the route that answers a key. -/
def choose (t : Table) (k : Key) : Option Nat :=
  if t.strict then chooseStrict t.routes t.cursor k else chooseLoose t.routes k

/-- The table after the route at a position was served. -/
def fireAt (t : Table) (i : Nat) : Table :=
  { t with
    routes := t.routes.modify i Route.fire
    cursor := if t.strict then t.cursor + 1 else t.cursor }

/-- The directive that answers a key, and the table with the call counted. -/
def serve (t : Table) (k : Key) : Option Directive × Table :=
  match t.choose k with
  | none => (none, t)
  | some i => ((t.routes[i]?).map (·.directive), t.fireAt i)

/-- The directive that answers a request, and the table with the call counted. -/
def lookup (norm : String → String) (method url : String) (t : Table) : Option Directive × Table :=
  t.serve (Key.of norm method url)

/-- The routes that have never been served. -/
def unfired (t : Table) : List Route := t.routes.filter fun r => !r.isFired

/-- Whether a URL is left to the network. -/
def isPassthrough (t : Table) (url : String) : Bool :=
  t.passthrough.any fun start => start.toList.isPrefixOf url.toList

/-- Whether a passthrough beginning is a URL of this host and port. -/
def isPassthroughAuthority (t : Table) (host : String) (port : Nat) : Bool :=
  t.passthrough.any fun start =>
    (Url.parse start.toList).any fun u =>
      (u.host.any fun h => h.toText = host.toList) && u.effectivePort = some port

end Table

end StubProxy
