import StubProxy.Route.Table

/-!
# Queues of directives

What loose order looks like from outside: for each key a queue of directives waiting to be served
and the one that was served last, which answers when nothing waits. Directives are told apart by the
number of registrations before them, since two of them may be equal.

* `Table.run` and `Queues.run`: the same operations on a table and on queues.
* `servings`: what the queues served since they were last cleared, in order.
-/

namespace StubProxy

/-- A directive with the number of those registered before it. -/
structure Registration where
  number : Nat
  directive : Directive

/-- The key that the directive answers. -/
def Registration.key (norm : String → String) (r : Registration) : Key :=
  Key.of norm r.directive.method r.directive.url

/-- The directives of one key. -/
structure Queue where
  waiting : List Registration
  last : Option Registration

namespace Queue

/-- No directive was ever registered. -/
def empty : Queue := ⟨[], none⟩

/-- One more directive at the end. -/
def push (r : Registration) (q : Queue) : Queue := { q with waiting := q.waiting ++ [r] }

/-- The front of the queue, which is then the last served; if nothing waits, the last served. -/
def take (q : Queue) : Option Registration × Queue :=
  match q.waiting with
  | [] => (q.last, q)
  | r :: rs => (some r, ⟨rs, some r⟩)

end Queue

/-- A queue for each key, and the number of all registrations. -/
structure Queues where
  size : Nat
  queue : Key → Queue

namespace Queues

/-- All queues empty. -/
def empty : Queues := ⟨0, fun _ => .empty⟩

/-- Changes the queue of one key. -/
def set (qs : Queues) (k : Key) (q : Queue) : Queues :=
  { qs with queue := fun k' => if k' = k then q else qs.queue k' }

/-- Registers a directive under its key. -/
def add (norm : String → String) (d : Directive) (qs : Queues) : Queues :=
  let k := Key.of norm d.method d.url
  { qs.set k ((qs.queue k).push ⟨qs.size, d⟩) with size := qs.size + 1 }

/-- Answers a key from its queue. -/
def serve (qs : Queues) (k : Key) : Option Registration × Queues :=
  let (r, q) := (qs.queue k).take
  (r, qs.set k q)

end Queues

/-- What can be done to a routing table. -/
inductive TableOp where
  | add (d : Directive)
  | lookup (method url : String)
  | passthrough (start : String)
  | clear

/-- One operation on a table; lookups answer. -/
def Table.step (norm : String → String) (t : Table) : TableOp → Option Directive × Table
  | .add d => (none, t.add norm d)
  | .lookup method url => t.lookup norm method url
  | .passthrough start => (none, t.addPassthrough start)
  | .clear => (none, t.clear)

/-- The same operation on queues. -/
def Queues.step (norm : String → String) (qs : Queues) : TableOp → Option Registration × Queues
  | .add d => (none, qs.add norm d)
  | .lookup method url => qs.serve (Key.of norm method url)
  | .passthrough _ => (none, qs)
  | .clear => (none, .empty)

/-- The answers to operations in order, and the table after them. -/
def Table.run (norm : String → String) (t : Table) : List TableOp → List (Option Directive) × Table
  | [] => ([], t)
  | op :: ops =>
    let (d, t) := t.step norm op
    let (ds, t) := t.run norm ops
    (d :: ds, t)

/-- The answers to operations in order, and the queues after them. -/
def Queues.run (norm : String → String) (qs : Queues) :
    List TableOp → List (Option Registration) × Queues
  | [] => ([], qs)
  | op :: ops =>
    let (r, qs) := qs.step norm op
    let (rs, qs) := Queues.run norm qs ops
    (r :: rs, qs)

/-- What was served since the last clear, after one more operation and its answer. -/
def serving (served : List Registration) : TableOp → Option Registration → List Registration
  | .clear, _ => []
  | _, answer => served ++ answer.toList

/-- What was served since the last clear, from the operations and their answers in order. -/
def servings (served : List Registration) :
    List TableOp → List (Option Registration) → List Registration
  | op :: ops, answer :: answers => servings (serving served op answer) ops answers
  | _, _ => served

end StubProxy
