import StubProxy.Session.Run
import StubProxy.Route.Queue

/-!
# The routing table of a session

Whatever happens to a session, its table goes through operations of a routing table: registering a
directive, looking up a request, adding a passthrough beginning.

* `Step.tableOps`: the operations of a step.
* `run_table`: the table after any steps is the table after their operations.
-/

namespace StubProxy.Session

/-- The operations of a step on the routing table. -/
def Step.tableOps : Step → List TableOp
  | .add r =>
    match r.parse with
    | .ok (some d) => [.add d]
    | _ => []
  | .register d => [.add d]
  | .passthrough start => [.passthrough start]
  | .respond method url => [.lookup method url]
  | .request r => if r.method = "CONNECT" then [] else [.lookup r.method r.url]

@[simp] theorem start_table (options : Options) (address : SocketAddress) :
    (start options address).table = .empty options.strictOrder := rfl

@[simp] theorem dispatch_table (s : Session) (method url : String) :
    (s.dispatch method url).2.table = (s.table.lookup Url.normalize method url).2 := rfl

theorem tryAdd_table (s : Session) (r : Rule) :
    (s.tryAdd r).2.table = (s.table.run Url.normalize (Step.add r).tableOps).2 := by
  cases h : r.parse with
  | error e =>
    simp only [tryAdd, addRule, Step.tableOps, h]
    rfl
  | ok d =>
    cases d <;> simp only [tryAdd, addRule, Step.tableOps, h] <;> rfl

theorem handle_table (s : Session) (r : Request) :
    (s.handle r).2.table = (s.table.run Url.normalize (Step.request r).tableOps).2 := by
  unfold handle Step.tableOps
  by_cases hc : r.method = "CONNECT"
  · -- a tunnel is granted or refused without a look at the routes
    simp only [hc, if_true]
    cases r.target.authority? with
    | none => rfl
    | some a =>
      simp only [handleTunnel]
      split <;> rfl
  · simp only [hc, if_false]
    have hd := dispatch_table s r.method r.url
    cases h : s.dispatch r.method r.url with
    | mk decision s' =>
      rw [h] at hd
      cases decision <;> exact hd

/-- **One step** on the table. -/
theorem step_table (s : Session) (x : Step) :
    (s.step x).2.table = (s.table.run Url.normalize x.tableOps).2 := by
  cases x with
  | add r => exact tryAdd_table s r
  | register d => rfl
  | passthrough start => rfl
  | respond method url => rfl
  | request r => exact handle_table s r

end StubProxy.Session

namespace StubProxy

theorem Table.run_append (norm : String → String) (t : Table) (ops ops' : List TableOp) :
    (t.run norm (ops ++ ops')).2 = ((t.run norm ops).2.run norm ops').2 := by
  induction ops generalizing t with
  | nil => rfl
  | cons op ops ih => exact ih _

/-- **The table of a run** is the table after the operations of its steps. -/
theorem Session.run_table (s : Session) (xs : List Session.Step) :
    (s.run xs).2.table = (s.table.run Url.normalize (xs.flatMap Session.Step.tableOps)).2 := by
  induction xs generalizing s with
  | nil => rfl
  | cons x xs ih =>
    rw [List.flatMap_cons, Table.run_append, ← Session.step_table]
    exact ih _

end StubProxy
