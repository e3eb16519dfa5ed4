import Mathlib.Algebra.Ring.Nat
import StubProxy.Proofs.Effects
import StubProxy.Proofs.SessionTable

/-!
# Calls and history agree

The routes of a table count their calls, and the history of a session keeps one entry for each
request. Both are written by different parts of a session.

* `callsOf_fireAt`: serving a route is one call of its key and of no other.
* `run_balanced`: for every key, the calls of its routes are the entries of that key that were
  answered from a directive.
* `calls_conserved` says this of every point of a session, and what one more step changes there.
-/

namespace StubProxy

/-- The calls of all routes of a key. -/
def Table.callsOf (t : Table) (k : Key) : Nat :=
  ((t.routes.filter fun r => r.key = k).map (·.calls)).sum

/-- The entries of a key that were answered from a directive. -/
def stubbedOf (calls : List Call) (k : Key) : Nat :=
  calls.countP fun c => c.isStubbed && c.key = k

variable {t : Table} {k : Key}

/-- One more call of the route at a position is one more call of its key. -/
theorem Table.callsOf_fireAt {i : Nat} {r : Route} (hr : t.routes[i]? = some r) (k : Key) :
    (t.fireAt i).callsOf k = t.callsOf k + if r.key = k then 1 else 0 := by
  obtain ⟨a, b, ht, hfire⟩ := t.fireAt_split hr
  unfold callsOf
  rw [hfire, ht]
  by_cases hk : r.key = k
  · simp only [List.filter_append, List.filter_cons, Route.fire_key, hk, decide_true, if_true,
      List.map_append, List.map_cons, Route.fire_calls, List.sum_append, List.sum_cons]
    omega
  · simp [hk]

/-- A new route has no calls. -/
theorem sum_calls_new (routes : List Route) (new : Option Directive) (k : Key) :
    (((routes ++ (new.map (Route.new Url.normalize)).toList).filter fun r => r.key = k).map
      (·.calls)).sum = ((routes.filter fun r => r.key = k).map (·.calls)).sum := by
  cases new with
  | none => simp
  | some d =>
    have hzero : (Route.new Url.normalize d).calls = 0 := rfl
    by_cases hk : (Route.new Url.normalize d).key = k <;> simp [hk, hzero]

theorem stubbedOf_append (calls : List Call) (c : Call) (k : Key) :
    stubbedOf (calls ++ [c]) k = stubbedOf calls k + if c.isStubbed ∧ c.key = k then 1 else 0 := by
  unfold stubbedOf
  rw [List.countP_append, List.countP_singleton]
  by_cases hc : c.isStubbed ∧ c.key = k
  · simp [hc]
  · rw [if_neg hc, if_neg (by simpa using hc)]

namespace Session

variable {s : Session} {x : Step}

/-- Calls and history agree on every key. -/
def Balanced (s : Session) : Prop := ∀ k, s.table.callsOf k = stubbedOf s.calls k

theorem balanced_start (options : Options) (address : SocketAddress) :
    (start options address).Balanced := fun _ => rfl

/-- A request is looked up under the key of its entry. -/
theorem key_of_asked {method url : String} {outcome : Outcome}
    (hx : x.recorded = some (method, url)) (hk : x.asked = some k) :
    (⟨method, url, outcome⟩ : Call).key = k := by
  cases x with
  | respond m u =>
    obtain ⟨rfl, rfl⟩ := Prod.mk.inj (Option.some.inj hx)
    exact Option.some.inj hk
  | request r =>
    simp only [Step.recorded, Step.asked] at hx hk
    by_cases hm : r.method = "CONNECT"
    · simp [hm] at hk
    · rw [if_neg hm] at hx hk
      obtain ⟨rfl, rfl⟩ := Prod.mk.inj (Option.some.inj hx)
      exact Option.some.inj hk
  | _ => simp [Step.recorded] at hx

/-- **A step keeps calls and history in agreement.** -/
theorem step_balanced (h : s.Balanced) (x : Step) : (s.step x).2.Balanced := by
  intro k
  cases hx : x.recorded with
  | none =>
    rw [step_silent hx]
    change _ = stubbedOf s.calls k
    rw [← h k]
    exact sum_calls_new _ _ k
  | some q =>
    rcases step_cases s hx with ⟨i, r, hasked, -, hr, hs⟩ | ⟨-, outcome, ho, hs, -⟩
    · rw [hs]
      simp only [fired, Table.callsOf_fireAt hr, stubbedOf_append, h k, key_of_asked hx hasked,
        Call.isStubbed, true_and]
    · rw [hs]
      simp only [record, stubbedOf_append, h k]
      rcases ho with rfl | rfl <;> simp [Call.isStubbed]

theorem run_balanced (h : s.Balanced) (xs : List Step) : (s.run xs).2.Balanced := by
  induction xs generalizing s with
  | nil => exact h
  | cons x xs ih => exact ih (step_balanced h x)

/-- A request for a tunnel leaves the table as it is. -/
theorem step_tunnel (hx : x.isTunnel) : (s.step x).2.table = s.table := by
  cases x with
  | request r =>
    rw [step_table]
    have hm : r.method = "CONNECT" := by simpa [Step.isTunnel] using hx
    simp only [Step.tableOps, if_pos hm]
    rfl
  | _ => simp [Step.isTunnel] at hx

/-- **Nothing is lost between calls and history.** At every point of a session the history shows
the requests so far in order, and for every key the calls of its routes are its entries that were
answered from a directive. One more step adds no entry, or one at the end. Either the entry has the
status of a directive of the key asked for, the answer is from this directive and only its route has
changed; or nothing in the table has changed, as always with a tunnel. -/
theorem calls_conserved (options : Options) (address : SocketAddress) (xs : List Step) :
    let s := ((start options address).run xs).2
    (s.calls.map fun c => (c.method, c.url)) = xs.filterMap Step.recorded ∧
    (∀ k, s.table.callsOf k = stubbedOf s.calls k) ∧
    (∀ x, x.recorded = none → (s.step x).2.calls = s.calls) ∧
    (∀ x method url, x.recorded = some (method, url) → ∃ outcome,
      (s.step x).2.calls = s.calls ++ [⟨method, url, outcome⟩] ∧
      ((∃ i r, s.table.routes[i]? = some r ∧ x.asked = some r.key ∧
          outcome = .stubbed r.directive.status ∧ (s.step x).1 = x.answerFrom r.directive ∧
          (s.step x).2.table = s.table.fireAt i) ∨
        ((outcome = .passthrough ∨ outcome = .unmatched) ∧ (s.step x).2.table = s.table))) ∧
    ∀ x, x.isTunnel → (s.step x).2.table = s.table := by
  intro s
  refine ⟨?_, run_balanced (balanced_start options address) xs, ?_, ?_, fun x hx => step_tunnel hx⟩
  · obtain ⟨later, hl, hr⟩ := run_recorded (start options address) xs
    rw [show s.calls = later from hl]
    exact hr
  · intro x hx
    rw [step_silent hx]
    rfl
  · intro x method url hx
    rcases step_cases s hx with ⟨i, r, hasked, -, hr, hs⟩ | ⟨-, outcome, ho, hs, -⟩
    · rw [hs]
      exact ⟨_, rfl, .inl ⟨i, r, hr, hasked, rfl, rfl, rfl⟩⟩
    · rw [hs]
      exact ⟨outcome, rfl, .inr ⟨ho, rfl⟩⟩

/-- Two rules of one key, three requests for it in three forms, one request for nothing that is
registered, and a tunnel. -/
def keyInThreeForms : List Step :=
  [.add (.text "GET http://a.b/1 -> 200 :one"),
    .register (.new "GET" "HTTP://A.B:80/1" 404 (.text "")), .respond "GET" "http://a.b:80/1",
    .request ⟨"GET", .path ['/', '1'], [("host", [97, 46, 98])], []⟩,
    .respond "GET" "http://a.b/2", .request ⟨"CONNECT", .authority "a.b:443".toList, [], []⟩,
    .respond "GET" "http://a.b/1"]

/-- Three calls among five requests, and one more entry for one more request. -/
theorem calls_conserved_three_forms :
    let s := ((start .default .loopback).run keyInThreeForms).2
    let k : Key := ("GET", "http://a.b/1")
    s.calls.length = 5 ∧ s.table.callsOf k = 3 ∧
      ∃ outcome, (s.step (.respond "GET" "http://a.b/1")).2.calls =
        s.calls ++ [⟨"GET", "http://a.b/1", outcome⟩] := by
  intro s k
  obtain ⟨hrecorded, hcalls, -, hentry, -⟩ := calls_conserved .default .loopback keyInThreeForms
  refine ⟨?_, ?_, ?_⟩
  · have hlen := congrArg List.length hrecorded
    rw [List.length_map] at hlen
    exact hlen
  · rw [hcalls k]
    decide +kernel
  · obtain ⟨outcome, h, -⟩ := hentry (.respond "GET" "http://a.b/1") _ _ rfl
    exact ⟨outcome, h⟩

end Session

end StubProxy
