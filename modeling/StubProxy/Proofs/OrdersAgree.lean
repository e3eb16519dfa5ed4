import StubProxy.Proofs.StrictOrder

/-!
# Where strict and loose order agree

A table in strict order answers by its cursor, one in loose order by a search for the first route of
the key that was not served. While nothing is refused, the search ends at the cursor.

* `StrictInv.chooseLoose_due`: the search for the key of the route at the cursor.
* `Alike`: both tables hold the same routes. `step_alike`: an operation that is not refused gets the
  same answer from both and keeps them alike; `run_alike`: so does a run.
* `orders_agree`: from empty tables, up to the first refusal.
-/

namespace StubProxy

/-- A lookup that is not answered. -/
def TableOp.isRefused : TableOp → Option Directive → Bool
  | .lookup _ _, none => true
  | _, _ => false

/-- The number of operations before the first lookup that a table refuses. -/
def Table.unrefused (norm : String → String) (t : Table) : List TableOp → Nat
  | [] => 0
  | op :: ops =>
    let (d, t) := t.step norm op
    if op.isRefused d then 0 else t.unrefused norm ops + 1

variable {norm : String → String} {t t' : Table}

theorem Table.unrefused_cons (t : Table) (op : TableOp) (ops : List TableOp) :
    t.unrefused norm (op :: ops) = if op.isRefused (t.step norm op).1 then 0
      else (t.step norm op).2.unrefused norm ops + 1 := rfl

theorem Table.run_cons (t : Table) (op : TableOp) (ops : List TableOp) :
    t.run norm (op :: ops) = ((t.step norm op).1 :: ((t.step norm op).2.run norm ops).1,
      ((t.step norm op).2.run norm ops).2) := rfl

/-- **The search ends at the cursor.** All routes before it were served, and it was not. -/
theorem StrictInv.chooseLoose_due (h : StrictInv t) {r : Route}
    (hr : t.routes[t.cursor]? = some r) : Table.chooseLoose t.routes r.key = some t.cursor := by
  have hfirst : (t.routes.findIdx? fun x => x.key = r.key && !x.isFired) = some t.cursor := by
    obtain ⟨hlt, hget⟩ := List.getElem?_eq_some_iff.1 hr
    rw [List.findIdx?_eq_some_iff_getElem]
    refine ⟨hlt, ?_, ?_⟩
    · have hcalls := h.calls _ r hr
      rw [if_neg (Nat.lt_irrefl _)] at hcalls
      simp [hget, Route.isFired, hcalls]
    · intro j hj
      have hcalls := h.calls j _ (List.getElem?_eq_getElem (Nat.lt_trans hj hlt))
      rw [if_pos hj] at hcalls
      simp [Route.isFired, hcalls]
  unfold Table.chooseLoose
  rw [hfirst]
  rfl

/-- A table in strict order and one in loose order with the same routes. -/
structure Alike (t t' : Table) : Prop where
  inv : StrictInv t
  loose : t'.strict = false
  routes : t'.routes = t.routes

theorem alike_empty : Alike (.empty true) (.empty false) :=
  ⟨strictInv_empty, rfl, rfl⟩

/-- A key that strict order answers is answered from the same route in loose order. -/
theorem Alike.serve (h : Alike t t') {k : Key} {d : Directive} (hd : (t.serve k).1 = some d) :
    (t'.serve k).1 = some d ∧ Alike (t.serve k).2 (t'.serve k).2 := by
  have hinv := h.inv.serve k
  rcases serve_strict h.inv.strict k with ⟨r, hr, rfl, hs⟩ | ⟨-, hs⟩
  · have hs' : t'.serve r.key =
        (some r.directive, { t' with routes := t'.routes.modify t.cursor Route.fire }) := by
      unfold Table.serve Table.choose
      rw [h.loose, h.routes, if_neg Bool.false_ne_true, h.inv.chooseLoose_due hr]
      simp [h.routes, hr, Table.fireAt, h.loose]
    rw [hs] at hd hinv
    rw [hs, hs']
    exact ⟨hd, hinv, h.loose, by rw [h.routes]⟩
  · rw [hs] at hd
    cases hd

/-- **An operation** that strict order does not refuse. -/
theorem step_alike (h : Alike t t') {op : TableOp} (hop : op.isRefused (t.step norm op).1 = false) :
    (t.step norm op).1 = (t'.step norm op).1 ∧ Alike (t.step norm op).2 (t'.step norm op).2 := by
  cases op with
  | add d => exact ⟨rfl, h.inv.add d, h.loose, congrArg (· ++ [Route.new norm d]) h.routes⟩
  | lookup method url =>
    change _ = ((t'.serve (Key.of norm method url)).1) ∧ _
    cases hd : (t.step norm (.lookup method url)).1 with
    | none => simp [hd, TableOp.isRefused] at hop
    | some d =>
      obtain ⟨hd', hserve⟩ := h.serve hd
      exact ⟨hd'.symm, hserve⟩
  | passthrough start => exact ⟨rfl, step_strictInv h.inv (.passthrough start), h.loose, h.routes⟩
  | clear =>
    refine ⟨rfl, ?_⟩
    simp only [Table.step, Table.clear, h.inv.strict, h.loose]
    exact alike_empty

/-- **A run** without refusals: all answers agree, and so do the tables. -/
theorem run_alike (h : Alike t t') {ops : List TableOp} {n : Nat} (hn : n ≤ t.unrefused norm ops) :
    (t.run norm (ops.take n)).1 = (t'.run norm (ops.take n)).1 ∧
      Alike (t.run norm (ops.take n)).2 (t'.run norm (ops.take n)).2 := by
  induction ops generalizing t t' n with
  | nil => simpa [Table.run] using h
  | cons op ops ih =>
    cases n with
    | zero => exact ⟨rfl, h⟩
    | succ n =>
      rw [Table.unrefused_cons] at hn
      cases hop : op.isRefused (t.step norm op).1 with
      | true =>
        rw [hop, if_pos rfl] at hn
        omega
      | false =>
        rw [hop, if_neg Bool.false_ne_true] at hn
        obtain ⟨hd, hstep⟩ := step_alike h hop
        obtain ⟨hds, hrun⟩ := ih hstep (Nat.le_of_succ_le_succ hn)
        rw [List.take_succ_cons, Table.run_cons, Table.run_cons]
        exact ⟨by rw [hd, hds], hrun⟩

/-- **Strict and loose order agree** wherever strict order answers: after any part of a run before
the first refused lookup, both tables have given the same answers and hold the same routes with the
same calls. -/
theorem orders_agree (norm : String → String) (ops : List TableOp) (n : Nat)
    (hn : n ≤ (Table.empty true).unrefused norm ops) :
    let strict := (Table.empty true).run norm (ops.take n)
    let loose := (Table.empty false).run norm (ops.take n)
    strict.1 = loose.1 ∧ strict.2.routes = loose.2.routes := by
  obtain ⟨hds, halike⟩ := run_alike alike_empty hn
  exact ⟨hds, halike.routes.symm⟩

/-- Two directives of one key with a request between them, and one of another key. -/
def sameKeyBetween : List TableOp :=
  [.add (.new "GET" "/a" 200 (.text "first")), .lookup "GET" "/a",
    .add (.new "GET" "/a" 200 (.text "second")), .add (.new "PUT" "/b" 201 (.text "")),
    .lookup "GET" "/a", .lookup "GET" "/a"]

/-- The third request of the key is the first that strict order refuses; loose order repeats the
second directive. -/
theorem orders_agree_same_key :
    let strict n := (Table.empty true).run id (sameKeyBetween.take n)
    let loose n := (Table.empty false).run id (sameKeyBetween.take n)
    5 ≤ (Table.empty true).unrefused id sameKeyBetween ∧
      ((strict 5).1 = (loose 5).1 ∧ (strict 5).2.routes = (loose 5).2.routes) ∧
      (strict 6).1 ≠ (loose 6).1 := by
  intro strict loose
  have hn : 5 ≤ (Table.empty true).unrefused id sameKeyBetween := by decide
  exact ⟨hn, orders_agree id sameKeyBetween 5 hn, by decide⟩

end StubProxy
