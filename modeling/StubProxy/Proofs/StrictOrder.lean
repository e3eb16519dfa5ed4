import StubProxy.Route.Queue

/-!
# Strict order

In strict order the cursor counts the routes that were served: those before it once, the others
never.

* `StrictInv`: this invariant. `run_strictInv`: every operation keeps it.
* `serve_strict`: an answer in closed form. Only the route at the cursor can answer.
* `StrictInv.unfired_eq`: what was never served is what lies behind the cursor.
-/

namespace StubProxy

variable {norm : String → String} {t : Table}

/-! No operation changes the order of a table. -/

theorem Table.step_strict (t : Table) (op : TableOp) : (t.step norm op).2.strict = t.strict := by
  cases op with
  | lookup method url =>
    change (t.serve _).2.strict = _
    unfold Table.serve
    split <;> rfl
  | _ => rfl

theorem Table.run_strict (t : Table) (ops : List TableOp) :
    (t.run norm ops).2.strict = t.strict := by
  induction ops generalizing t with
  | nil => rfl
  | cons op ops ih => exact (ih _).trans (step_strict t op)

/-- The routes before the cursor were served once, the others never. -/
structure StrictInv (t : Table) : Prop where
  strict : t.strict = true
  cursor_le : t.cursor ≤ t.routes.length
  calls : ∀ i r, t.routes[i]? = some r → r.calls = if i < t.cursor then 1 else 0

theorem strictInv_empty : StrictInv (.empty true) :=
  ⟨rfl, Nat.le_refl _, by simp [Table.empty]⟩

/-- **An answer in strict order.** The route at the cursor answers its key and the cursor moves on;
to any other key nothing answers and nothing moves. -/
theorem serve_strict (h : t.strict = true) (k : Key) :
    (∃ r, t.routes[t.cursor]? = some r ∧ r.key = k ∧
      t.serve k = (some r.directive,
        { t with routes := t.routes.modify t.cursor Route.fire, cursor := t.cursor + 1 })) ∨
    ((∀ r, t.routes[t.cursor]? = some r → r.key ≠ k) ∧ t.serve k = (none, t)) := by
  unfold Table.serve Table.choose Table.chooseStrict
  rw [if_pos h]
  cases hc : t.routes[t.cursor]? with
  | none => exact .inr ⟨by simp, by simp⟩
  | some r =>
    by_cases hk : r.key = k
    · exact .inl ⟨r, rfl, hk, by simp [hc, hk, Table.fireAt, h]⟩
    · refine .inr ⟨?_, by simp [hk]⟩
      intro x hx
      rw [← Option.some.inj hx]
      exact hk

theorem StrictInv.add (h : StrictInv t) (d : Directive) : StrictInv (t.add norm d) := by
  refine ⟨h.strict, ?_, ?_⟩
  · have := h.cursor_le
    simp only [Table.add, List.length_append]
    omega
  · intro i r hi
    change (t.routes ++ [Route.new norm d])[i]? = some r at hi
    change r.calls = if i < t.cursor then 1 else 0
    rcases Nat.lt_or_ge i t.routes.length with hlt | hge
    · rw [List.getElem?_append_left hlt] at hi
      exact h.calls i r hi
    · -- the new route lies behind the cursor
      rw [List.getElem?_append_right hge] at hi
      have hr : r = Route.new norm d := by simpa using List.mem_of_getElem? hi
      have := h.cursor_le
      rw [hr, if_neg (by omega)]
      rfl

theorem StrictInv.serve (h : StrictInv t) (k : Key) : StrictInv (t.serve k).2 := by
  rcases serve_strict h.strict k with ⟨r, hr, -, hs⟩ | ⟨-, hs⟩
  · rw [hs]
    refine ⟨h.strict, ?_, ?_⟩
    · have := (List.getElem?_eq_some_iff.1 hr).1
      simp only [List.length_modify]
      omega
    · intro i x hi
      change x.calls = if i < t.cursor + 1 then 1 else 0
      simp only [List.getElem?_modify] at hi
      obtain ⟨y, hy, rfl⟩ := Option.map_eq_some_iff.1 hi
      have hcalls := h.calls i y hy
      by_cases hic : t.cursor = i
      · subst hic
        rw [if_neg (Nat.lt_irrefl _)] at hcalls
        simp [hcalls]
      · rw [if_neg hic]
        change y.calls = _
        rw [hcalls]
        by_cases hlt : i < t.cursor
        · rw [if_pos hlt, if_pos (by omega)]
        · rw [if_neg hlt, if_neg (by omega)]
  · rw [hs]
    exact h

theorem step_strictInv (h : StrictInv t) (op : TableOp) : StrictInv (t.step norm op).2 := by
  cases op with
  | add d => exact h.add d
  | lookup method url => exact h.serve _
  | passthrough start => exact ⟨h.strict, h.cursor_le, h.calls⟩
  | clear =>
    simp only [Table.step, Table.clear, h.strict]
    exact strictInv_empty

theorem run_strictInv (h : StrictInv t) (ops : List TableOp) : StrictInv (t.run norm ops).2 := by
  induction ops generalizing t with
  | nil => exact h
  | cons op ops ih => exact ih (step_strictInv h op)

/-- **What was never served** is what lies behind the cursor. -/
theorem StrictInv.unfired_eq (h : StrictInv t) : t.unfired = t.routes.drop t.cursor := by
  have hsplit : t.unfired = (t.routes.take t.cursor).filter (fun r => !r.isFired) ++
      (t.routes.drop t.cursor).filter fun r => !r.isFired := by
    rw [← List.filter_append, List.take_append_drop]
    rfl
  have hbefore : (t.routes.take t.cursor).filter (fun r => !r.isFired) = [] := by
    rw [List.filter_eq_nil_iff]
    intro r hr
    obtain ⟨i, hi⟩ := List.mem_iff_getElem?.1 hr
    rw [List.getElem?_take] at hi
    split at hi
    · rename_i hlt
      have := h.calls i r hi
      simp [Route.isFired, this, hlt]
    · simp at hi
  have hbehind :
      (t.routes.drop t.cursor).filter (fun r => !r.isFired) = t.routes.drop t.cursor := by
    rw [List.filter_eq_self]
    intro r hr
    obtain ⟨i, hi⟩ := List.mem_iff_getElem?.1 hr
    rw [List.getElem?_drop] at hi
    have := h.calls _ r hi
    rw [if_neg (by omega)] at this
    simp [Route.isFired, this]
  rw [hsplit, hbefore, hbehind, List.nil_append]

/-- The next route in strict order is the first that was never served. -/
theorem StrictInv.due (h : StrictInv t) : t.routes[t.cursor]? = t.unfired.head? := by
  rw [h.unfired_eq, List.head?_drop]

end StubProxy
