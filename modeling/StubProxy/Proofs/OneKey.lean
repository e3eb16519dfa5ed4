import StubProxy.Route.Queue

/-!
# One key among others

`run_answersTo`: the queue of a key is not touched by operations on other keys, so the answers to a
key stay what they are when all other operations are left out.
-/

namespace StubProxy

variable {norm : String → String}

/-- The operations that a key can tell: those of its own, and clearing. -/
def TableOp.concerns (norm : String → String) (k : Key) : TableOp → Bool
  | .add d => Key.of norm d.method d.url = k
  | .lookup method url => Key.of norm method url = k
  | .passthrough _ => false
  | .clear => true

/-- The answers to the operations that concern a key. -/
def answersTo (norm : String → String) (k : Key) (ops : List TableOp)
    (answers : List (Option Directive)) : List (Option Directive) :=
  ((ops.zip answers).filter fun p => p.1.concerns norm k).map (·.2)

/-- Queues with equal directives at a key, whatever their numbers. -/
def SameAt (k : Key) (qs qs' : Queues) : Prop :=
  (qs.queue k).waiting.map (·.directive) = (qs'.queue k).waiting.map (·.directive) ∧
    (qs.queue k).last.map (·.directive) = (qs'.queue k).last.map (·.directive)

theorem SameAt.serve {k : Key} {qs qs' : Queues} (h : SameAt k qs qs') :
    (qs.serve k).1.map (·.directive) = (qs'.serve k).1.map (·.directive) ∧
      SameAt k (qs.serve k).2 (qs'.serve k).2 := by
  obtain ⟨hw, hl⟩ := h
  simp only [SameAt, Queues.serve, Queues.set, if_true, Queue.take]
  cases h1 : (qs.queue k).waiting <;> cases h2 : (qs'.queue k).waiting <;>
    simp_all

theorem SameAt.add {k : Key} {qs qs' : Queues} (h : SameAt k qs qs') (d : Directive) :
    SameAt k (qs.add norm d) (qs'.add norm d) := by
  obtain ⟨hw, hl⟩ := h
  simp only [SameAt, Queues.add, Queues.set]
  by_cases hk : k = Key.of norm d.method d.url
  · rw [if_pos hk, if_pos hk, ← hk]
    simp [Queue.push, hw, hl]
  · rw [if_neg hk, if_neg hk]
    exact ⟨hw, hl⟩

/-- Operations that do not concern a key leave its queue alone. -/
theorem step_other {k : Key} (qs : Queues) {op : TableOp} (h : op.concerns norm k = false) :
    (qs.step norm op).2.queue k = qs.queue k := by
  cases op with
  | add d =>
    simp only [TableOp.concerns, decide_eq_false_iff_not] at h
    simp [Queues.step, Queues.add, Queues.set, Ne.symm h]
  | lookup method url =>
    simp only [TableOp.concerns, decide_eq_false_iff_not] at h
    simp [Queues.step, Queues.serve, Queues.set, Ne.symm h]
  | passthrough start => rfl
  | clear => simp [TableOp.concerns] at h

theorem step_same {k : Key} {qs qs' : Queues} (h : SameAt k qs qs') {op : TableOp}
    (hop : op.concerns norm k = true) :
    (qs.step norm op).1.map (·.directive) = (qs'.step norm op).1.map (·.directive) ∧
      SameAt k (qs.step norm op).2 (qs'.step norm op).2 := by
  cases op with
  | add d => exact ⟨rfl, h.add d⟩
  | lookup method url =>
    simp only [TableOp.concerns, decide_eq_true_eq] at hop
    simp only [Queues.step, hop]
    exact h.serve
  | passthrough start => simp [TableOp.concerns] at hop
  | clear => exact ⟨rfl, rfl, rfl⟩

/-- **One key among others.** Leaving out all operations that do not concern a key leaves the
answers to the others as they are. -/
theorem run_answersTo {k : Key} {qs qs' : Queues} (h : SameAt k qs qs') (ops : List TableOp) :
    answersTo norm k ops ((qs.run norm ops).1.map (Option.map (·.directive))) =
      (qs'.run norm (ops.filter (·.concerns norm k))).1.map (Option.map (·.directive)) := by
  induction ops generalizing qs qs' with
  | nil => rfl
  | cons op ops ih =>
    unfold answersTo at ih ⊢
    cases hop : op.concerns norm k with
    | true =>
      obtain ⟨ha, hs⟩ := step_same h hop
      simp only [Queues.run, List.map_cons, List.zip_cons_cons, List.filter_cons, hop, if_true]
      rw [ih hs, ha]
    | false =>
      have hq := step_other qs hop
      have hs : SameAt k (qs.step norm op).2 qs' := by
        unfold SameAt
        rw [hq]
        exact h
      simp only [Queues.run, List.map_cons, List.zip_cons_cons, List.filter_cons, hop,
        Bool.false_eq_true, if_false]
      exact ih hs

end StubProxy
