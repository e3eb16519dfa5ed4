import StubProxy.Route.Queue

/-!
# The order of servings

What queues serve goes up in number for each key, and what waits comes later.

* `Queue.InOrder`: a queue behind what it served, in order.
* `run_inOrder`: the queues after any operations are in order behind the servings since the last
  clear.
-/

namespace StubProxy

variable (norm : String → String)

/-- A queue behind what it served: numbers below `size` go up, and the last served is known. -/
structure Queue.InOrder (size : Nat) (q : Queue) (served : List Registration) : Prop where
  below : ∀ r ∈ served ++ q.waiting, r.number < size
  sorted : (served ++ q.waiting).Pairwise (·.number ≤ ·.number)
  last : q.last = served.getLast?

theorem Queue.InOrder.mono {n m : Nat} {q : Queue} {S : List Registration} (h : q.InOrder n S)
    (hnm : n ≤ m) : q.InOrder m S :=
  ⟨fun r hr => Nat.lt_of_lt_of_le (h.below r hr) hnm, h.sorted, h.last⟩

/-- A registration gets the highest number. -/
theorem Queue.InOrder.push {n : Nat} {q : Queue} {S : List Registration} (h : q.InOrder n S)
    (d : Directive) : (q.push ⟨n, d⟩).InOrder (n + 1) S := by
  have hw : S ++ (q.push ⟨n, d⟩).waiting = (S ++ q.waiting) ++ [⟨n, d⟩] := by simp [Queue.push]
  refine ⟨?_, ?_, h.last⟩
  · intro r hr
    rw [hw] at hr
    rcases List.mem_append.1 hr with hr | hr
    · exact Nat.lt_succ_of_lt (h.below r hr)
    · rw [List.mem_singleton.1 hr]
      exact Nat.lt_succ_self n
  · rw [hw, List.pairwise_append]
    refine ⟨h.sorted, List.pairwise_singleton _ _, ?_⟩
    intro r hr x hx
    rw [List.mem_singleton.1 hx]
    exact Nat.le_of_lt (h.below r hr)

/-- Serving moves the front of the queue behind the served, or repeats the last of them. -/
theorem Queue.InOrder.take {n : Nat} {q : Queue} {S : List Registration} (h : q.InOrder n S) :
    q.take.2.InOrder n (S ++ q.take.1.toList) := by
  cases hw : q.waiting with
  | cons x rest =>
    have hq : q.take = (some x, ⟨rest, some x⟩) := by unfold Queue.take; rw [hw]
    have happ : S ++ [x] ++ rest = S ++ q.waiting := by rw [hw]; simp
    rw [hq]
    simp only [Option.toList_some]
    exact ⟨by rw [happ]; exact h.below, by rw [happ]; exact h.sorted, by simp⟩
  | nil =>
    have hq : q.take = (q.last, q) := by unfold Queue.take; rw [hw]
    rw [hq, h.last]
    cases hl : S.getLast? with
    | none => simpa [hl] using h
    | some x =>
      obtain ⟨T, rfl⟩ := List.getLast?_eq_some_iff.1 hl
      have hsorted := h.sorted
      rw [hw, List.append_nil] at hsorted
      have hx := h.below x (by simp)
      simp only [Option.toList_some]
      refine ⟨?_, ?_, by rw [h.last, hl]; simp⟩
      · intro r hr
        rw [hw, List.append_nil] at hr
        rcases List.mem_append.1 hr with hr | hr
        · exact h.below r (List.mem_append_left _ hr)
        · rw [List.mem_singleton.1 hr]; exact hx
      · rw [hw, List.append_nil, List.pairwise_append]
        refine ⟨hsorted, List.pairwise_singleton _ _, ?_⟩
        intro r hr y hy
        rw [List.mem_singleton.1 hy]
        rcases List.mem_append.1 hr with hr | hr
        · exact (List.pairwise_append.1 hsorted).2.2 r hr x (by simp)
        · obtain rfl := List.mem_singleton.1 hr
          exact Nat.le_refl _

/-- What was served to a key. -/
def servedTo (k : Key) (served : List Registration) : List Registration :=
  served.filter fun r => r.key norm = k

variable {norm} in
theorem servedTo_append_answer {k k' : Key} (S : List Registration) {a : Option Registration}
    (ha : ∀ r ∈ a, r.key norm = k) :
    servedTo norm k' (S ++ a.toList) = servedTo norm k' S ++ if k' = k then a.toList else [] := by
  unfold servedTo
  rw [List.filter_append]
  cases a with
  | none => simp
  | some r =>
    have hr := ha r rfl
    by_cases hk : k' = k
    · simp [hr, hk]
    · simp [hr, hk, Ne.symm hk]

/-- The servings so far and the queues. -/
structure Queues.InOrder (qs : Queues) (served : List Registration) : Prop where
  queue : ∀ k, (qs.queue k).InOrder qs.size (servedTo norm k served)
  waiting : ∀ k, ∀ r ∈ (qs.queue k).waiting, r.key norm = k

theorem inOrder_empty : Queues.InOrder norm .empty [] :=
  ⟨fun _ => ⟨by simp [servedTo, Queues.empty, Queue.empty], by simp [servedTo, Queues.empty,
    Queue.empty], rfl⟩, by simp [Queues.empty, Queue.empty]⟩

variable {norm}

theorem Queues.InOrder.add {qs : Queues} {S : List Registration} (h : qs.InOrder norm S)
    (d : Directive) : (qs.add norm d).InOrder norm S := by
  refine ⟨?_, ?_⟩
  · intro k
    simp only [Queues.add, Queues.set]
    by_cases hk : k = Key.of norm d.method d.url
    · rw [if_pos hk, ← hk]
      exact (h.queue k).push d
    · rw [if_neg hk]
      exact (h.queue k).mono (Nat.le_succ _)
  · intro k r hr
    simp only [Queues.add, Queues.set] at hr
    by_cases hk : k = Key.of norm d.method d.url
    · rw [if_pos hk, ← hk] at hr
      rcases List.mem_append.1 hr with hr | hr
      · exact h.waiting k r hr
      · rw [List.mem_singleton.1 hr]
        exact hk.symm
    · rw [if_neg hk] at hr
      exact h.waiting k r hr

/-- What a queue hands out answers its key. -/
theorem Queues.InOrder.key {qs : Queues} {S : List Registration} (h : qs.InOrder norm S) {k : Key}
    {r : Registration} (hr : r ∈ (qs.serve k).1) : r.key norm = k := by
  simp only [Queues.serve, Queue.take] at hr
  cases hw : (qs.queue k).waiting with
  | cons x rest =>
    rw [hw] at hr
    obtain rfl : x = r := by simpa using hr
    exact h.waiting k x (by rw [hw]; exact List.mem_cons_self)
  | nil =>
    rw [hw] at hr
    have hl := (h.queue k).last
    rw [show (qs.queue k).last = some r by simpa using hr] at hl
    simpa [servedTo] using (List.mem_filter.1 (List.mem_of_getLast? hl.symm)).2

theorem Queues.InOrder.serve {qs : Queues} {S : List Registration} (h : qs.InOrder norm S)
    (k : Key) : (qs.serve k).2.InOrder norm (S ++ (qs.serve k).1.toList) := by
  refine ⟨?_, ?_⟩
  · intro k'
    rw [servedTo_append_answer S fun r hr => h.key hr]
    simp only [Queues.serve, Queues.set]
    by_cases hk : k' = k
    · rw [if_pos hk, if_pos hk, hk]
      exact (h.queue k).take
    · rw [if_neg hk, if_neg hk, List.append_nil]
      exact h.queue k'
  · intro k' r hr
    simp only [Queues.serve, Queues.set] at hr
    by_cases hk : k' = k
    · rw [if_pos hk] at hr
      rw [hk]
      have hsub : ∀ x ∈ (qs.queue k).take.2.waiting, x ∈ (qs.queue k).waiting := by
        intro x hx
        unfold Queue.take at hx
        split at hx
        · exact hx
        · rename_i hw
          rw [hw]
          exact List.mem_cons_of_mem _ hx
      exact h.waiting k r (hsub r hr)
    · rw [if_neg hk] at hr
      exact h.waiting k' r hr

theorem step_inOrder {qs : Queues} {S : List Registration} (h : qs.InOrder norm S) (op : TableOp) :
    (qs.step norm op).2.InOrder norm (serving S op (qs.step norm op).1) := by
  cases op with
  | add d => simpa [Queues.step, serving] using h.add d
  | lookup method url => exact h.serve _
  | passthrough start => simpa [Queues.step, serving] using h
  | clear => exact inOrder_empty norm

theorem run_inOrder {qs : Queues} {S : List Registration} (h : qs.InOrder norm S)
    (ops : List TableOp) :
    (qs.run norm ops).2.InOrder norm (servings S ops (qs.run norm ops).1) := by
  induction ops generalizing qs S with
  | nil => exact h
  | cons op ops ih => exact ih (step_inOrder h op)

end StubProxy
