import StubProxy.Proofs.Lane
import StubProxy.Proofs.QueueOrder
import StubProxy.Proofs.OneKey

/-!
# Loose order is a queue for each key

* `Refines`: a table and queues tell the same story when each lane of the table is a served part and
  a waiting part, the waiting part is what waits in the queue, and the last route of the served part
  is what the queue served last.
* `step_refines`: an operation keeps that, and both sides give the same answer.
* `Counted`: the calls of a route are the servings of its number.
* `loose_fifo` brings the parts together.
-/

namespace StubProxy

variable (norm : String → String)

/-- The registration that a route of a lane came from. -/
def laneReg (p : Route × Nat) : Registration := ⟨p.2, p.1.directive⟩

@[simp] theorem laneReg_fire (r : Route) (n : Nat) : laneReg (r.fire, n) = laneReg (r, n) := rfl

/-- A lane and a queue: what was served, and then what waits. -/
def LaneMatches (l : List (Route × Nat)) (q : Queue) : Prop :=
  ∃ F U, l = F ++ U ∧ (∀ p ∈ F, p.1.isFired) ∧ (∀ p ∈ U, ¬ p.1.isFired) ∧
    q.waiting = U.map laneReg ∧ q.last = F.getLast?.map laneReg

/-- A table in loose order and queues that answer alike. -/
structure Refines (t : Table) (qs : Queues) : Prop where
  loose : t.strict = false
  size : qs.size = t.routes.length
  lanes : ∀ k, LaneMatches (t.lane k) (qs.queue k)

theorem laneMatches_nil : LaneMatches [] .empty :=
  ⟨[], [], rfl, by simp, by simp, rfl, rfl⟩

theorem refines_empty : Refines (.empty false) .empty :=
  ⟨rfl, rfl, fun _ => laneMatches_nil⟩

theorem LaneMatches.push {l : List (Route × Nat)} {q : Queue} (h : LaneMatches l q) {r : Route}
    (hr : ¬ r.isFired) (n : Nat) : LaneMatches (l ++ [(r, n)]) (q.push (laneReg (r, n))) := by
  obtain ⟨F, U, rfl, hF, hU, hw, hl⟩ := h
  refine ⟨F, U ++ [(r, n)], by simp, hF, ?_, by simp [Queue.push, hw], hl⟩
  intro p hp
  rcases List.mem_append.1 hp with hp | hp
  · exact hU p hp
  · rw [List.mem_singleton.1 hp]
    exact hr

/-- Taking from a queue is serving the first waiting route of its lane, or the last one. -/
theorem LaneMatches.take {A B : List (Route × Nat)} {p : Route × Nat} {q : Queue}
    (h : LaneMatches (A ++ p :: B) q) (hA : ∀ x ∈ A, x.1.isFired) (hB : p.1.isFired → B = []) :
    q.take.1 = some (laneReg p) ∧ LaneMatches (A ++ (p.1.fire, p.2) :: B) q.take.2 := by
  obtain ⟨F, U, hl, hF, hU, hw, hlast⟩ := h
  have hfire : ∀ x ∈ A ++ [(p.1.fire, p.2)], x.1.isFired := by
    intro x hx
    rcases List.mem_append.1 hx with hx | hx
    · exact hA x hx
    · rw [List.mem_singleton.1 hx]
      exact p.1.isFired_fire
  by_cases hp : p.1.isFired
  · -- all routes were served: the queue is empty and repeats the last of them
    obtain rfl := hB hp
    have hU0 : U = [] := by
      rw [List.eq_nil_iff_forall_not_mem]
      intro x hx
      have hm : x ∈ A ++ [p] := hl ▸ List.mem_append_right _ hx
      rcases List.mem_append.1 hm with hm | hm
      · exact hU x hx (hA x hm)
      · rw [List.mem_singleton.1 hm] at hx
        exact hU p hx hp
    subst hU0
    rw [List.append_nil] at hl
    subst hl
    have hq : q.take = (q.last, q) := by unfold Queue.take; rw [hw]; rfl
    rw [hq]
    refine ⟨by simpa using hlast, A ++ [(p.1.fire, p.2)], [], by simp, hfire, by simp, hw, ?_⟩
    simpa [laneReg] using hlast
  · -- the route waits: what was served before it is exactly `A`
    have hFA : F = A ∧ U = p :: B := by
      rcases List.append_eq_append_iff.1 hl with ⟨C, rfl, hC⟩ | ⟨C, rfl, hC⟩
      · cases C with
        | nil => exact ⟨by simp, by simpa using hC.symm⟩
        | cons x C =>
          obtain ⟨rfl, -⟩ := List.cons.inj hC
          exact absurd (hF p (by simp)) hp
      · cases C with
        | nil => exact ⟨by simp, by simpa using hC⟩
        | cons x C => exact absurd (hA x (by simp)) (hU x (by simp [hC]))
    obtain ⟨rfl, rfl⟩ := hFA
    have hq : q.take = (some (laneReg p), ⟨B.map laneReg, some (laneReg p)⟩) := by
      unfold Queue.take; rw [hw]; rfl
    rw [hq]
    refine ⟨rfl, F ++ [(p.1.fire, p.2)], B, by simp, hfire, ?_, rfl, ?_⟩
    · exact fun x hx => hU x (List.mem_cons_of_mem _ hx)
    · simp [laneReg]

theorem LaneMatches.nil_inv {q : Queue} (h : LaneMatches [] q) : q = .empty := by
  obtain ⟨F, U, hl, -, -, hw, hlast⟩ := h
  obtain ⟨rfl, rfl⟩ := List.append_eq_nil_iff.1 hl.symm
  cases q
  simp_all [Queue.empty]

theorem Queues.set_self (qs : Queues) (k : Key) : qs.set k (qs.queue k) = qs := by
  unfold Queues.set
  congr 1
  funext k'
  split
  · rename_i h; rw [h]
  · rfl

/-- **One answer.** A request is answered from the queue of its key, and the number taken from the
queue is the position of the route that counts the call. -/
theorem serve_refines {t : Table} {qs : Queues} (h : Refines t qs) (k : Key) :
    ((∃ r n, t.routes[n]? = some r ∧ (qs.serve k).1 = some ⟨n, r.directive⟩ ∧
        t.serve k = (some r.directive, { t with routes := t.routes.modify n Route.fire })) ∨
      ((qs.serve k).1 = none ∧ t.serve k = (none, t))) ∧
    Refines (t.serve k).2 (qs.serve k).2 := by
  have hk := h.lanes k
  rcases Table.serve_lane h.loose k with ⟨A, p, B, hl, hA, hB, hs, hlk, hlo⟩ | ⟨hl, hs⟩
  · rw [hl] at hk
    obtain ⟨hd, hm⟩ := hk.take hA hB
    have hp : p ∈ t.lane k := by rw [hl]; simp
    refine ⟨.inl ⟨p.1, p.2, (Table.mem_lane.1 hp).1, hd, hs⟩, ?_, ?_, ?_⟩
    · rw [hs]; exact h.loose
    · rw [hs]; simpa [Queues.serve, Queues.set] using h.size
    · intro k'
      by_cases hk' : k' = k
      · subst hk'
        rw [hlk]; simpa [Queues.serve, Queues.set] using hm
      · rw [hlo k' hk']; simpa [Queues.serve, Queues.set, hk'] using h.lanes k'
  · rw [hl] at hk
    have hq : qs.serve k = (none, qs) := by
      have he := hk.nil_inv
      unfold Queues.serve
      rw [show (qs.queue k).take = (none, qs.queue k) by rw [he]; rfl]
      simp only [Queues.set_self]
    rw [hs, hq]
    exact ⟨.inr ⟨rfl, rfl⟩, h⟩

/-- **One operation** gives the same answer on both sides and keeps them alike. -/
theorem step_refines {t : Table} {qs : Queues} (h : Refines t qs) (op : TableOp) :
    (t.step norm op).1 = (qs.step norm op).1.map (·.directive) ∧
      Refines (t.step norm op).2 (qs.step norm op).2 := by
  cases op with
  | add d =>
    refine ⟨rfl, h.loose, ?_, ?_⟩
    · simp [Table.step, Queues.step, Table.add, Queues.add, h.size]
    · intro k
      have hnew : ¬ (Route.new norm d).isFired := by simp
      have hreg : laneReg (Route.new norm d, t.routes.length) = ⟨qs.size, d⟩ := by
        rw [h.size]; rfl
      simp only [Table.step, Queues.step, Table.lane_add, Queues.add, Queues.set]
      have hkey : (Route.new norm d).key = Key.of norm d.method d.url := rfl
      by_cases hk : (Route.new norm d).key = k
      · rw [if_pos hk, if_pos (by rw [← hk, hkey]), ← hkey, hk, ← hreg]
        exact (h.lanes k).push hnew _
      · rw [if_neg hk, if_neg (fun e => hk (by rw [hkey, e])), List.append_nil]
        exact h.lanes k
  | lookup method url =>
    obtain ⟨ha, hr⟩ := serve_refines h (Key.of norm method url)
    refine ⟨?_, hr⟩
    simp only [Table.step, Queues.step, Table.lookup]
    rcases ha with ⟨r, n, -, h1, h2⟩ | ⟨h1, h2⟩ <;> rw [h1, h2] <;> rfl
  | passthrough start => exact ⟨rfl, h.loose, h.size, h.lanes⟩
  | clear =>
    refine ⟨rfl, ?_⟩
    simp only [Table.step, Table.clear, h.loose]
    exact refines_empty

theorem run_refines {t : Table} {qs : Queues} (h : Refines t qs) (ops : List TableOp) :
    (t.run norm ops).1 = (qs.run norm ops).1.map (Option.map (·.directive)) ∧
      Refines (t.run norm ops).2 (qs.run norm ops).2 := by
  induction ops generalizing t qs with
  | nil => exact ⟨rfl, h⟩
  | cons op ops ih =>
    obtain ⟨h1, h2⟩ := step_refines norm h op
    obtain ⟨h3, h4⟩ := ih h2
    refine ⟨?_, h4⟩
    simp only [Table.run, Queues.run, List.map_cons]
    rw [h1, h3]

/-! ### Calls -/

/-- Every route has as many calls as its number has servings, and every serving is of a route. -/
structure Counted (t : Table) (served : List Registration) : Prop where
  calls : ∀ i r, t.routes[i]? = some r → r.calls = (served.map (·.number)).count i
  served : ∀ s ∈ served, (t.routes[s.number]?).map (·.directive) = some s.directive

theorem counted_empty (strict : Bool) : Counted (.empty strict) [] :=
  ⟨by simp [Table.empty], by simp⟩

theorem Counted.lt {t : Table} {S : List Registration} (h : Counted t S) {s : Registration}
    (hs : s ∈ S) : s.number < t.routes.length := by
  obtain ⟨r, hr, -⟩ := Option.map_eq_some_iff.1 (h.served s hs)
  exact (List.getElem?_eq_some_iff.1 hr).1

theorem Counted.add {t : Table} {S : List Registration} (h : Counted t S) (d : Directive) :
    Counted (t.add norm d) S := by
  refine ⟨?_, ?_⟩
  · intro i r hi
    simp only [Table.add] at hi
    rcases Nat.lt_or_ge i t.routes.length with hlt | hge
    · rw [List.getElem?_append_left hlt] at hi
      exact h.calls i r hi
    · -- the new route was not served: no serving has its number
      rw [List.getElem?_append_right hge] at hi
      have hr : r = Route.new norm d := by
        have := List.mem_of_getElem? hi
        simpa using this
      have hcount : (S.map (·.number)).count i = 0 := by
        rw [List.count_eq_zero]
        intro hm
        obtain ⟨s, hs, rfl⟩ := List.mem_map.1 hm
        have := h.lt hs
        omega
      rw [hr, hcount]
      rfl
  · intro s hs
    simp only [Table.add]
    rw [List.getElem?_append_left (h.lt hs)]
    exact h.served s hs

theorem Counted.fire {t : Table} {S : List Registration} (h : Counted t S) {n : Nat} {r : Route}
    (hn : t.routes[n]? = some r) :
    Counted { t with routes := t.routes.modify n Route.fire } (S ++ [⟨n, r.directive⟩]) := by
  refine ⟨?_, ?_⟩
  · intro i x hi
    simp only [List.getElem?_modify] at hi
    rw [List.map_append, List.count_append]
    obtain ⟨y, hy, rfl⟩ := Option.map_eq_some_iff.1 hi
    rw [← h.calls i y hy]
    by_cases hin : n = i
    · simp [hin]
    · simp [hin]
  · have hdir : ∀ i : Nat, ((t.routes.modify n Route.fire)[i]?).map Route.directive =
        (t.routes[i]?).map Route.directive := by
      intro i
      rw [List.getElem?_modify]
      cases t.routes[i]? with
      | none => rfl
      | some y => by_cases hin : n = i <;> simp [hin]
    intro s hs
    simp only [hdir]
    rcases List.mem_append.1 hs with hs | hs
    · exact h.served s hs
    · rw [List.mem_singleton.1 hs, hn]
      rfl

variable {norm}

theorem step_counted {t : Table} {qs : Queues} {S : List Registration} (hr : Refines t qs)
    (h : Counted t S) (op : TableOp) :
    Counted (t.step norm op).2 (serving S op (qs.step norm op).1) := by
  cases op with
  | add d => simpa [Table.step, Queues.step, serving] using h.add norm d
  | lookup method url =>
    simp only [Table.step, Queues.step, Table.lookup, serving]
    rcases (serve_refines hr (Key.of norm method url)).1 with ⟨r, n, hn, h1, h2⟩ | ⟨h1, h2⟩
    · rw [h1, h2]
      exact h.fire hn
    · rw [h1, h2]
      simpa using h
  | passthrough start => simpa [Table.step, Queues.step, serving] using ⟨h.calls, h.served⟩
  | clear => exact counted_empty _

theorem run_counted {t : Table} {qs : Queues} {S : List Registration} (hr : Refines t qs)
    (h : Counted t S) (ops : List TableOp) :
    Counted (t.run norm ops).2 (servings S ops (qs.run norm ops).1) := by
  induction ops generalizing t qs S with
  | nil => exact h
  | cons op ops ih => exact ih (step_refines norm hr op).2 (step_counted hr h op)

/-! ### The whole run -/

theorem lane_sorted (t : Table) (k : Key) : (t.lane k).Pairwise (·.2 < ·.2) := by
  have h : (t.routes.zipIdx).Pairwise (·.2 < ·.2) := by
    have hp : (t.routes.zipIdx.map Prod.snd).Pairwise (· < ·) := by
      rw [List.zipIdx_map_snd]
      exact List.pairwise_lt_range'
    exact List.pairwise_map.1 hp
  exact h.filter _

/-- The routes of a key that were served come before those that were not. -/
theorem Refines.fired_before {t : Table} {qs : Queues} (h : Refines t qs) {i j : Nat} {r r' : Route}
    (hi : t.routes[i]? = some r) (hj : t.routes[j]? = some r') (hk : r.key = r'.key) (hij : i < j)
    (hf : r'.isFired) : r.isFired := by
  have hri : (r, i) ∈ t.lane r'.key := Table.mem_lane.2 ⟨hi, hk⟩
  have hrj : (r', j) ∈ t.lane r'.key := Table.mem_lane.2 ⟨hj, rfl⟩
  have hsorted := lane_sorted t r'.key
  obtain ⟨F, U, hl, hF, hU, -, -⟩ := h.lanes r'.key
  rw [hl] at hri hrj hsorted
  rcases List.mem_append.1 hri with hri | hri
  · exact hF _ hri
  · rcases List.mem_append.1 hrj with hrj | hrj
    · have := (List.pairwise_append.1 hsorted).2.2 _ hrj _ hri
      simp only at this
      omega
    · exact absurd hf (hU _ hrj)

/-- **Loose order is a queue for each key.** In every run of a table in loose order, the answers are
those of the queues, where each key serves its directives in order and then repeats the last one.
The answers to a key are those of the run without the operations on other keys. What is served to a
key since the last clear goes up in order of registration, no route is served before an earlier one
of its key, and each route counts how often it was served. -/
theorem loose_fifo (ops : List TableOp) :
    let answers := ((Table.empty false).run norm ops).1
    let routes := ((Table.empty false).run norm ops).2.routes
    let expected := (Queues.empty.run norm ops).1
    let served := servings [] ops expected
    answers = expected.map (Option.map (·.directive)) ∧
    (∀ k, answersTo norm k ops answers =
      ((Table.empty false).run norm (ops.filter (·.concerns norm k))).1) ∧
    (∀ k, (servedTo norm k served).Pairwise (·.number ≤ ·.number)) ∧
    (∀ (i j : Nat) (r r' : Route), routes[i]? = some r → routes[j]? = some r' → r.key = r'.key →
      i < j → r'.isFired → r.isFired) ∧
    (∀ s ∈ served, (routes[s.number]?).map (·.directive) = some s.directive) ∧
    ∀ (i : Nat) (r : Route), routes[i]? = some r → r.calls = (served.map (·.number)).count i := by
  intro answers routes expected served
  obtain ⟨ha, href⟩ := run_refines norm refines_empty ops
  have hc := @run_counted norm _ _ _ refines_empty (counted_empty false) ops
  have hord := run_inOrder (inOrder_empty norm) ops
  refine ⟨ha, ?_, ?_, ?_, hc.served, hc.calls⟩
  · intro k
    have hf := (run_refines norm refines_empty (ops.filter (·.concerns norm k))).1
    rw [hf, show answers = _ from ha]
    exact run_answersTo ⟨rfl, rfl⟩ ops
  · intro k
    exact (List.pairwise_append.1 (hord.queue k).sorted).1
  · intro i j r r' hi hj hk hij hf
    exact href.fired_before hi hj hk hij hf

end StubProxy
