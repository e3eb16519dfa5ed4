import StubProxy.Route.Queue

/-!
# Lanes of a routing table

The lane of a key is the list of its routes with their positions. In loose order a request sees and
changes nothing but its own lane.

* `chooseLoose_cases`: the loose choice in closed form.
* `serve_lane`: an answer comes from the first route of the lane that was not served, or from the
  last one if all were, and only that route changes.
* `lane_add`: registering lengthens one lane at its end.
-/

namespace StubProxy

namespace Table

variable {α : Type} {norm : String → String} {t : Table} {k : Key}

/-- The first position of a `p` splits the list there. -/
theorem findIdx?_split {p : α → Bool} {l : List α} {i : Nat} (h : l.findIdx? p = some i) :
    ∃ a x b, l = a ++ x :: b ∧ a.length = i ∧ p x ∧ ∀ y ∈ a, p y = false := by
  induction l generalizing i with
  | nil => simp at h
  | cons x l ih =>
    rw [List.findIdx?_cons] at h
    by_cases hx : p x
    · rw [if_pos hx] at h
      obtain rfl : 0 = i := Option.some.inj h
      exact ⟨[], x, l, rfl, rfl, hx, by simp⟩
    · rw [if_neg hx] at h
      obtain ⟨j, hj, rfl⟩ := Option.map_eq_some_iff.1 h
      obtain ⟨a, y, b, rfl, rfl, hy, ha⟩ := ih hj
      refine ⟨x :: a, y, b, rfl, rfl, hy, ?_⟩
      intro z hz
      rcases List.mem_cons.1 hz with rfl | hz
      · simpa using hx
      · exact ha z hz

theorem lastIndex?_none {p : α → Bool} {l : List α} :
    lastIndex? p l = none ↔ ∀ y ∈ l, p y = false := by
  induction l with
  | nil => simp [lastIndex?]
  | cons x l ih =>
    unfold lastIndex?
    cases h : lastIndex? p l with
    | some i =>
      have hn : ¬ ∀ y ∈ l, p y = false := by rw [← ih, h]; simp
      simp only [reduceCtorEq, false_iff]
      exact fun hall => hn fun y hy => hall y (List.mem_cons_of_mem _ hy)
    | none =>
      have hall := ih.1 h
      constructor
      · intro hx y hy
        rcases List.mem_cons.1 hy with rfl | hy
        · simpa using hx
        · exact hall y hy
      · intro hy
        simp [hy x List.mem_cons_self]

/-- The last position of a `p` splits the list there. -/
theorem lastIndex?_split {p : α → Bool} {l : List α} {i : Nat} (h : lastIndex? p l = some i) :
    ∃ a x b, l = a ++ x :: b ∧ a.length = i ∧ p x ∧ ∀ y ∈ b, p y = false := by
  induction l generalizing i with
  | nil => simp [lastIndex?] at h
  | cons x l ih =>
    unfold lastIndex? at h
    cases hl : lastIndex? p l with
    | some j =>
      rw [hl] at h
      obtain rfl : j + 1 = i := Option.some.inj h
      obtain ⟨a, y, b, rfl, rfl, hy, hb⟩ := ih hl
      exact ⟨x :: a, y, b, rfl, rfl, hy, hb⟩
    | none =>
      rw [hl] at h
      by_cases hx : p x
      · simp only [hx, if_true] at h
        obtain rfl : 0 = i := Option.some.inj h
        exact ⟨[], x, l, rfl, rfl, hx, lastIndex?_none.1 hl⟩
      · simp [hx] at h

/-- **The loose choice in closed form**: the first route of the key that was not served, else the
last route of the key. -/
theorem chooseLoose_cases (routes : List Route) (k : Key) :
    (∃ a r b, routes = a ++ r :: b ∧ chooseLoose routes k = some a.length ∧ r.key = k ∧
      (∀ x ∈ a, x.key = k → x.isFired) ∧ (r.isFired → ∀ x ∈ b, x.key ≠ k)) ∨
    (chooseLoose routes k = none ∧ ∀ x ∈ routes, x.key ≠ k) := by
  unfold chooseLoose
  cases hw : routes.findIdx? fun r => r.key = k && !r.isFired with
  | some i =>
    obtain ⟨a, r, b, rfl, rfl, hr, ha⟩ := findIdx?_split hw
    simp only [Bool.and_eq_true, decide_eq_true_eq, Bool.not_eq_true'] at hr
    refine .inl ⟨a, r, b, rfl, rfl, hr.1, ?_, by simp [hr.2]⟩
    intro x hx hk
    simpa [hk] using ha x hx
  | none =>
    have hall : ∀ x ∈ routes, x.key = k → x.isFired := by
      intro x hx hk
      simpa [hk] using List.findIdx?_eq_none_iff.1 hw x hx
    cases hl : lastIndex? (fun r => decide (r.key = k)) routes with
    | some i =>
      obtain ⟨a, r, b, rfl, rfl, hr, hb⟩ := lastIndex?_split hl
      refine .inl ⟨a, r, b, rfl, rfl, by simpa using hr, ?_, fun _ => by simpa using hb⟩
      exact fun x hx => hall x (List.mem_append_left _ hx)
    | none => exact .inr ⟨rfl, by simpa using lastIndex?_none.1 hl⟩

theorem lookup_eq (t : Table) (method url : String) :
    t.lookup norm method url = t.serve (Key.of norm method url) := rfl

theorem modify_middle (f : α → α) (a b : List α) (x : α) :
    (a ++ x :: b).modify a.length f = a ++ f x :: b := by
  induction a with
  | nil => rfl
  | cons y a ih => simp [ih]

/-- The routes of a key with their positions, in order. -/
def lane (t : Table) (k : Key) : List (Route × Nat) :=
  t.routes.zipIdx.filter fun p => p.1.key = k

@[simp] theorem lane_empty (strict : Bool) (k : Key) : (empty strict).lane k = [] := rfl

theorem mem_lane {p : Route × Nat} :
    p ∈ t.lane k ↔ t.routes[p.2]? = some p.1 ∧ p.1.key = k := by
  unfold lane
  rw [List.mem_filter, List.mem_zipIdx_iff_getElem?, decide_eq_true_eq]

/-- The lanes of a list of routes with one of them singled out. -/
theorem lane_split {a b : List Route} {r : Route} (ht : t.routes = a ++ r :: b) (k : Key) :
    t.lane k = (a.zipIdx.filter fun p => p.1.key = k) ++
      (if r.key = k then [(r, a.length)] else []) ++
      ((b.zipIdx (a.length + 1)).filter fun p => p.1.key = k) := by
  unfold lane
  rw [ht, List.zipIdx_append, List.zipIdx_cons, List.filter_append, List.filter_cons]
  by_cases hr : r.key = k <;> simp [hr]

/-- **Registering** puts the new route at the end of its own lane. -/
theorem lane_add (d : Directive) (k : Key) :
    (t.add norm d).lane k = t.lane k ++
      if (Route.new norm d).key = k then [(Route.new norm d, t.routes.length)] else [] := by
  unfold lane add
  rw [List.zipIdx_append, List.filter_append]
  by_cases hk : (Route.new norm d).key = k <;> simp [hk]

/-- **An answer in loose order.** The lane of the key is split at the route that answers: all routes
before it were served, and if it was, too, none is behind it. No other route changes. -/
theorem serve_lane (ht : t.strict = false) (k : Key) :
    (∃ A p B, t.lane k = A ++ p :: B ∧ (∀ q ∈ A, q.1.isFired) ∧ (p.1.isFired → B = []) ∧
      t.serve k = (some p.1.directive, { t with routes := t.routes.modify p.2 Route.fire }) ∧
      (t.serve k).2.lane k = A ++ (p.1.fire, p.2) :: B ∧
      ∀ k', k' ≠ k → (t.serve k).2.lane k' = t.lane k') ∨
    (t.lane k = [] ∧ t.serve k = (none, t)) := by
  have hc : t.choose k = chooseLoose t.routes k := by simp [choose, ht]
  rcases chooseLoose_cases t.routes k with ⟨a, r, b, hr, hi, hk, ha, hb⟩ | ⟨hi, hn⟩
  · left
    have hs : t.serve k = (some r.directive,
        { t with routes := t.routes.modify a.length Route.fire }) := by
      unfold serve
      rw [hc, hi]
      simp [hr, fireAt, ht]
    have hr' : ({ t with routes := t.routes.modify a.length Route.fire } : Table).routes =
        a ++ r.fire :: b := by simp only [hr, modify_middle]
    refine ⟨_, (r, a.length), _, by simpa [hk] using lane_split hr k, ?_, ?_, hs, ?_, ?_⟩
    · intro q hq
      obtain ⟨hq, hqk⟩ := List.mem_filter.1 hq
      exact ha q.1 (List.fst_mem_of_mem_zipIdx hq) (by simpa using hqk)
    · intro hf
      rw [List.filter_eq_nil_iff]
      intro q hq
      simpa using hb hf q.1 (List.fst_mem_of_mem_zipIdx hq)
    · rw [hs, lane_split hr' k]
      simp [hk]
    · intro k' hk'
      rw [hs, lane_split hr' k', lane_split hr k', Route.fire_key, hk]
      simp [Ne.symm hk']
  · right
    refine ⟨?_, ?_⟩
    · unfold lane
      rw [List.filter_eq_nil_iff]
      intro q hq
      simpa using hn q.1 (List.fst_mem_of_mem_zipIdx hq)
    · unfold serve
      rw [hc, hi]

end Table

end StubProxy
