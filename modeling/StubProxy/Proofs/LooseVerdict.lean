import StubProxy.Proofs.Opening

/-!
# What a session in loose order closes with

In loose order it does not matter in which order keys are asked for, only how often.

* `Spent`: of each key, as many routes were served as it was asked for, and the first ones.
  `Spent.serve`: serving a key keeps that.
* `Spent.unfired_eq`, `Spent.unfired_eq_nil`: so the counts tell what was never served.
* `LooseRun`: the same of a session, and which requests it missed. `LooseRun.run`: a run keeps it.
* `loose_verdict`: how a scope in loose order closes.
-/

namespace StubProxy

/-! ## The table -/

/-- What is left of a list when of each key the first `m` are gone: those that come after at least
so many of their key. -/
def leftOver {α : Type} (key : α → Key) (m : Key → Nat) (l : List α) : List α :=
  (l.zipIdx.filter fun p => m (key p.1) ≤ ((l.take p.2).map key).count (key p.1)).map Prod.fst

/-- What is left does not depend on what else the elements hold. -/
theorem map_leftOver {α β : Type} {key : α → Key} {key' : β → Key} {f : α → β} {l : List α}
    (hf : ∀ a ∈ l, key' (f a) = key a) (m : Key → Nat) :
    (leftOver key m l).map f = leftOver key' m (l.map f) := by
  have hkeys : ∀ i, ((l.map f).take i).map key' = (l.take i).map key := by
    intro i
    rw [← List.map_take, List.map_map]
    exact List.map_congr_left fun a ha => hf a (List.mem_of_mem_take ha)
  unfold leftOver
  rw [List.zipIdx_map, List.filter_map, List.map_map, List.map_map]
  congr 1
  apply List.filter_congr
  intro p hp
  simp [hkeys, hf p.1 (List.fst_mem_of_mem_zipIdx hp)]

/-- Of each key, the routes served are the first ones, as many as it was asked for. -/
structure Spent (t : Table) (asked : List Key) : Prop where
  loose : t.strict = false
  fired : ∀ k j p, (t.lane k)[j]? = some p → (p.1.isFired ↔ j < asked.count k)

variable {t : Table} {asked : List Key}

/-- One more route of a lane is served: the first `m` were, then the first `m + 1` are. -/
theorem fired_succ {A B : List (Route × Nat)} {p : Route × Nat} {m : Nat}
    (h : ∀ j q, (A ++ p :: B)[j]? = some q → (q.1.isFired ↔ j < m)) (hA : ∀ q ∈ A, q.1.isFired)
    (hB : p.1.isFired → B = []) (j : Nat) {q : Route × Nat}
    (hq : (A ++ (p.1.fire, p.2) :: B)[j]? = some q) : q.1.isFired ↔ j < m + 1 := by
  have hlen : A.length ≤ m := by
    rcases Nat.eq_zero_or_pos A.length with hz | hz
    · omega
    · have hlast := h (A.length - 1) A[A.length - 1]
        (by rw [List.getElem?_append_left (by omega), List.getElem?_eq_getElem])
      have := hlast.1 (hA _ (List.getElem_mem _))
      omega
  rcases Nat.lt_trichotomy j A.length with hj | hj | hj
  · rw [List.getElem?_append_left hj] at hq
    simp only [hA q (List.mem_of_getElem? hq), true_iff]
    omega
  · subst hj
    obtain rfl : (p.1.fire, p.2) = q := by simpa using hq
    simp only [Route.isFired_fire, true_iff]
    omega
  · -- something is left behind `p`, so `p` was the first that was not served
    obtain ⟨i, rfl⟩ : ∃ i, j = A.length + (i + 1) := ⟨j - A.length - 1, by omega⟩
    rw [List.getElem?_append_right (by omega), Nat.add_sub_cancel_left,
      List.getElem?_cons_succ] at hq
    have hp : ¬ p.1.isFired := by
      intro hf
      simp [hB hf] at hq
    have hm : ¬ A.length < m := fun hlt => hp ((h A.length p (by simp)).2 hlt)
    have hold := h (A.length + (i + 1)) q
      (by rw [List.getElem?_append_right (by omega), Nat.add_sub_cancel_left,
        List.getElem?_cons_succ, hq])
    rw [hold]
    omega

/-- **Serving a key** spends the next route of its lane, if one is left. -/
theorem Spent.serve (h : Spent t asked) (k : Key) : Spent (t.serve k).2 (asked ++ [k]) := by
  rcases Table.serve_lane h.loose k with ⟨A, p, B, hl, hA, hB, hs, hl', hother⟩ | ⟨hl, hs⟩
  · refine ⟨by rw [hs]; exact h.loose, ?_⟩
    intro k' j q hq
    by_cases hk : k' = k
    · subst hk
      have hold := h.fired k'
      rw [hl] at hold
      rw [hl'] at hq
      rw [List.count_append, List.count_singleton_self]
      exact fired_succ hold hA hB j hq
    · -- no other lane has changed, and no other count
      rw [hother k' hk] at hq
      rw [List.count_append, List.count_singleton]
      simpa [Ne.symm hk] using h.fired k' j q hq
  · -- the lane of the key is empty, so its count is not looked at
    rw [hs]
    refine ⟨h.loose, ?_⟩
    intro k' j p hp
    have hk : k' ≠ k := by
      rintro rfl
      simp [hl] at hp
    rw [List.count_append, List.count_singleton]
    simpa [Ne.symm hk] using h.fired k' j p hp

/-- The routes of a key are as many with their positions as without. -/
theorem length_filter_zipIdx (routes : List Route) (n : Nat) (k : Key) :
    ((routes.zipIdx n).filter fun p => p.1.key = k).length = (routes.map Route.key).count k := by
  have hfst := List.zipIdx_map_fst n routes
  calc ((routes.zipIdx n).filter fun p => p.1.key = k).length
      = ((routes.zipIdx n).map Prod.fst).countP fun r => r.key = k := by
        rw [List.countP_map, List.countP_eq_length_filter]
        rfl
    _ = (routes.map Route.key).count k := by
        rw [hfst, List.count, List.countP_map]
        exact List.countP_congr fun r _ => by simp

/-- A route stands in its lane behind the earlier routes of its key. -/
theorem Table.lane_rank {i : Nat} {r : Route} (hr : t.routes[i]? = some r) :
    (t.lane r.key)[((t.routes.take i).map Route.key).count r.key]? = some (r, i) := by
  obtain ⟨a, b, ht, rfl⟩ := routes_split hr
  rw [lane_split ht, ht, List.take_left, ← length_filter_zipIdx a 0]
  simp

theorem Table.length_lane (t : Table) (k : Key) :
    (t.lane k).length = (t.routes.map Route.key).count k := length_filter_zipIdx _ _ _

/-- **What was never served** comes after as many of its key as were asked for. -/
theorem Spent.unfired_eq (h : Spent t asked) :
    t.unfired = leftOver Route.key (fun k => asked.count k) t.routes := by
  rw [t.unfired_zipIdx, leftOver]
  congr 1
  apply List.filter_congr
  intro p hp
  have hrank := h.fired p.1.key _ _ (Table.lane_rank (List.mem_zipIdx_iff_getElem?.1 hp))
  rw [Bool.eq_iff_iff, Bool.not_eq_true', ← Bool.not_eq_true, decide_eq_true_eq, hrank]
  exact Nat.not_lt

/-- **Nothing is left** exactly if every key was asked for as often as it was registered. -/
theorem Spent.unfired_eq_nil (h : Spent t asked) :
    t.unfired = [] ↔ ∀ k, (t.routes.map Route.key).count k ≤ asked.count k := by
  have hfired : t.unfired = [] ↔ ∀ r ∈ t.routes, r.isFired := by
    simp [Table.unfired]
  rw [hfired]
  constructor
  · intro hall k
    rw [← t.length_lane k]
    -- the last route of the lane was served, too
    rcases Nat.eq_zero_or_pos (t.lane k).length with hz | hz
    · omega
    · have hlt : (t.lane k).length - 1 < (t.lane k).length := by omega
      have hget := List.getElem?_eq_getElem hlt
      have hmem := (Table.mem_lane.1 (List.mem_of_getElem? hget)).1
      have := (h.fired k _ _ hget).1 (hall _ (List.mem_of_getElem? hmem))
      omega
  · intro hall r hr
    obtain ⟨i, hi⟩ := List.mem_iff_getElem?.1 hr
    have hget := Table.lane_rank hi
    have hlt := (List.getElem?_eq_some_iff.1 hget).1
    rw [t.length_lane] at hlt
    exact (h.fired _ _ _ hget).2 (Nat.lt_of_lt_of_le hlt (hall r.key))

/-- A key is refused in loose order exactly if nothing was registered for it. -/
theorem choose_eq_none_iff (hs : t.strict = false) (k : Key) :
    t.choose k = none ↔ (t.routes.map Route.key).count k = 0 := by
  have hc : t.choose k = Table.chooseLoose t.routes k := by simp [Table.choose, hs]
  rw [hc, List.count_eq_zero, List.mem_map]
  rcases Table.chooseLoose_cases t.routes k with ⟨a, r, b, hr, hi, hk, -⟩ | ⟨hi, hn⟩
  · rw [hi]
    constructor
    · intro h
      simp at h
    · intro h
      exact absurd ⟨r, by simp [hr], hk⟩ h
  · rw [hi]
    refine iff_of_true rfl ?_
    rintro ⟨r, hr, hk⟩
    exact hn r hr hk

/-! ## The session -/

namespace Session

/-- The requests for no key of the directives, in order. -/
def missed (ds : List Directive) (xs : List Step) : List (String × String) :=
  (xs.filter fun x => x.asked.all fun k => (ds.map Directive.key).count k = 0).filterMap
    Step.recorded

/-- A session in loose order that holds the directives, after the requests `xs`. -/
structure LooseRun (ds : List Directive) (xs : List Step) (s : Session) : Prop where
  spent : Spent s.table (xs.filterMap Step.asked)
  passthrough : s.table.passthrough = []
  routes : s.table.routes.map (fun r => (r.directive, r.matchUrl)) =
    ds.map fun d => (d, Url.normalize d.url)
  missed : (s.unmatched.map fun c => (c.method, c.url)) = missed ds xs

variable {ds : List Directive} {xs : List Step} {s : Session} {x : Step}

theorem LooseRun.keys (h : LooseRun ds xs s) :
    s.table.routes.map Route.key = ds.map Directive.key := by
  have hkeys := congrArg (List.map fun p => (p.1.method, p.2)) h.routes
  rw [List.map_map, List.map_map] at hkeys
  exact hkeys

theorem Fresh.looseRun {o : Options} (h : s.Fresh o ds) (ho : o.strictOrder = false) :
    LooseRun ds [] s := by
  refine ⟨⟨h.strict.trans ho, ?_⟩, h.passthrough, ?_, by simp [h.untouched.2, Session.missed]⟩
  · intro k j p hp
    have hmem := (Table.mem_lane.1 (List.mem_of_getElem? hp)).1
    rw [h.routes, List.getElem?_map] at hmem
    obtain ⟨d, -, hd⟩ := Option.map_eq_some_iff.1 hmem
    simp [← hd]
  · rw [h.routes, List.map_map]
    rfl

/-- **A request** spends a route of its key, or it is missed. -/
theorem LooseRun.step (h : LooseRun ds xs s) (hx : x.recorded.isSome) :
    LooseRun ds (xs ++ [x]) (s.step x).2 := by
  obtain ⟨q, hq⟩ := Option.isSome_iff_exists.1 hx
  have hasks : (xs ++ [x]).filterMap Step.asked = xs.filterMap Step.asked ++ x.asked.toList := by
    rw [List.filterMap_append]
    cases hk : x.asked <;> simp [hk]
  have hmissed : Session.missed ds (xs ++ [x]) = Session.missed ds xs ++
      if x.asked.all fun k => (ds.map Directive.key).count k = 0 then [q] else [] := by
    unfold Session.missed
    rw [List.filter_append, List.filterMap_append]
    cases hall : x.asked.all fun k => (ds.map Directive.key).count k = 0 <;> simp [hall, hq]
  have hnone := choose_eq_none_iff h.spent.loose
  rw [h.keys] at hnone
  rcases step_cases s hq with ⟨i, r, hasked, hc, hr, hs⟩ | ⟨hc, outcome, -, hs, ho⟩
  · -- a directive of the key was registered, so the request is none of the missed
    have hspent := h.spent.serve r.key
    rw [Table.serve_table, hc] at hspent
    have hpos : (ds.map Directive.key).count r.key ≠ 0 := by
      rw [Ne, ← hnone, hc]
      simp
    rw [hs]
    refine ⟨?_, h.passthrough, ?_, ?_⟩
    · rw [hasks, hasked]
      exact hspent
    · exact (s.table.map_fireAt (fun _ => rfl) i).trans h.routes
    · rw [hmissed, hasked, ← h.missed]
      simp [unmatched, fired, Call.isUnmatched, hpos]
  · -- nothing has the key, or there is none to ask for: a tunnel
    have hzero : x.asked.all fun k => (ds.map Directive.key).count k = 0 := by
      rw [Option.all_eq_true]
      intro k hk
      exact decide_eq_true ((hnone k).1 (hc k hk))
    rw [hs]
    refine ⟨?_, h.passthrough, h.routes, ?_⟩
    · rw [hasks]
      cases hasked : x.asked with
      | none =>
        rw [Option.toList_none, List.append_nil]
        exact h.spent
      | some k =>
        have hspent := h.spent.serve k
        rw [Table.serve_table, hc k hasked] at hspent
        exact hspent
    · rw [hmissed, if_pos hzero, ← h.missed]
      simp [unmatched, record, ho h.passthrough, Call.isUnmatched]

/-- **A run of requests.** -/
theorem LooseRun.run (h : LooseRun ds xs s) {ys : List Step} (hy : ∀ y ∈ ys, y.recorded.isSome) :
    LooseRun ds (xs ++ ys) (s.run ys).2 := by
  induction ys generalizing xs s with
  | nil => simpa using h
  | cons y ys ih =>
    rw [List.forall_mem_cons] at hy
    have hrest := ih (h.step hy.1) hy.2
    rw [List.append_assoc] at hrest
    exact hrest

/-- Nothing is missed if every request is for a key that was registered. -/
theorem missed_eq_nil (hx : ∀ x ∈ xs, x.recorded.isSome) :
    missed ds xs = [] ↔ ∀ x ∈ xs, ∃ k ∈ x.asked, 0 < (ds.map Directive.key).count k := by
  unfold missed
  rw [List.filterMap_eq_nil_iff]
  constructor
  · intro hnil x hm
    cases hall : x.asked.all fun k => (ds.map Directive.key).count k = 0 with
    | true =>
      have hrecorded := hx x hm
      rw [hnil x (List.mem_filter.2 ⟨hm, hall⟩)] at hrecorded
      simp at hrecorded
    | false =>
      cases hk : x.asked with
      | none => simp [hk] at hall
      | some k => exact ⟨k, rfl, Nat.pos_of_ne_zero (by simpa [hk] using hall)⟩
  · intro hall x hm
    obtain ⟨hm, hzero⟩ := List.mem_filter.1 hm
    obtain ⟨k, hk, hpos⟩ := hall x hm
    have hk0 := of_decide_eq_true ((Option.all_eq_true _ _).1 hzero k hk)
    omega

/-- What was never served, as it is reported. -/
theorem LooseRun.unfired (h : LooseRun ds xs s) :
    s.table.unfired.map Route.summary =
      (leftOver Directive.key (fun k => (xs.filterMap Step.asked).count k) ds).map fun d =>
        d.method ++ " " ++ Url.normalize d.url := by
  have hurl : ∀ r ∈ s.table.routes, r.matchUrl = Url.normalize r.directive.url := by
    intro r hr
    have hpair := List.mem_map_of_mem (f := fun r : Route => (r.directive, r.matchUrl)) hr
    rw [h.routes] at hpair
    obtain ⟨d, -, hd⟩ := List.mem_map.1 hpair
    obtain ⟨rfl, hm⟩ := Prod.mk.inj hd
    exact hm.symm
  have hds : s.table.routes.map (·.directive) = ds := Table.directives_eq h.routes
  have hkey : ∀ r ∈ s.table.routes, r.directive.key = r.key := by
    intro r hr
    simp [Route.key, Directive.key, Key.of, hurl r hr]
  rw [← hds, ← map_leftOver hkey, ← h.spent.unfired_eq, List.map_map]
  apply List.map_congr_left
  intro r hr
  simp [Route.summary, hurl r (List.mem_filter.1 hr).1]

end Session

/-- **What a scope in loose order closes with** depends on how often each key was asked for. It
closes well exactly if every request was for a key that a rule registers, and every key was asked
for as often as it was registered. A request for any other key is reported, in the order of the
requests. Else the rules are reported that come, among those of their key, after as many as it was
asked for. -/
theorem loose_verdict (net : Network) (config : Config) (rules : List Rule) (env : Environment)
    (address : SocketAddress) (ds : List Directive) (requests : List Session.Step)
    (hb : config.bypass = false) (ho : config.engine.strictOrder = false)
    (hu : config.engine.failOnUnmatched = true) (ha : config.engine.assertAllFired = true)
    (hn : net.listen config.engine.listenAddr = .ok address) (hr : Rule.directives rules = .ok ds)
    (hx : ∀ x ∈ requests, x.recorded.isSome) :
    let registered k := (ds.map Directive.key).count k
    let asked k := (requests.filterMap Session.Step.asked).count k
    ∃ sc, Scope.enter net config rules env = .ok sc ∧
      ((sc.after requests).close.1 = .value () ↔
        (∀ x ∈ requests, ∃ k ∈ x.asked, 0 < registered k) ∧ ∀ k, registered k ≤ asked k) ∧
      ((∃ x ∈ requests, ∀ k ∈ x.asked, registered k = 0) →
        (sc.after requests).close.1 = .failed (.unmatchedRequests
          ((Session.missed ds requests).map fun q => q.1 ++ " " ++ q.2))) ∧
      ((∀ x ∈ requests, ∃ k ∈ x.asked, 0 < registered k) → (∃ k, asked k < registered k) →
        (sc.after requests).close.1 = .failed (.unfiredDirectives
          ((leftOver Directive.key asked ds).map fun d =>
            d.method ++ " " ++ Url.normalize d.url))) := by
  intro registered asked
  obtain ⟨sc, s, hsc, hs, hfresh⟩ := Scope.enter_fresh env hb hn hr
  have hrun := (hfresh.looseRun ho).run hx
  rw [List.nil_append] at hrun
  obtain ⟨hok, hmissed, hleft⟩ := Scope.close_after hs hfresh hu ha requests
  have hnil : (s.run requests).2.unmatched = [] ↔
      ∀ x ∈ requests, ∃ k ∈ x.asked, 0 < registered k := by
    rw [← Session.missed_eq_nil hx, ← hrun.missed, List.map_eq_nil_iff]
  have hfired : (s.run requests).2.table.unfired = [] ↔ ∀ k, registered k ≤ asked k := by
    rw [hrun.spent.unfired_eq_nil, hrun.keys]
  refine ⟨sc, hsc, by rw [hok, hnil, hfired], ?_, ?_⟩
  · rintro ⟨x, hm, hzero⟩
    have hne : (s.run requests).2.unmatched ≠ [] := by
      rw [Ne, hnil]
      intro hall
      obtain ⟨k, hk, hpos⟩ := hall x hm
      have := hzero k hk
      omega
    rw [hmissed hne, ← hrun.missed, List.map_map]
    rfl
  · rintro hall ⟨k, hk⟩
    have hne : (s.run requests).2.table.unfired ≠ [] := by
      rw [Ne, hfired]
      intro hle
      have := hle k
      omega
    rw [hleft (hnil.2 hall) hne, hrun.unfired]

/-- Two rules for one URL in two forms, and one for another URL between them. -/
def twoOfThree : List Rule :=
  [.text "GET http://a.b/1 -> 200 :one", .text "GET http://a.b/2 -> 200 :two",
    .text "GET HTTP://A.B:80/1 -> 200 :again"]

/-- Asked for once each, the second rule of the URL is left over; asked for in any order and often
enough, none is; and what no rule is for is reported whatever else was asked for. -/
theorem loose_verdict_two_of_three :
    let once : List Session.Step := [.respond "GET" "http://a.b/2", .respond "GET" "http://a.b/1"]
    let again : Session.Step := .respond "GET" "http://a.b/1"
    let other : Session.Step := .respond "PUT" "http://A.B/1"
    ∃ sc, Scope.enter .isolated .default twoOfThree .empty = .ok sc ∧
      (sc.after once).close.1 = .failed (.unfiredDirectives ["GET http://a.b/1"]) ∧
      (sc.after (again :: once)).close.1 = .value () ∧
      (sc.after (other :: once)).close.1 = .failed (.unmatchedRequests ["PUT http://A.B/1"]) := by
  intro once again other
  have hds : Rule.directives twoOfThree = .ok
      [.new "GET" "http://a.b/1" 200 (.text "one"), .new "GET" "http://a.b/2" 200 (.text "two"),
        .new "GET" "HTTP://A.B:80/1" 200 (.text "again")] := rfl
  have hclose := fun requests => loose_verdict .isolated .default twoOfThree .empty _ _ requests
    rfl rfl rfl rfl rfl hds
  obtain ⟨sc, hsc, -, -, honce⟩ := hclose once (by decide)
  obtain ⟨sc', hsc', hagain, -, -⟩ := hclose (again :: once) (by decide)
  obtain ⟨sc'', hsc'', -, hother, -⟩ := hclose (other :: once) (by decide)
  obtain rfl : sc = sc' := Except.ok.inj (hsc.symm.trans hsc')
  obtain rfl : sc = sc'' := Except.ok.inj (hsc.symm.trans hsc'')
  refine ⟨sc, hsc, ?_, ?_, ?_⟩
  · rw [honce (by decide +kernel) ⟨("GET", "http://a.b/1"), by decide +kernel⟩]
    decide +kernel
  · rw [hagain]
    refine ⟨by decide +kernel, fun k => Nat.le_of_eq ?_⟩
    exact List.Perm.count_eq (by decide +kernel) k
  · rw [hother ⟨other, List.mem_cons_self, by decide +kernel⟩]
    decide +kernel

end StubProxy
