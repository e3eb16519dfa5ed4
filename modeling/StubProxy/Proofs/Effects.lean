import StubProxy.Proofs.Lane
import StubProxy.Session.History

/-!
# What a step does to a session

* `serve_cases`, `dispatch_cases`: an answer comes from one route, which counts the call, or nothing
  changes in the table.
* `step_silent`, `step_cases`: a step in closed form. What is not recorded at most adds a route or a
  passthrough beginning; what is recorded adds one entry to the history, and fires one route if it
  is answered from it.
* `run_recorded`: the history of a run shows its requests in order. `run_passthrough`: its
  passthrough beginnings are those added.
-/

namespace StubProxy

/-! ## One request -/

/-- The route that is chosen for a key has that key. -/
theorem Table.key_of_choose {t : Table} {k : Key} {i : Nat} (h : t.choose k = some i) :
    ∃ r, t.routes[i]? = some r ∧ r.key = k := by
  unfold choose at h
  split at h
  · unfold chooseStrict at h
    split at h
    · rename_i hany
      obtain ⟨r, hr, hk⟩ := (Option.any_eq_true _ _).1 hany
      obtain rfl := Option.some.inj h
      exact ⟨r, hr, by simpa using hk⟩
    · exact absurd h (by simp)
  · rcases chooseLoose_cases t.routes k with ⟨a, r, b, hr, hc, hk, -⟩ | ⟨hc, -⟩
    · rw [hc] at h
      obtain rfl := Option.some.inj h
      exact ⟨r, by simp [hr], hk⟩
    · rw [hc] at h
      exact absurd h (by simp)

/-- The routes before a position and those behind it. -/
theorem Table.routes_split {t : Table} {i : Nat} {r : Route} (hr : t.routes[i]? = some r) :
    ∃ a b, t.routes = a ++ r :: b ∧ a.length = i := by
  obtain ⟨hi, rfl⟩ := List.getElem?_eq_some_iff.1 hr
  exact ⟨t.routes.take i, t.routes.drop (i + 1), by simp, List.length_take_of_le (Nat.le_of_lt hi)⟩

/-- The routes around the one that is fired stay as they are. -/
theorem Table.fireAt_split (t : Table) {i : Nat} {r : Route} (hr : t.routes[i]? = some r) :
    ∃ a b, t.routes = a ++ r :: b ∧ (t.fireAt i).routes = a ++ r.fire :: b := by
  obtain ⟨a, b, ht, rfl⟩ := routes_split hr
  refine ⟨a, b, ht, ?_⟩
  simp only [fireAt, ht, modify_middle]

/-- What a call does not change, it changes in no route of the table. -/
theorem Table.map_fireAt {β : Type} {f : Route → β} (hf : ∀ r, f r.fire = f r) (t : Table)
    (i : Nat) : (t.fireAt i).routes.map f = t.routes.map f := by
  apply List.ext_getElem?
  intro j
  simp only [fireAt, List.getElem?_map, List.getElem?_modify]
  cases t.routes[j]? with
  | none => rfl
  | some r => by_cases hij : i = j <;> simp [hij, hf]

/-- A table that holds directives under their normal URLs holds these directives. -/
theorem Table.directives_eq {t : Table} {ds : List Directive}
    (h : t.routes.map (fun r => (r.directive, r.matchUrl)) =
      ds.map fun d => (d, Url.normalize d.url)) : t.routes.map (·.directive) = ds := by
  have hfst := congrArg (List.map Prod.fst) h
  rw [List.map_map, List.map_map] at hfst
  exact hfst.trans (List.map_id _)

/-- Serving a key fires the route that is chosen for it. -/
theorem Table.serve_table (t : Table) (k : Key) :
    (t.serve k).2 = match t.choose k with
      | none => t
      | some i => t.fireAt i := by
  unfold serve
  cases t.choose k <;> rfl

/-- **Serving a key** fires one of its routes or changes nothing. -/
theorem Table.serve_cases (t : Table) (k : Key) :
    (∃ i r, t.choose k = some i ∧ t.routes[i]? = some r ∧ r.key = k ∧
      t.serve k = (some r.directive, t.fireAt i)) ∨
    (t.choose k = none ∧ t.serve k = (none, t)) := by
  unfold serve
  cases h : t.choose k with
  | none => exact .inr ⟨rfl, rfl⟩
  | some i =>
    obtain ⟨r, hr, hk⟩ := key_of_choose h
    exact .inl ⟨i, r, rfl, hr, hk, by simp [hr]⟩

namespace Session

variable {s : Session} {x : Step} {method url : String}

/-- The session after a request that was answered from the route at a position. -/
def fired (s : Session) (i : Nat) (method url : String) (status : Nat) : Session :=
  { s with
    table := s.table.fireAt i
    calls := s.calls ++ [⟨method, url, .stubbed status⟩] }

/-- **A decision** is recorded, and fires a route if it was made by one. -/
theorem dispatch_cases (s : Session) (method url : String) :
    (∃ i r, s.table.choose (Key.of Url.normalize method url) = some i ∧
      s.table.routes[i]? = some r ∧ r.key = Key.of Url.normalize method url ∧
      s.dispatch method url = (.stub r.directive, s.fired i method url r.directive.status)) ∨
    (s.table.choose (Key.of Url.normalize method url) = none ∧
      let decision := if s.table.isPassthrough url then .passthrough else .unmatched
      s.dispatch method url = (decision, s.record method url decision.outcome)) := by
  unfold dispatch
  rw [Table.lookup_eq]
  rcases s.table.serve_cases (Key.of Url.normalize method url) with
    ⟨i, r, hc, hr, hk, h⟩ | ⟨hc, h⟩
  · exact .inl ⟨i, r, hc, hr, hk, by rw [h]; rfl⟩
  · refine .inr ⟨hc, ?_⟩
    rw [h]

/-! ## One step -/

/-- The session with the routes and the passthrough beginnings that a step adds. -/
def prepared (s : Session) (x : Step) : Session :=
  { s with
    table :=
      { s.table with
        routes := s.table.routes ++ (x.registered.map (Route.new Url.normalize)).toList
        passthrough := s.table.passthrough ++ x.exempted.toList } }

/-- **What is not recorded** adds a route or a passthrough beginning, or changes nothing. -/
theorem step_silent (hx : x.recorded = none) : (s.step x).2 = s.prepared x := by
  unfold prepared
  cases x with
  | add r =>
    simp only [step, tryAdd, addRule, Step.registered, Step.exempted]
    cases r.parse with
    | error e => simp
    | ok d => cases d <;> simp [register, Table.add]
  | register d => simp [step, register, Table.add, Step.registered, Step.exempted]
  | passthrough start =>
    simp [step, addPassthrough, Table.addPassthrough, Step.registered, Step.exempted]
  | respond method url => simp [Step.recorded] at hx
  | request r =>
    simp only [Step.recorded] at hx
    by_cases hc : r.method = "CONNECT"
    · rw [if_pos hc, Option.map_eq_none_iff] at hx
      simp [step, handle, hc, hx, Step.registered, Step.exempted]
    · simp [hc] at hx

/-- A tunnel is granted only behind a passthrough beginning. -/
theorem handleTunnel_cases (s : Session) (a : List Char) :
    ∃ outcome, (outcome = .passthrough ∨ outcome = .unmatched) ∧
      (s.handleTunnel a).2 = s.record "CONNECT" ("https://" ++ String.ofList a) outcome ∧
      (s.table.passthrough = [] → outcome = .unmatched) := by
  simp only [handleTunnel]
  split
  · rename_i h
    refine ⟨.passthrough, .inl rfl, rfl, ?_⟩
    intro hp
    simp [Table.isPassthroughAuthority, hp] at h
  · exact ⟨.unmatched, .inr rfl, rfl, fun _ => rfl⟩

/-- The outcome of a request that no route answers. -/
theorem outcome_unserved (t : Table) (url : String) :
    let decision : Decision := if t.isPassthrough url then .passthrough else .unmatched
    (decision.outcome = .passthrough ∨ decision.outcome = .unmatched) ∧
      (t.passthrough = [] → decision.outcome = .unmatched) := by
  intro decision
  cases h : t.isPassthrough url with
  | true =>
    refine ⟨.inl (by simp [decision, h, Decision.outcome]), ?_⟩
    intro hp
    simp [Table.isPassthrough, hp] at h
  | false => simp [decision, h, Decision.outcome]

/-- **A request** adds its entry to the history. Either it was answered from a route of its key,
which counts the call, or nothing else changes. -/
theorem step_cases (s : Session) (hx : x.recorded = some (method, url)) :
    (∃ i r, x.asked = some r.key ∧ s.table.choose r.key = some i ∧ s.table.routes[i]? = some r ∧
      s.step x = (x.answerFrom r.directive, s.fired i method url r.directive.status)) ∨
    ((∀ k ∈ x.asked, s.table.choose k = none) ∧
      ∃ outcome, (outcome = .passthrough ∨ outcome = .unmatched) ∧
        (s.step x).2 = s.record method url outcome ∧
        (s.table.passthrough = [] → outcome = .unmatched)) := by
  cases x with
  | add r => simp [Step.recorded] at hx
  | register d => simp [Step.recorded] at hx
  | passthrough start => simp [Step.recorded] at hx
  | respond m u =>
    obtain ⟨rfl, rfl⟩ := Prod.mk.inj (Option.some.inj hx)
    rcases s.dispatch_cases m u with ⟨i, r, hc, hr, hk, h⟩ | ⟨hc, h⟩
    · refine .inl ⟨i, r, by rw [hk]; rfl, by rw [hk, hc], hr, ?_⟩
      simp only [step, respond, h, Step.answerFrom]
    · refine .inr ⟨by simpa [Step.asked] using hc, _, (outcome_unserved s.table u).1, ?_,
        (outcome_unserved s.table u).2⟩
      simp only [step, respond, h]
  | request r =>
    simp only [Step.recorded] at hx
    by_cases hm : r.method = "CONNECT"
    · -- a tunnel is granted or refused without a look at the routes
      rw [if_pos hm] at hx
      obtain ⟨a, ha, hmu⟩ := Option.map_eq_some_iff.1 hx
      obtain ⟨rfl, rfl⟩ := Prod.mk.inj hmu
      obtain ⟨outcome, ho, hs, hp⟩ := s.handleTunnel_cases a
      refine .inr ⟨by simp [Step.asked, hm], outcome, ho, ?_, hp⟩
      simp only [step, handle, if_pos hm, ha, hs]
    · rw [if_neg hm] at hx
      obtain ⟨rfl, rfl⟩ := Prod.mk.inj (Option.some.inj hx)
      rcases s.dispatch_cases r.method r.url with ⟨i, x, hc, hr, hk, h⟩ | ⟨hc, h⟩
      · refine .inl ⟨i, x, by simp [Step.asked, hm, hk], by rw [hk, hc], hr, ?_⟩
        simp only [step, handle, if_neg hm, h, Step.answerFrom]
      · refine .inr ⟨by simpa [Step.asked, hm] using hc, _, (outcome_unserved s.table r.url).1, ?_,
          (outcome_unserved s.table r.url).2⟩
        simp only [step, handle, if_neg hm, h]
        cases s.table.isPassthrough r.url <;> rfl

/-- A request that a route is chosen for is answered from it. -/
theorem step_chosen (s : Session) (hx : x.recorded = some (method, url)) {i : Nat}
    (hi : x.asked.bind s.table.choose = some i) :
    ∃ r, s.table.routes[i]? = some r ∧
      s.step x = (x.answerFrom r.directive, s.fired i method url r.directive.status) := by
  obtain ⟨k, hk, hc⟩ := Option.bind_eq_some_iff.1 hi
  rcases step_cases s hx with ⟨j, r, hasked, hj, hr, hs⟩ | ⟨hn, -⟩
  · obtain rfl : k = r.key := Option.some.inj (hk.symm.trans hasked)
    obtain rfl : i = j := Option.some.inj (hc.symm.trans hj)
    exact ⟨r, hr, hs⟩
  · rw [hn k hk] at hc
    cases hc

/-! ## A whole run -/

@[simp] theorem run_nil (s : Session) : (s.run []).2 = s := rfl

@[simp] theorem run_cons (s : Session) (x : Step) (xs : List Step) :
    (s.run (x :: xs)).2 = ((s.step x).2.run xs).2 := rfl

theorem run_append (s : Session) (xs ys : List Step) :
    (s.run (xs ++ ys)).2 = ((s.run xs).2.run ys).2 := by
  induction xs generalizing s with
  | nil => rfl
  | cons x xs ih => exact ih _

/-- No step changes the options, or ends a session. -/
theorem step_frame (s : Session) (x : Step) :
    (s.step x).2.options = s.options ∧ (s.step x).2.live = s.live := by
  cases hx : x.recorded with
  | none =>
    rw [step_silent hx]
    exact ⟨rfl, rfl⟩
  | some q =>
    rcases step_cases s hx with ⟨i, r, -, -, -, h⟩ | ⟨-, outcome, -, h, -⟩ <;> rw [h] <;>
      exact ⟨rfl, rfl⟩

theorem run_frame (s : Session) (xs : List Step) :
    (s.run xs).2.options = s.options ∧ (s.run xs).2.live = s.live := by
  induction xs generalizing s with
  | nil => exact ⟨rfl, rfl⟩
  | cons x xs ih =>
    obtain ⟨ho, hl⟩ := ih (s.step x).2
    obtain ⟨ho', hl'⟩ := s.step_frame x
    exact ⟨ho.trans ho', hl.trans hl'⟩

theorem exempted_of_recorded (hx : x.recorded = some (method, url)) : x.exempted = none := by
  cases x <;> simp_all [Step.recorded, Step.exempted]

/-- A step adds the passthrough beginning that it names. -/
theorem step_passthrough (s : Session) (x : Step) :
    (s.step x).2.table.passthrough = s.table.passthrough ++ x.exempted.toList := by
  cases hx : x.recorded with
  | none =>
    rw [step_silent hx]
    rfl
  | some q =>
    rw [exempted_of_recorded hx, Option.toList_none, List.append_nil]
    rcases step_cases s hx with ⟨i, r, -, -, -, h⟩ | ⟨-, outcome, -, h, -⟩ <;> rw [h] <;> rfl

/-- The passthrough beginnings of a run are those added, in order. -/
theorem run_passthrough (s : Session) (xs : List Step) :
    (s.run xs).2.table.passthrough = s.table.passthrough ++ xs.filterMap Step.exempted := by
  induction xs generalizing s with
  | nil => simp
  | cons x xs ih =>
    rw [run_cons, ih, step_passthrough, List.append_assoc]
    cases hx : x.exempted <;> simp [hx]

/-- The history of a run goes on with its requests in order, and no earlier entry changes. -/
theorem run_recorded (s : Session) (xs : List Step) :
    ∃ later, (s.run xs).2.calls = s.calls ++ later ∧
      (later.map fun c => (c.method, c.url)) = xs.filterMap Step.recorded := by
  induction xs generalizing s with
  | nil => exact ⟨[], by simp, rfl⟩
  | cons x xs ih =>
    obtain ⟨later, hl, hr⟩ := ih (s.step x).2
    rw [run_cons, hl]
    cases hx : x.recorded with
    | none =>
      rw [step_silent hx]
      exact ⟨later, rfl, by simp [hx, hr]⟩
    | some q =>
      have hcalls : ∃ outcome, (s.step x).2.calls = s.calls ++ [⟨q.1, q.2, outcome⟩] := by
        rcases step_cases s hx with ⟨i, r, -, -, -, h⟩ | ⟨-, outcome, -, h, -⟩
        · exact ⟨_, by rw [h]; rfl⟩
        · exact ⟨outcome, by rw [h]; rfl⟩
      obtain ⟨outcome, hc⟩ := hcalls
      rw [hc]
      exact ⟨⟨q.1, q.2, outcome⟩ :: later, by simp, by simp [hx, hr]⟩

end Session

end StubProxy
