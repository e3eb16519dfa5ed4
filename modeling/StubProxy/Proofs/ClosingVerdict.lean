import StubProxy.Proofs.Opening
import StubProxy.Session.Event

/-!
# What a session closes with, from its history

A session is judged by its counters and its entries. Both are tied to the events of the run here,
for any session and any steps.

* `step_handling`: what a request does, by how it is handled.
* `run_routes`: the routes of a run are those registered. `run_firedAt`: a route has been served
  exactly if an event names it. `run_missed`: the missed requests are the events that were refused.
* `close_judged` brings them together: the verdict is the one that the events call for.
-/

namespace StubProxy

/-! ## The table -/

/-- Whether the route at a position has been served. -/
def Table.firedAt (t : Table) (i : Nat) : Bool := (t.routes[i]?).any Route.isFired

/-- Firing a route serves it and no other. -/
theorem Table.firedAt_fireAt {t : Table} {i : Nat} {r : Route} (hr : t.routes[i]? = some r)
    (j : Nat) : (t.fireAt i).firedAt j ↔ t.firedAt j ∨ i = j := by
  unfold firedAt fireAt
  rw [List.getElem?_modify]
  by_cases hij : i = j
  · subst hij
    simp [hr]
  · cases t.routes[j]? <;> simp [hij]

/-- A selection by position does not depend on what else the elements hold. -/
theorem zipIdx_filter_map {α β : Type} (f : α → β) (p : Nat → Bool) (l : List α) :
    ((l.map f).zipIdx.filter fun q => p q.2) =
      (l.zipIdx.filter fun q => p q.2).map (Prod.map f id) := by
  rw [List.zipIdx_map, List.filter_map]
  rfl

/-- What was never served, as it is reported, from the directives and which of them were served. -/
theorem Table.unfired_summary {t : Table} {ds : List Directive}
    (h : t.routes.map (fun r => (r.directive, r.matchUrl)) =
      ds.map fun d => (d, Url.normalize d.url)) :
    t.unfired.map Route.summary = (ds.zipIdx.filter fun p => !t.firedAt p.2).map fun p =>
      p.1.method ++ " " ++ Url.normalize p.1.url := by
  -- the report reads no more of a route than `h` tells, and its position
  have hzip := congrArg
    (fun l : List (Directive × String) => (l.zipIdx.filter fun q => !t.firedAt q.2).map fun q =>
      q.1.1.method ++ " " ++ q.1.2) h
  simp only [zipIdx_filter_map _ fun i => !t.firedAt i, List.map_map] at hzip
  have hfired : t.unfired = (t.routes.zipIdx.filter fun p => !t.firedAt p.2).map Prod.fst := by
    rw [t.unfired_zipIdx]
    congr 1
    apply List.filter_congr
    intro p hp
    simp [firedAt, List.mem_zipIdx_iff_getElem?.1 hp]
  rw [hfired, List.map_map]
  exact hzip

namespace Session

variable {s : Session} {x : Step} {method url : String}

/-! ## One step -/

/-- **A request that no route is chosen for**, in closed form: it is left to the network or refused,
and recorded so. -/
theorem step_unserved_eq (s : Session) (hx : x.recorded = some (method, url))
    (hn : ∀ k ∈ x.asked, s.table.choose k = none) :
    s.step x = if x.isExempt s.table then (x.passage, s.record method url .passthrough)
      else (x.refusal method url, s.record method url .unmatched) := by
  cases x with
  | respond m u =>
    obtain ⟨rfl, rfl⟩ := Prod.mk.inj (Option.some.inj hx)
    rcases s.dispatch_cases m u with ⟨i, r, hc, -⟩ | ⟨-, h⟩
    · rw [hn _ rfl] at hc
      cases hc
    · have hexempt : (Step.respond m u).isExempt s.table = s.table.isPassthrough u := rfl
      rw [hexempt]
      simp only [step, respond, h]
      cases s.table.isPassthrough u <;> rfl
  | request r =>
    simp only [Step.recorded] at hx
    by_cases hm : r.method = "CONNECT"
    · rw [if_pos hm] at hx
      obtain ⟨a, ha, hmu⟩ := Option.map_eq_some_iff.1 hx
      obtain ⟨rfl, rfl⟩ := Prod.mk.inj hmu
      simp only [step, handle, if_pos hm, ha, handleTunnel, Step.isExempt, Option.any_some,
        Step.passage, Option.getD_some]
      split <;> rfl
    · rw [if_neg hm] at hx
      obtain ⟨rfl, rfl⟩ := Prod.mk.inj (Option.some.inj hx)
      rcases s.dispatch_cases r.method r.url with ⟨i, x, hc, -⟩ | ⟨-, h⟩
      · rw [hn _ (by simp [Step.asked, hm])] at hc
        cases hc
      · have hexempt : (Step.request r).isExempt s.table = s.table.isPassthrough r.url :=
          if_neg hm
        rw [hexempt]
        simp only [step, handle, if_neg hm, h, Step.passage]
        cases s.table.isPassthrough r.url <;> rfl
  | _ => simp [Step.recorded] at hx

theorem Step.isPassed_passage (x : Step) : x.passage.isPassed := by
  cases x with
  | request r =>
    simp only [Step.passage]
    split <;> rfl
  | _ => rfl

theorem Step.isPassed_refusal (x : Step) (method url : String) :
    (x.refusal method url).isPassed = false := by
  cases x <;> rfl

/-- How a request is handled that no route is chosen for. -/
theorem handling_unserved (hx : x.recorded = some (method, url))
    (hn : x.asked.bind s.table.choose = none) :
    s.handling x = if x.isExempt s.table then .passed else .refused := by
  simp only [handling, hn, step_unserved_eq s hx (Option.bind_eq_none_iff.1 hn)]
  cases x.isExempt s.table with
  | true => exact if_pos x.isPassed_passage
  | false => simp [Step.isPassed_refusal]

/-- **What a request does**, by how it is handled: it fires the route that it is answered from, or
it is left to the network or refused, and the table stays as it is. -/
theorem step_handling (s : Session) (hx : x.recorded = some (method, url)) :
    (∃ i r, s.handling x = .served i ∧ s.table.routes[i]? = some r ∧
      s.step x = (x.answerFrom r.directive, s.fired i method url r.directive.status)) ∨
    (s.handling x = .passed ∧ (s.step x).1.isPassed ∧
      (s.step x).2 = s.record method url .passthrough) ∨
    (s.handling x = .refused ∧
      s.step x = (x.refusal method url, s.record method url .unmatched)) := by
  cases hi : x.asked.bind s.table.choose with
  | some i =>
    obtain ⟨r, hr, h⟩ := step_chosen s hx hi
    exact .inl ⟨i, r, by simp [handling, hi], hr, h⟩
  | none =>
    rw [handling_unserved hx hi, step_unserved_eq s hx (Option.bind_eq_none_iff.1 hi)]
    cases x.isExempt s.table with
    | true => exact .inr (.inl ⟨rfl, x.isPassed_passage, rfl⟩)
    | false => exact .inr (.inr ⟨rfl, rfl⟩)

theorem registered_of_recorded (hx : x.recorded = some (method, url)) : x.registered = none := by
  cases x <;> simp_all [Step.recorded, Step.registered]

/-! ## A whole run -/

/-- A step adds the route of the directive that it registers, and changes no other directive. -/
theorem step_routes (s : Session) (x : Step) :
    (s.step x).2.table.routes.map (fun r => (r.directive, r.matchUrl)) =
      s.table.routes.map (fun r => (r.directive, r.matchUrl)) ++
        x.registered.toList.map fun d => (d, Url.normalize d.url) := by
  cases hx : x.recorded with
  | none =>
    rw [step_silent hx]
    cases hd : x.registered <;> simp [prepared, hd, Route.new]
  | some q =>
    rw [registered_of_recorded hx]
    rcases step_cases s hx with ⟨i, r, -, -, -, h⟩ | ⟨-, outcome, -, h, -⟩
    · rw [h, Option.toList_none, List.map_nil, List.append_nil]
      exact s.table.map_fireAt (fun _ => rfl) i
    · rw [h]
      simp [record]

/-- **The routes of a run** are those registered, in order. -/
theorem run_routes (s : Session) (xs : List Step) :
    (s.run xs).2.table.routes.map (fun r => (r.directive, r.matchUrl)) =
      s.table.routes.map (fun r => (r.directive, r.matchUrl)) ++
        (xs.filterMap Step.registered).map fun d => (d, Url.normalize d.url) := by
  induction xs generalizing s with
  | nil => simp
  | cons x xs ih =>
    rw [run_cons, ih, step_routes, List.append_assoc, ← List.map_append]
    cases hd : x.registered <;> simp [hd]

/-- A step serves the route that its event names. -/
theorem step_firedAt (s : Session) (x : Step) (i : Nat) :
    (s.step x).2.table.firedAt i ↔
      s.table.firedAt i ∨ ∃ e ∈ s.event x, e.isServedFrom i := by
  cases hx : x.recorded with
  | none =>
    -- a route that is registered has not been served
    rw [step_silent hx]
    simp only [event, hx, Option.map_none]
    unfold Table.firedAt prepared
    rcases Nat.lt_or_ge i s.table.routes.length with hlt | hge
    · rw [List.getElem?_append_left hlt]
      simp
    · rw [List.getElem?_append_right hge, List.getElem?_eq_none hge]
      cases x.registered with
      | none => simp
      | some d => cases i - s.table.routes.length <;> simp
  | some q =>
    simp only [event, hx, Option.map_some]
    rcases step_handling s hx with ⟨j, r, hh, hr, h⟩ | ⟨hh, -, h⟩ | ⟨hh, h⟩
    · rw [h, hh]
      simpa [Event.isServedFrom, fired] using Table.firedAt_fireAt hr i
    · rw [h, hh]
      simp [Event.isServedFrom, record]
    · rw [h, hh]
      simp [Event.isServedFrom, record]

/-- **A route has been served** exactly if it had been before, or an event of the run names it. -/
theorem run_firedAt (s : Session) (xs : List Step) (i : Nat) :
    (s.run xs).2.table.firedAt i ↔ s.table.firedAt i ∨ (s.events xs).any (·.isServedFrom i) := by
  induction xs generalizing s with
  | nil => simp [events]
  | cons x xs ih =>
    rw [run_cons, ih, step_firedAt, events, List.any_append, Bool.or_eq_true, or_assoc]
    cases s.event x <;> simp

/-- A run has one event for each request that is recorded, in order. -/
theorem events_recorded (s : Session) (xs : List Step) :
    ((s.events xs).map fun e => (e.method, e.url)) = xs.filterMap Step.recorded := by
  induction xs generalizing s with
  | nil => rfl
  | cons x xs ih =>
    rw [events, List.map_append, ih, event]
    cases hx : x.recorded <;> simp [hx]

/-- A step misses the request that its event refuses. -/
theorem step_missed (s : Session) (x : Step) :
    (s.step x).2.unmatched.map Call.summary = s.unmatched.map Call.summary ++
      ((s.event x).toList.filter Event.isRefused).map Event.summary := by
  cases hx : x.recorded with
  | none =>
    rw [step_silent hx]
    simp [event, hx, prepared, unmatched]
  | some q =>
    -- each kind of entry is missed exactly if its event is refused
    rcases step_handling s hx with ⟨j, r, hh, hr, h⟩ | ⟨hh, -, h⟩ | ⟨hh, h⟩ <;> rw [h] <;>
      simp [event, hx, hh, unmatched, fired, record, Call.isUnmatched, Event.isRefused,
        Call.summary, Event.summary]

/-- **The missed requests** of a run are those refused, in order. -/
theorem run_missed (s : Session) (xs : List Step) :
    (s.run xs).2.unmatched.map Call.summary =
      s.unmatched.map Call.summary ++ ((s.events xs).filter Event.isRefused).map Event.summary := by
  induction xs generalizing s with
  | nil => simp [events]
  | cons x xs ih =>
    rw [run_cons, ih, step_missed, events, List.filter_append, List.map_append, List.append_assoc]

/-! ## The verdict -/

/-- **An answer shows how the request was handled.** -/
theorem event_shows {s : Session} {ds : List Directive}
    (hds : s.table.routes.map (·.directive) = ds) {x : Step} {e : Event} (he : e ∈ s.event x) :
    x.Shows ds (s.step x).1 e := by
  obtain ⟨⟨method, url⟩, hx, rfl⟩ := Option.map_eq_some_iff.1 he
  rcases step_handling s hx with ⟨i, r, hh, hr, h⟩ | ⟨hh, hp, -⟩ | ⟨hh, h⟩
  · have hd : ds[i]? = some r.directive := by
      rw [← hds, List.getElem?_map, hr]
      rfl
    simp only [Step.Shows, hh]
    exact ⟨r.directive, hd, by rw [h]⟩
  · simpa only [Step.Shows, hh] using hp
  · simp only [Step.Shows, hh, h]

/-- **What a session closes with.** A run has one event for each request, and the answer shows how
the request was handled. If some request was refused and that is a failure, closing reports the
refused requests in order. Else, if no request was answered from some registration and that is a
failure, it reports all those registrations in order. Else it closes well. -/
theorem close_judged (options : Options) (address : SocketAddress) (xs : List Step)
    (guard : Option ProxyGuard) (env : Environment) :
    let s := start options address
    let events := s.events xs
    let refused := events.filter Event.isRefused
    let idle := (xs.filterMap Step.registered).zipIdx.filter fun p =>
      !events.any (·.isServedFrom p.2)
    (events.map fun e => (e.method, e.url)) = xs.filterMap Step.recorded ∧
    (∀ ys x, ∀ e ∈ (s.run ys).2.event x,
      x.Shows (ys.filterMap Step.registered) ((s.run ys).2.step x).1 e) ∧
    (Scope.mk (some (s.run xs).2) guard env).close.1 =
      if options.failOnUnmatched ∧ refused ≠ [] then
        .failed (.unmatchedRequests (refused.map Event.summary))
      else if options.assertAllFired ∧ idle ≠ [] then
        .failed (.unfiredDirectives
          (idle.map fun p => p.1.method ++ " " ++ Url.normalize p.1.url))
      else .value () := by
  intro s events refused idle
  refine ⟨s.events_recorded xs, ?_, ?_⟩
  · intro ys x e he
    exact event_shows (Table.directives_eq (s.run_routes ys)) he
  · have ho : (s.run xs).2.options = options := (s.run_frame xs).1
    have hlive : (s.run xs).2.live = true := (s.run_frame xs).2
    have hmissed : (s.run xs).2.unmatched.map Call.summary = refused.map Event.summary :=
      s.run_missed xs
    have hfired : ∀ i, (s.run xs).2.table.firedAt i = events.any (·.isServedFrom i) := by
      intro i
      have hnone : s.table.firedAt i = false := rfl
      rw [Bool.eq_iff_iff, run_firedAt, hnone]
      simp [events]
    have hidle : (s.run xs).2.table.unfired.map Route.summary =
        idle.map fun p => p.1.method ++ " " ++ Url.normalize p.1.url := by
      rw [Table.unfired_summary (s.run_routes xs)]
      simp only [hfired]
      rfl
    have hsession : (Scope.mk (some (s.run xs).2) guard env).session = some (s.run xs).2 := rfl
    have hclose := Scope.close_reports hsession hlive hmissed hidle
    rw [ho] at hclose
    simpa only [Ne, List.map_eq_nil_iff] using hclose

/-- Two equal directives, and one request for them. -/
def equalTwice : List Step :=
  [.add (.text "GET http://a.b/1 -> 200 :one"),
    .register (.new "GET" "http://a.b/1" 200 (.text "one")), .respond "GET" "HTTP://A.B:80/1"]

/-- The second of two equal directives is left, until it is asked for, too. Refused requests come
first, tunnels among them. -/
theorem close_judged_equal_directives :
    let s := start .default .loopback
    let closed (xs : List Step) := (Scope.mk (some (s.run xs).2) none .empty).close.1
    let again : Step := .respond "GET" "http://a.b/1"
    let tunnel : Step := .request ⟨"CONNECT", .authority "a.b:443".toList, [], []⟩
    (s.run equalTwice).2.event again = some ⟨"GET", "http://a.b/1", .served 1⟩ ∧
      again.Shows (equalTwice.filterMap Step.registered) ((s.run equalTwice).2.step again).1
        ⟨"GET", "http://a.b/1", .served 1⟩ ∧
      closed equalTwice = .failed (.unfiredDirectives ["GET http://a.b/1"]) ∧
      closed (equalTwice ++ [again]) = .value () ∧
      closed (equalTwice ++ [tunnel, .respond "PUT" "http://a.b/1"]) =
        .failed (.unmatchedRequests ["CONNECT https://a.b:443", "PUT http://a.b/1"]) := by
  intro s closed again tunnel
  have hevent : (s.run equalTwice).2.event again = some ⟨"GET", "http://a.b/1", .served 1⟩ := by
    decide +kernel
  have hclose := fun xs => (close_judged .default .loopback xs none .empty).2.2
  refine ⟨hevent, (close_judged .default .loopback [] none .empty).2.1 _ _ _ hevent, ?_, ?_, ?_⟩
  · exact (hclose equalTwice).trans (by decide +kernel)
  · exact (hclose (equalTwice ++ [again])).trans (by decide +kernel)
  · exact (hclose _).trans (by decide +kernel)

end Session

end StubProxy
