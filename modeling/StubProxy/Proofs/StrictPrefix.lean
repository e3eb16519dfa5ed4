import StubProxy.Proofs.StrictOrder
import StubProxy.Proofs.Opening

/-!
# Strict order serves a prefix

In strict order the cursor, the calls of the routes and the answers so far are kept apart, and stay
in step.

* `History.sinceClear`: the operations on a table, with their answers, since it was last cleared.
* `InStep`: the answers are the registered directives up to the cursor. `run_inStep`: every
  operation keeps that.
* `Session.run_clean`: a session has nothing to complain about exactly if its requests ask for
  what was never served, in this order and no further.
* `strict_prefix` brings both together.
-/

namespace StubProxy

/-! ## The table -/

/-- The directive that an operation registers. -/
def TableOp.added : TableOp → Option Directive
  | .add d => some d
  | _ => none

/-- Operations on a table with their answers, in order. -/
abbrev History := List (TableOp × Option Directive)

namespace History

/-- A history after one more operation; clearing forgets what was before. -/
def push (h : History) (p : TableOp × Option Directive) : History :=
  match p.1 with
  | .clear => []
  | _ => h ++ [p]

/-- What happened since the last clear. -/
def sinceClear (h : History) : History := h.foldl push []

/-- The directives that were registered, in order. -/
def registered (h : History) : List Directive := h.filterMap fun p => p.1.added

/-- The directives that requests were answered from, in order. -/
def answered (h : History) : List Directive := h.filterMap fun p => p.2

end History

/-- A table in strict order and what happened since it was last cleared: the routes are what was
registered, and those before the cursor are what was answered. -/
structure InStep (t : Table) (h : History) : Prop where
  inv : StrictInv t
  registered : t.routes.map (·.directive) = h.registered
  answered : h.answered = h.registered.take t.cursor

variable {norm : String → String} {t : Table} {h : History}

theorem inStep_empty : InStep (.empty true) [] := ⟨strictInv_empty, rfl, rfl⟩

theorem InStep.add (hs : InStep t h) (d : Directive) :
    InStep (t.add norm d) (h.push (.add d, none)) := by
  have hreg : (h.push (.add d, none)).registered = h.registered ++ [d] := by
    simp [History.push, History.registered, TableOp.added]
  have hle : t.cursor ≤ h.registered.length := by
    rw [← hs.registered, List.length_map]
    exact hs.inv.cursor_le
  refine ⟨hs.inv.add d, ?_, ?_⟩
  · rw [hreg, ← hs.registered]
    simp [Table.add, Route.new]
  · rw [hreg]
    change _ = List.take t.cursor _
    rw [List.take_append_of_le_length hle, ← hs.answered]
    simp [History.push, History.answered]

/-- A request in turn is answered from the directive at the cursor; any other changes nothing. -/
theorem InStep.lookup (hs : InStep t h) (method url : String) :
    InStep (t.lookup norm method url).2
      (h.push (.lookup method url, (t.lookup norm method url).1)) := by
  have hreg : ∀ a, (h.push (.lookup method url, a)).registered = h.registered := by
    simp [History.push, History.registered, TableOp.added]
  have hans : ∀ a, (h.push (.lookup method url, a)).answered = h.answered ++ a.toList := by
    intro a
    cases a <;> simp [History.push, History.answered]
  have hinv := hs.inv.serve (Key.of norm method url)
  rw [Table.lookup_eq]
  rcases serve_strict hs.inv.strict (Key.of norm method url) with ⟨r, hr, -, he⟩ | ⟨-, he⟩
  · -- the directive at the cursor is the next one of those registered
    have hroutes : (t.serve (Key.of norm method url)).2.routes.map (·.directive) =
        t.routes.map (·.directive) := by
      rw [he]
      exact t.map_fireAt Route.fire_directive t.cursor
    have hdue : h.registered[t.cursor]? = some r.directive := by
      rw [← hs.registered, List.getElem?_map, hr]
      rfl
    refine ⟨hinv, by rw [hroutes, hreg, hs.registered], ?_⟩
    rw [hans, hreg, he, hs.answered, List.take_add_one, hdue]
  · rw [he] at hinv ⊢
    exact ⟨hinv, by rw [hreg, hs.registered], by simp [hans, hreg, hs.answered]⟩

/-- **Every operation** keeps a table in step with its history. -/
theorem step_inStep (hs : InStep t h) (op : TableOp) :
    InStep (t.step norm op).2 (h.push (op, (t.step norm op).1)) := by
  cases op with
  | add d => exact hs.add d
  | lookup method url => exact hs.lookup method url
  | passthrough start =>
    have hpush : (h.push (.passthrough start, none)).registered = h.registered ∧
        (h.push (.passthrough start, none)).answered = h.answered := by
      simp [History.push, History.registered, History.answered, TableOp.added]
    refine ⟨step_strictInv hs.inv (.passthrough start), ?_, ?_⟩
    · exact hs.registered.trans hpush.1.symm
    · exact hpush.2.trans (hs.answered.trans (by rw [← hpush.1]; rfl))
  | clear =>
    simp only [Table.step, Table.clear, hs.inv.strict]
    exact inStep_empty

theorem run_inStep (hs : InStep t h) (ops : List TableOp) :
    InStep (t.run norm ops).2 ((ops.zip (t.run norm ops).1).foldl History.push h) := by
  induction ops generalizing t h with
  | nil => exact hs
  | cons op ops ih => exact ih (step_inStep hs op)

/-- A refused request changes nothing. -/
theorem StrictInv.lookup_none (hs : StrictInv t) {method url : String}
    (hn : (t.lookup norm method url).1 = none) : (t.lookup norm method url).2 = t := by
  rw [Table.lookup_eq] at hn ⊢
  rcases serve_strict hs.strict (Key.of norm method url) with ⟨r, -, -, he⟩ | ⟨-, he⟩
  · simp [he] at hn
  · rw [he]

/-! ## The session -/

/-- The first route that was never served is the one that answers, if it has the key. -/
theorem StrictInv.choose_eq (hs : StrictInv t) (k : Key) :
    t.choose k = if t.unfired.head?.any (·.key = k) then some t.cursor else none := by
  rw [← hs.due]
  simp [Table.choose, hs.strict, Table.chooseStrict]

/-- After the route that answers, the next one is due. -/
theorem StrictInv.fireAt (hs : StrictInv t) {i : Nat} {r : Route} (hc : t.choose r.key = some i)
    (hr : t.routes[i]? = some r) :
    StrictInv (t.fireAt i) ∧ t.unfired = r :: (t.fireAt i).unfired := by
  have hinv : StrictInv (t.fireAt i) := by
    have hserve := hs.serve r.key
    rwa [Table.serve_table, hc] at hserve
  have hi : t.cursor = i := by
    rw [hs.choose_eq] at hc
    split at hc
    · exact Option.some.inj hc
    · exact absurd hc (by simp)
  refine ⟨hinv, ?_⟩
  obtain ⟨hlt, rfl⟩ := List.getElem?_eq_some_iff.1 hr
  rw [hinv.unfired_eq, hs.unfired_eq]
  subst hi
  simp only [Table.fireAt, hs.strict, if_true]
  rw [List.drop_eq_getElem_cons hlt, List.drop_modify_of_lt _ _ _ _ (Nat.lt_succ_self _)]

namespace Session

/-- **Nothing to complain about.** From a table in strict order without passthrough beginnings,
requests leave no missed one and nothing unserved exactly if they ask for what was never served, in
order of registration. -/
theorem run_clean {s : Session} (hs : StrictInv s.table) (hp : s.table.passthrough = [])
    {xs : List Step} (hx : ∀ x ∈ xs, x.recorded.isSome) :
    ((s.run xs).2.unmatched = [] ∧ (s.run xs).2.table.unfired = []) ↔
      s.unmatched = [] ∧ xs.map Step.asked = s.table.unfired.map fun r => some r.key := by
  induction xs generalizing s with
  | nil => simp only [run_nil, List.map_nil, List.nil_eq, List.map_eq_nil_iff]
  | cons x xs ih =>
    rw [List.forall_mem_cons] at hx
    obtain ⟨q, hq⟩ := Option.isSome_iff_exists.1 hx.1
    rw [run_cons, List.map_cons]
    rcases step_cases s hq with ⟨i, r, hasked, hc, hr, h⟩ | ⟨hc, outcome, -, h, ho⟩
    · -- the request is for what is due
      obtain ⟨hinv, hunfired⟩ := hs.fireAt hc hr
      have hmissed : (s.fired i q.1 q.2 r.directive.status).unmatched = s.unmatched := by
        simp [unmatched, fired, Call.isUnmatched]
      have hrest := ih (s := s.fired i q.1 q.2 r.directive.status) hinv hp hx.2
      rw [h, hrest, hmissed, hunfired, List.map_cons, hasked, List.cons_inj_right]
      rfl
    · -- the request is missed, and no later one makes up for that
      have hmissed : (s.record q.1 q.2 outcome).unmatched ≠ [] := by
        simp [unmatched, record, ho hp, Call.isUnmatched]
      have hrest := ih (s := s.record q.1 q.2 outcome) hs hp hx.2
      rw [h, hrest]
      constructor
      · intro hclean
        exact absurd hclean.1 hmissed
      · rintro ⟨-, hall⟩
        -- had the request been for what is due, it would not have been refused
        cases hu : s.table.unfired with
        | nil => simp [hu] at hall
        | cons r rest =>
          rw [hu, List.map_cons] at hall
          have hnone := hc r.key (List.cons.inj hall).1
          rw [hs.choose_eq, hu] at hnone
          simp at hnone

/-- A table that was only filled is in strict order. -/
theorem Fresh.strictInv {o : Options} {ds : List Directive} {s : Session} (hs : s.Fresh o ds)
    (ho : o.strictOrder = true) : StrictInv s.table := by
  refine ⟨hs.strict.trans ho, by simp [hs.cursor], ?_⟩
  intro i r hr
  rw [hs.routes, List.getElem?_map] at hr
  obtain ⟨d, -, rfl⟩ := Option.map_eq_some_iff.1 hr
  simp [hs.cursor, Route.new]

end Session

/-- **Strict order serves a prefix.** After any operations on a table in strict order the routes
before the cursor have one call and the others none, what was never served lies behind the cursor,
and since the last clear the answers were the registered directives up to the cursor, each once; a
refused request changes nothing. So a scope in strict order whose rules are all registered before
the first request closes well exactly if the requests ask for the keys of the rules in order. -/
theorem strict_prefix :
    (∀ (norm : String → String) (ops : List TableOp),
      let answers := ((Table.empty true).run norm ops).1
      let t := ((Table.empty true).run norm ops).2
      let since := History.sinceClear (ops.zip answers)
      t.cursor ≤ t.routes.length ∧
      (∀ i r, t.routes[i]? = some r → r.calls = if i < t.cursor then 1 else 0) ∧
      t.unfired = t.routes.drop t.cursor ∧
      t.routes.map (·.directive) = since.registered ∧
      since.answered = since.registered.take t.cursor ∧
      ∀ method url, (t.lookup norm method url).1 = none → (t.lookup norm method url).2 = t) ∧
    ∀ (net : Network) (config : Config) (rules : List Rule) (env : Environment)
      (address : SocketAddress) (ds : List Directive) (rest requests : List Session.Step),
      config.bypass = false → config.engine.strictOrder = true →
      config.engine.failOnUnmatched = true → config.engine.assertAllFired = true →
      net.listen config.engine.listenAddr = .ok address → Rule.directives rules = .ok ds →
      (∀ x ∈ rest, x.recorded = none ∧ x.exempted = none) →
      (∀ x ∈ requests, x.recorded.isSome) →
      ∃ sc, Scope.enter net config rules env = .ok sc ∧
        ((sc.after (rest ++ requests)).close.1 = .value () ↔
          requests.map Session.Step.asked =
            (ds ++ rest.filterMap Session.Step.registered).map fun d => some d.key) := by
  refine ⟨?_, ?_⟩
  · intro norm ops answers t since
    have hs : InStep t since := run_inStep inStep_empty ops
    exact ⟨hs.inv.cursor_le, hs.inv.calls, hs.inv.unfired_eq, hs.registered, hs.answered,
      fun method url hn => hs.inv.lookup_none hn⟩
  · intro net config rules env address ds rest requests hb ho hu ha hn hr hrest hreq
    obtain ⟨sc, s, hsc, hs, hfresh⟩ := Scope.enter_fresh env hb hn hr
    have hfilled := hfresh.run hrest
    obtain ⟨hunfired, hunmatched⟩ := hfilled.untouched
    refine ⟨sc, hsc, ?_⟩
    rw [(Scope.close_after hs hfresh hu ha _).1, Session.run_append,
      Session.run_clean (hfilled.strictInv ho) hfilled.passthrough hreq, hunfired, List.map_map]
    exact and_iff_right hunmatched

/-- A rule, the empty rule, and a rule whose URL is the same in another form. -/
def sameUrlTwice : List Rule :=
  [.text "GET http://a.b/1 -> 200 :one", .text "", .text "POST HTTP://A.B:80/1 -> 201"]

/-- What is due is asked for in other forms, once through the proxy. -/
def askedInTurn : List Session.Step :=
  [.respond "GET" "http://a.b:80/1",
    .request ⟨"POST", .path ['/', '1'], [("host", [97, 46, 98])], []⟩,
    .respond "GET" "http://a.b/1"]

/-- With one more rule added to the scope, asking in turn closes well; once more does not. -/
theorem strict_prefix_same_url :
    let config := Config.default.withStrictOrder true
    let more : List Session.Step := [.add (.text "GET http://a.b/1 -> 404"), .add (.text "GET")]
    let again : Session.Step := .respond "GET" "http://a.b/1"
    ∃ sc, Scope.enter .isolated config sameUrlTwice .empty = .ok sc ∧
      (sc.after (more ++ askedInTurn)).close.1 = .value () ∧
      (sc.after (more ++ (askedInTurn ++ [again]))).close.1 ≠ .value () := by
  intro config more again
  have hds : Rule.directives sameUrlTwice = .ok
      [.new "GET" "http://a.b/1" 200 (.text "one"),
        .new "POST" "HTTP://A.B:80/1" 201 (.text "")] := rfl
  have hmore : ∀ x ∈ more, x.recorded = none ∧ x.exempted = none := by decide
  have hclose := fun requests => strict_prefix.2 .isolated config sameUrlTwice .empty _ _ more
    requests rfl rfl rfl rfl rfl hds hmore
  obtain ⟨sc, hsc, hturn⟩ := hclose askedInTurn (by decide)
  obtain ⟨sc', hsc', hagain⟩ := hclose (askedInTurn ++ [again]) (by decide)
  obtain rfl : sc = sc' := Except.ok.inj (hsc.symm.trans hsc')
  refine ⟨sc, hsc, hturn.2 (by decide +kernel), ?_⟩
  rw [Ne, hagain]
  decide +kernel

end StubProxy
