import StubProxy.Proofs.Effects
import StubProxy.Session.Scope

/-!
# Opening and closing a session

* `addRules_eq`: registering a list of rules is reading them all, and registering what they say.
* `Session.Fresh`: a session in which directives were registered and nothing was asked for.
  `Scope.enter_fresh`: every scope on good rules opens with such a session, and
  `Session.Fresh.run`: it stays one until the first request.
* `Session.verdict_reports`: the verdict in closed form.
* `Scope.close_reports`, `Scope.close_after`: a scope closes with the verdict of its session.
-/

namespace StubProxy

/-! ## Opening -/

namespace Session

/-- Registers directives in order. -/
def registerAll (ds : List Directive) (s : Session) : Session :=
  ds.foldl (fun s d => s.register d) s

/-- **Registering rules** fails with the error of the first bad one, as reading them does. -/
theorem addRules_eq (rules : List Rule) (s : Session) :
    addRules rules s = (Rule.directives rules).map fun ds => s.registerAll ds := by
  induction rules generalizing s with
  | nil => rfl
  | cons r rules ih =>
    rw [addRules, addRule, Rule.directives]
    cases r.parse with
    | error e => rfl
    | ok d =>
      cases d with
      | none => exact ih s
      | some d =>
        simp only [ih]
        cases Rule.directives rules <;> rfl

/-- Directives were registered and nothing was asked for. -/
structure Fresh (o : Options) (ds : List Directive) (s : Session) : Prop where
  options : s.options = o
  live : s.live = true
  strict : s.table.strict = o.strictOrder
  cursor : s.table.cursor = 0
  passthrough : s.table.passthrough = []
  routes : s.table.routes = ds.map (Route.new Url.normalize)
  calls : s.calls = []

theorem fresh_start (o : Options) (address : SocketAddress) :
    (start o address).Fresh o [] :=
  ⟨rfl, rfl, rfl, rfl, rfl, rfl, rfl⟩

variable {o : Options} {ds : List Directive} {s : Session}

theorem Fresh.register (h : s.Fresh o ds) (d : Directive) :
    (s.register d).Fresh o (ds ++ [d]) := by
  refine ⟨h.options, h.live, h.strict, h.cursor, h.passthrough, ?_, h.calls⟩
  rw [List.map_append, ← h.routes]
  rfl

theorem Fresh.registerAll (h : s.Fresh o ds) (ds' : List Directive) :
    (s.registerAll ds').Fresh o (ds ++ ds') := by
  induction ds' generalizing s ds with
  | nil => simpa [Session.registerAll] using h
  | cons d ds' ih =>
    have hrest := ih (h.register d)
    rw [List.append_assoc] at hrest
    exact hrest

/-- Nothing was asked for, so nothing was served or missed. -/
theorem Fresh.untouched (h : s.Fresh o ds) :
    s.table.unfired = ds.map (Route.new Url.normalize) ∧ s.unmatched = [] := by
  simp [Table.unfired, h.routes, unmatched, h.calls]

/-- Steps that are neither requests nor passthrough beginnings at most register directives. -/
theorem Fresh.run (h : s.Fresh o ds) {xs : List Step}
    (hx : ∀ x ∈ xs, x.recorded = none ∧ x.exempted = none) :
    (s.run xs).2.Fresh o (ds ++ xs.filterMap Step.registered) := by
  induction xs generalizing s ds with
  | nil => simpa using h
  | cons x xs ih =>
    rw [List.forall_mem_cons] at hx
    have hstep : (s.step x).2.Fresh o (ds ++ x.registered.toList) := by
      rw [step_silent hx.1.1]
      refine ⟨h.options, h.live, h.strict, h.cursor, ?_, ?_, h.calls⟩
      · simp [prepared, hx.1.2, h.passthrough]
      · rw [List.map_append, ← h.routes]
        cases hr : x.registered <;> simp [prepared, hr]
    have hrest := ih hstep hx.2
    rw [run_cons]
    cases hr : x.registered <;> simpa [hr] using hrest

end Session

/-- **Opening in closed form**: a scope that listens reads all rules, and registers what they
say. -/
theorem Scope.enter_eq {net : Network} {config : Config} {address : SocketAddress}
    (rules : List Rule) (env : Environment) (hb : config.bypass = false)
    (hn : net.listen config.engine.listenAddr = .ok address) :
    ∃ sc, start net config.engine env = .ok sc ∧
      sc.session = some (Session.start config.engine address) ∧
      enter net config rules env = match Rule.directives rules with
        | .error e => .error (.rule e, sc.abort.2)
        | .ok ds => .ok { sc with
            session := some ((Session.start config.engine address).registerAll ds) } := by
  have hstart : ∃ sc, start net config.engine env = .ok sc ∧
      sc.session = some (Session.start config.engine address) := by
    unfold start
    rw [hn]
    cases config.engine.exportProxyEnv
    · exact ⟨_, rfl, rfl⟩
    · exact ⟨_, rfl, rfl⟩
  obtain ⟨sc, hsc, hs⟩ := hstart
  refine ⟨sc, hsc, hs, ?_⟩
  simp only [enter, hb, hsc, hs, Option.mapM_some, Session.addRules_eq]
  cases Rule.directives rules <;> rfl

/-- **A scope on good rules opens**, with a session that has their directives. -/
theorem Scope.enter_fresh {net : Network} {config : Config} {rules : List Rule}
    {ds : List Directive} {address : SocketAddress} (env : Environment)
    (hb : config.bypass = false) (hn : net.listen config.engine.listenAddr = .ok address)
    (hr : Rule.directives rules = .ok ds) :
    ∃ sc s, Scope.enter net config rules env = .ok sc ∧ sc.session = some s ∧
      s.Fresh config.engine ds := by
  obtain ⟨sc, -, -, henter⟩ := enter_eq rules env hb hn
  rw [hr] at henter
  exact ⟨_, _, henter, rfl, (Session.fresh_start config.engine address).registerAll ds⟩

/-- A scope that opened listens, and its rules were good. -/
theorem Scope.enter_inv {net : Network} {config : Config} {rules : List Rule} {env : Environment}
    {sc : Scope} (hb : config.bypass = false) (h : Scope.enter net config rules env = .ok sc) :
    ∃ ds s, Rule.directives rules = .ok ds ∧ sc.session = some s ∧ s.Fresh config.engine ds := by
  cases hn : net.listen config.engine.listenAddr with
  | error e => simp [enter, hb, start, hn] at h
  | ok address =>
    cases hr : Rule.directives rules with
    | error e =>
      obtain ⟨sc', -, -, henter⟩ := enter_eq rules env hb hn
      rw [hr, h] at henter
      cases henter
    | ok ds =>
      obtain ⟨sc', s, henter, hs, hfresh⟩ := enter_fresh env hb hn hr
      obtain rfl : sc = sc' := Except.ok.inj (h.symm.trans henter)
      exact ⟨ds, s, rfl, hs, hfresh⟩

/-! ## Closing -/

/-- The routes that have never been served, with their positions in view. -/
theorem Table.unfired_zipIdx (t : Table) :
    t.unfired = (t.routes.zipIdx.filter fun p => !p.1.isFired).map Prod.fst := by
  have hroutes := List.zipIdx_map_fst 0 t.routes
  calc t.unfired = (t.routes.zipIdx.map Prod.fst).filter fun r => !r.isFired := by
        rw [hroutes]
        rfl
    _ = _ := List.filter_map

namespace Session

variable {s : Session}

/-- **The verdict in closed form**, from what it reports: missed requests come first. -/
theorem verdict_reports {missed left : List String}
    (hm : s.unmatched.map Call.summary = missed)
    (hl : s.table.unfired.map Route.summary = left) :
    s.verdict =
      if s.options.failOnUnmatched ∧ missed ≠ [] then .error (.unmatchedRequests missed)
      else if s.options.assertAllFired ∧ left ≠ [] then .error (.unfiredDirectives left)
      else .ok () := by
  subst hm hl
  unfold verdict
  simp only [Bool.and_eq_true, Bool.not_eq_true', List.isEmpty_eq_false_iff, Ne,
    List.map_eq_nil_iff]

end Session

namespace Scope

variable {sc : Scope} {s : Session}

/-- **A scope closes with the verdict of its session.** -/
theorem close_eq (hs : sc.session = some s) (hl : s.live = true) :
    sc.close.1 = match s.verdict with
      | .ok () => .value ()
      | .error e => .failed e := by
  unfold close closeWith settle release teardown
  simp only [hs, Session.teardown, hl, if_true]
  cases s.verdict <;> rfl

/-- How a scope closes, from what its session reports. -/
theorem close_reports {missed left : List String} (hs : sc.session = some s) (hl : s.live = true)
    (hm : s.unmatched.map Call.summary = missed)
    (hf : s.table.unfired.map Route.summary = left) :
    sc.close.1 =
      if s.options.failOnUnmatched ∧ missed ≠ [] then .failed (.unmatchedRequests missed)
      else if s.options.assertAllFired ∧ left ≠ [] then .failed (.unfiredDirectives left)
      else .value () := by
  rw [close_eq hs hl, Session.verdict_reports hm hf]
  by_cases hu : s.options.failOnUnmatched ∧ missed ≠ []
  · rw [if_pos hu, if_pos hu]
  · rw [if_neg hu, if_neg hu]
    by_cases ha : s.options.assertAllFired ∧ left ≠ []
    · rw [if_pos ha, if_pos ha]
    · rw [if_neg ha, if_neg ha]

/-- **How a scope closes** after any steps, with both assertions on. -/
theorem close_after {o : Options} {ds : List Directive}
    (hs : sc.session = some s) (h : s.Fresh o ds) (hu : o.failOnUnmatched = true)
    (ha : o.assertAllFired = true) (xs : List Session.Step) :
    let s' := (s.run xs).2
    ((sc.after xs).close.1 = .value () ↔ s'.unmatched = [] ∧ s'.table.unfired = []) ∧
    (s'.unmatched ≠ [] →
      (sc.after xs).close.1 = .failed (.unmatchedRequests (s'.unmatched.map Call.summary))) ∧
    (s'.unmatched = [] → s'.table.unfired ≠ [] →
      (sc.after xs).close.1 =
        .failed (.unfiredDirectives (s'.table.unfired.map Route.summary))) := by
  intro s'
  obtain ⟨ho, hl⟩ := s.run_frame xs
  have hafter : (sc.after xs).session = some s' := by simp [after, hs, s']
  rw [close_reports hafter (hl.trans h.live) rfl rfl]
  simp only [s', ho, h.options, hu, ha, true_and, Ne, List.map_eq_nil_iff]
  by_cases hm : s'.unmatched = []
  · by_cases hf : s'.table.unfired = []
    · simp [s', hm, hf]
    · simp [s', hm, hf]
  · simp [s', hm]

end Scope

end StubProxy
