import StubProxy.Proofs.WaysOut

/-!
# The environment around a scope

A scope may point the proxy variables at its own proxy. It keeps what stood there, variable by
variable, and puts it back when it is torn down.

* `ProxyGuard.restore_install`: a guard undoes its export, whatever was set in the meantime.
* `Scope.Holds`: a scope that still holds the environment that it was opened in.
  `Scope.enter_holds`, `Scope.Holds.after`: so does every scope that opens, after any steps.
* `Scope.environment_restored`: the environment before, in, and after a scope, on every way in and
  out.
-/

namespace StubProxy

/-! ## Variables -/

theorem ProxyVariable.mem_all (v : ProxyVariable) : v ∈ all := by
  cases v <;> decide

theorem ProxyVariable.mem_proxies_iff (v : ProxyVariable) : v ∈ proxies ↔ v ∉ exceptions := by
  cases v <;> decide

/-- Setting variables one after the other, each to a value of its own, sets these and no others. -/
theorem Environment.setAll_map (e : Environment) (vs : List ProxyVariable)
    (f : ProxyVariable → Option String) (w : ProxyVariable) :
    e.setAll (vs.map fun v => (v, f v)) w = if w ∈ vs then f w else e w := by
  induction vs generalizing e with
  | nil => rfl
  | cons v vs ih =>
    have hrest : e.setAll ((v :: vs).map fun v => (v, f v)) w =
        (e.set v (f v)).setAll (vs.map fun v => (v, f v)) w := rfl
    rw [hrest, ih, set]
    by_cases hv : w = v
    · simp [hv]
    · simp [hv]

/-- **An export** reaches every variable: the proxy has this URL, and there are no exceptions. -/
theorem Environment.exportProxy_apply (url : String) (e : Environment) (v : ProxyVariable) :
    e.exportProxy url v = if v ∈ ProxyVariable.exceptions then none else some url := by
  unfold exportProxy
  rw [setAll_map, setAll_map]
  by_cases hv : v ∈ ProxyVariable.exceptions
  · rw [if_pos hv, if_pos hv]
  · rw [if_neg hv, if_neg hv, if_pos (v.mem_proxies_iff.2 hv)]

/-- **A guard undoes its export**, whatever the variables hold by then. -/
theorem ProxyGuard.restore_install (url : String) (e now : Environment) :
    (install url e).1.restore now = e := by
  funext v
  unfold install restore
  rw [Environment.setAll_map, if_pos v.mem_all]

/-! ## Sessions -/

namespace Session

/-- No step changes where the proxy listens. -/
theorem step_address (s : Session) (x : Step) : (s.step x).2.address = s.address := by
  cases hx : x.recorded with
  | none => rw [step_silent hx]; rfl
  | some q =>
    rcases step_cases s hx with ⟨i, r, -, -, -, h⟩ | ⟨-, outcome, -, h, -⟩ <;> rw [h] <;> rfl

theorem run_address (s : Session) (xs : List Step) : (s.run xs).2.address = s.address := by
  induction xs generalizing s with
  | nil => rfl
  | cons x xs ih => rw [run_cons, ih, step_address]

theorem registerAll_address (ds : List Directive) (s : Session) :
    (s.registerAll ds).address = s.address := by
  induction ds generalizing s with
  | nil => rfl
  | cons d ds ih => exact ih (s.register d)

end Session

/-! ## Scopes -/

namespace Scope

variable {env : Environment} {exporting : Bool} {sc : Scope}

/-- A scope that holds the environment `env`: it left it alone, or it exports its proxy and has a
guard that was installed in `env`. -/
inductive Holds (env : Environment) : Bool → Scope → Prop
  | quiet (session : Option Session) : Holds env false ⟨session, none, env⟩
  | exporting (s : Session) :
    Holds env true ⟨some s, some (ProxyGuard.install s.proxyUrl env).1,
      (ProxyGuard.install s.proxyUrl env).2⟩

/-- A session may take the place of another one with the same address. -/
theorem Holds.replace (h : sc.Holds env exporting) {s s' : Session} (hs : sc.session = some s)
    (ha : s'.address = s.address) : { sc with session := some s' }.Holds env exporting := by
  have hurl : s'.proxyUrl = s.proxyUrl := by rw [Session.proxyUrl, ha, Session.proxyUrl]
  cases h with
  | quiet session => exact .quiet _
  | exporting t =>
    obtain rfl : t = s := Option.some.inj hs
    have hs' : Holds env true _ := .exporting s'
    rwa [hurl] at hs'

/-- **A scope that starts** holds the environment. -/
theorem start_holds {net : Network} {options : Options} (h : start net options env = .ok sc) :
    sc.Holds env options.exportProxyEnv := by
  unfold start at h
  split at h
  · cases h
  · split at h
    · rename_i hexport
      rw [hexport]
      cases h
      exact .exporting _
    · rename_i hexport
      rw [eq_false_of_ne_true hexport]
      cases h
      exact .quiet _

/-- Tearing a scope down leaves the environment that it holds. -/
theorem Holds.teardown (h : sc.Holds env exporting) (verify : Bool) :
    (sc.teardown verify).2.env = env := by
  cases h with
  | quiet session => cases session <;> rfl
  | exporting s => exact ProxyGuard.restore_install s.proxyUrl env _

theorem Holds.abort (h : sc.Holds env exporting) : sc.abort.2 = env := by
  rw [abort_eq]
  exact h.teardown false

/-- **A scope that opens** holds the environment. -/
theorem enter_holds {net : Network} {config : Config} {rules : List Rule}
    (h : enter net config rules env = .ok sc) :
    sc.Holds env (!config.bypass && config.engine.exportProxyEnv) := by
  cases hb : config.bypass with
  | true =>
    rw [enter, if_pos hb] at h
    obtain rfl := Except.ok.inj h
    exact .quiet none
  | false =>
    cases hn : net.listen config.engine.listenAddr with
    | error e => simp [enter, hb, start, hn] at h
    | ok address =>
      obtain ⟨started, hstart, hs, henter⟩ := enter_eq rules env hb hn
      cases hr : Rule.directives rules with
      | error e =>
        rw [h, hr] at henter
        cases henter
      | ok ds =>
        rw [h, hr] at henter
        obtain rfl := Except.ok.inj henter
        exact (start_holds hstart).replace hs (Session.registerAll_address ds _)

/-- **A scope that does not open** leaves the environment as it was. -/
theorem enter_error {net : Network} {config : Config} {rules : List Rule} {e : Error}
    {env' : Environment} (h : enter net config rules env = .error (e, env')) : env' = env := by
  cases hb : config.bypass with
  | true =>
    rw [enter, if_pos hb] at h
    cases h
  | false =>
    cases hn : net.listen config.engine.listenAddr with
    | error e' =>
      simp only [enter, hb, start, hn] at h
      cases h
      rfl
    | ok address =>
      -- the proxy is exported by then, and aborting takes it back
      obtain ⟨started, hstart, hs, henter⟩ := enter_eq rules env hb hn
      rw [h] at henter
      cases hr : Rule.directives rules with
      | ok ds =>
        rw [hr] at henter
        cases henter
      | error e' =>
        rw [hr] at henter
        have hout : env' = started.abort.2 := congrArg Prod.snd (Except.error.inj henter)
        rw [hout, (start_holds hstart).abort]

/-- Steps of the session do not touch the environment. -/
theorem Holds.after (h : sc.Holds env exporting) (xs : List Session.Step) :
    (sc.after xs).Holds env exporting := by
  cases hs : sc.session with
  | none =>
    have hsame : sc.after xs = sc := by
      cases sc
      simp only at hs
      subst hs
      rfl
    rwa [hsame]
  | some s =>
    have hrun := h.replace hs (s.run_address xs)
    simpa [Scope.after, hs] using hrun

/-- An exporting scope has its proxy in the environment. -/
theorem Holds.exported (h : sc.Holds env true) :
    ∃ s, sc.session = some s ∧
      ∀ v, sc.env v = if v ∈ ProxyVariable.exceptions then none else some s.proxyUrl := by
  cases h with
  | exporting s => exact ⟨s, rfl, Environment.exportProxy_apply s.proxyUrl env⟩

theorem Holds.untouched (h : sc.Holds env false) : sc.env = env := by
  cases h
  rfl

/-- **A scope leaves the environment as it found it.** A scope that does not open has changed
nothing. While one is open, after any steps, exporting means that the four variables of the proxy
have the URL of its session and the two of the exceptions are unset; otherwise, and if the scope is
bypassed, nothing has changed. However it is left then, the environment is as before, and so it is
after running a body that takes any steps and returns or panics. -/
theorem environment_restored (net : Network) (config : Config) (rules : List Rule)
    (env : Environment) :
    (∀ e env', enter net config rules env = .error (e, env') → env' = env) ∧
    (∀ sc, enter net config rules env = .ok sc → ∀ xs,
      let now := sc.after xs
      (config.bypass = false → config.engine.exportProxyEnv = true →
        ∃ s, now.session = some s ∧
          ∀ v, now.env v = if v ∈ ProxyVariable.exceptions then none else some s.proxyUrl) ∧
      (config.bypass = true ∨ config.engine.exportProxyEnv = false → now.env = env) ∧
      now.close.2 = env ∧ now.drop.2 = env ∧ now.abort.2 = env ∧
      ∀ message, (now.unwind message : Finish Unit × Environment).2 = env) ∧
    ∀ (α : Type) (body : Scope → Except String α × Scope),
      (∀ sc, ∃ xs, (body sc).2 = sc.after xs) → (within net config rules body env).2 = env := by
  refine ⟨fun e env' h => enter_error h, ?_, ?_⟩
  · intro sc h xs now
    have hnow : now.Holds env _ := (enter_holds h).after xs
    refine ⟨?_, ?_, ?_, ?_, ?_, ?_⟩
    · intro hb hexport
      rw [hb, hexport] at hnow
      exact hnow.exported
    · intro hquiet
      have hfalse : (!config.bypass && config.engine.exportProxyEnv) = false := by
        rcases hquiet with hb | hexport
        · rw [hb]; rfl
        · rw [hexport, Bool.and_false]
      rw [hfalse] at hnow
      exact hnow.untouched
    · rw [close, closeWith_eq]
      exact hnow.teardown true
    · rw [drop_eq]
      exact hnow.teardown true
    · exact hnow.abort
    · intro message
      rw [unwind_eq]
      exact hnow.teardown false
  · intro α body hbody
    cases h : enter net config rules env with
    | error failure =>
      simp only [within, h]
      exact enter_error h
    | ok sc =>
      obtain ⟨xs, hxs⟩ := hbody sc
      have hleft := (enter_holds h).after xs
      rw [within_eq h, hxs]
      cases (body sc).1 with
      | ok a =>
        simp only [closeWith_eq]
        exact hleft.teardown true
      | error message =>
        simp only [unwind_eq]
        exact hleft.teardown false

/-- A proxy is set in one spelling, and an exception. -/
def behindProxy : Environment :=
  (Environment.empty.set .httpUpper (some "http://c.d:3128")).set .exceptUpper (some "localhost")

/-- The second of two rules is bad, and the export is taken back. With the first rule alone the
scope opens, and a request is refused in it; closing reports that, a body panics instead. -/
theorem environment_restored_exported :
    let config := Config.default.withExportProxyEnv true
    let one : Rule := .text "GET http://a.b/1 -> 200 :one"
    let xs : List Session.Step := [.respond "PUT" "http://a.b/1"]
    enter .isolated config [one, .text "GET -> 200 :x"] behindProxy =
      .error (.rule (.malformedRequestLine ["GET"]), behindProxy) ∧
    (∃ sc, enter .isolated config [one] behindProxy = .ok sc ∧
      (sc.after xs).env .httpsLower = some "http://127.0.0.1:49152" ∧
      (sc.after xs).env .exceptUpper = none ∧
      (sc.after xs).close = (.failed (.unmatchedRequests ["PUT http://a.b/1"]), behindProxy)) ∧
    within (α := Nat) .isolated config [one] (fun sc => (.error "boom", sc.after xs))
      behindProxy = (.panicked "boom", behindProxy) := by
  intro config one xs
  have hb : config.bypass = false := rfl
  have hn : Network.isolated.listen config.engine.listenAddr =
    .ok (Network.assign .loopback) := rfl
  obtain ⟨hfails, -, -⟩ :=
    environment_restored .isolated config [one, .text "GET -> 200 :x"] behindProxy
  obtain ⟨-, hopen, hwithin⟩ := environment_restored .isolated config [one] behindProxy
  obtain ⟨started, -, hs, henter⟩ := enter_eq [one] behindProxy hb hn
  have hone : Rule.directives [one] = .ok [.new "GET" "http://a.b/1" 200 (.text "one")] := rfl
  rw [hone] at henter
  refine ⟨?_, ⟨_, henter, ?_⟩, ?_⟩
  · obtain ⟨_, -, -, hbad⟩ := enter_eq [one, .text "GET -> 200 :x"] behindProxy hb hn
    have hrules : Rule.directives [one, .text "GET -> 200 :x"] =
      .error (.malformedRequestLine ["GET"]) := rfl
    rw [hrules] at hbad
    rw [hbad, hfails _ _ hbad]
  · obtain ⟨hexported, -, hclose, -⟩ := hopen _ henter xs
    obtain ⟨s, hsession, hall⟩ := hexported rfl rfl
    obtain rfl := Option.some.inj hsession
    refine ⟨?_, ?_, ?_⟩
    · rw [hall .httpsLower]
      decide +kernel
    · rw [hall .exceptUpper]
      rfl
    · refine Prod.ext ?_ hclose
      have hmissed : (((Session.start config.engine (Network.assign .loopback)).registerAll
          [.new "GET" "http://a.b/1" 200 (.text "one")]).run xs).2.unmatched.map Call.summary =
          ["PUT http://a.b/1"] := by
        decide +kernel
      rw [close_reports hsession rfl hmissed rfl]
      rfl
  · refine Prod.ext ?_ (hwithin Nat _ fun sc => ⟨xs, rfl⟩)
    simp only [within_eq henter, unwind_eq]

end Scope

end StubProxy
