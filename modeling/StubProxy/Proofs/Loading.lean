import StubProxy.Proofs.ProxyEnvironment

/-!
# Ways to load rules

Rules are read as a list, when a scope opens on them, and when they are added to a session one by
one. All three skip, keep and refuse the same rules.

* `Rule.FirstBad`: the first rule of a list that cannot be read. `Rule.directives_error_iff`: its
  error is that of the list.
* `Session.tryAdd_eq`, `Session.run_adds`: adding rules in closed form. Bad rules leave no trace.
* `Scope.loading_agrees` compares the three ways.
-/

namespace StubProxy

/-! ## Rules as a list -/

namespace Rule

/-- The first rule that cannot be read has this error, whatever follows. -/
def FirstBad (rules : List Rule) (e : RuleError) : Prop :=
  ∃ good r rest, rules = good ++ r :: rest ∧ (∀ q ∈ good, ∃ d, q.parse = .ok d) ∧
    r.parse = .error e

/-- Only the rule of length zero stands for no directive. -/
theorem parse_none_iff (r : Rule) : r.parse = .ok none ↔ r.isEmpty := by
  cases r with
  | text s =>
    simp only [parse, parseText, isEmpty, List.isEmpty_iff]
    by_cases hs : s.toList = []
    · simp [hs]
    · rw [if_neg hs]
      cases textScript.parse (Text.dedent s.toList) <;> simp [Except.map, hs]
  | binary b =>
    simp only [parse, parseBytes, isEmpty, List.isEmpty_iff]
    by_cases hb : b = []
    · simp [hb]
    · rw [if_neg hb]
      cases byteScript.parse b <;> simp [Except.map, hb]

/-- A bad rule in front is the first one. -/
theorem firstBad_cons_error {r : Rule} {e : RuleError} (hr : r.parse = .error e)
    (rules : List Rule) (e' : RuleError) : FirstBad (r :: rules) e' ↔ e = e' := by
  constructor
  · rintro ⟨good, q, rest, h, hgood, hq⟩
    cases good with
    | nil =>
      obtain ⟨rfl, rfl⟩ := List.cons.inj h
      exact Except.error.inj (hr.symm.trans hq)
    | cons g good =>
      -- the rule in front would be a good one
      obtain ⟨rfl, rfl⟩ := List.cons.inj h
      obtain ⟨d, hd⟩ := hgood _ List.mem_cons_self
      rw [hr] at hd
      cases hd
  · rintro rfl
    exact ⟨[], r, rules, rfl, by simp, hr⟩

/-- A good rule in front is passed over. -/
theorem firstBad_cons_ok {r : Rule} {d : Option Directive} (hr : r.parse = .ok d)
    (rules : List Rule) (e : RuleError) : FirstBad (r :: rules) e ↔ FirstBad rules e := by
  constructor
  · rintro ⟨good, q, rest, h, hgood, hq⟩
    cases good with
    | nil =>
      obtain ⟨rfl, rfl⟩ := List.cons.inj h
      rw [hr] at hq
      cases hq
    | cons g good =>
      obtain ⟨rfl, rfl⟩ := List.cons.inj h
      exact ⟨good, q, rest, rfl, fun q hq => hgood q (List.mem_cons_of_mem _ hq), hq⟩
  · rintro ⟨good, q, rest, rfl, hgood, hq⟩
    exact ⟨r :: good, q, rest, rfl, List.forall_mem_cons.2 ⟨⟨d, hr⟩, hgood⟩, hq⟩

/-- **Reading a list of rules** fails with the error of the first bad rule. -/
theorem directives_error_iff (rules : List Rule) (e : RuleError) :
    directives rules = .error e ↔ FirstBad rules e := by
  induction rules with
  | nil => simp [directives, FirstBad]
  | cons r rules ih =>
    rw [directives]
    cases hr : r.parse with
    | error e' => simp [firstBad_cons_error hr]
    | ok d =>
      rw [firstBad_cons_ok hr, ← ih]
      cases d with
      | none => rfl
      | some d => cases directives rules <;> simp [Except.map]

/-- The directives of a list are those that its rules register, and each of its rules can be
read. -/
theorem directives_ok {rules : List Rule} {ds : List Directive} (h : directives rules = .ok ds) :
    (rules.map Session.Step.add).filterMap Session.Step.registered = ds ∧
      ∀ r ∈ rules, ∃ d, r.parse = .ok d := by
  induction rules generalizing ds with
  | nil =>
    obtain rfl := Except.ok.inj h
    simp
  | cons r rules ih =>
    rw [directives] at h
    cases hr : r.parse with
    | error e => simp [hr] at h
    | ok d =>
      cases d with
      | none =>
        simp only [hr] at h
        obtain ⟨hds, hgood⟩ := ih h
        refine ⟨?_, List.forall_mem_cons.2 ⟨⟨none, hr⟩, hgood⟩⟩
        simpa [Session.Step.registered, hr] using hds
      | some d =>
        simp only [hr] at h
        cases hrest : directives rules with
        | error e => simp [hrest, Except.map] at h
        | ok rest =>
          obtain ⟨hds, hgood⟩ := ih hrest
          rw [hrest] at h
          obtain rfl := Except.ok.inj h
          refine ⟨?_, List.forall_mem_cons.2 ⟨⟨some d, hr⟩, hgood⟩⟩
          simpa [Session.Step.registered, hr] using hds

end Rule

/-! ## Rules one by one -/

namespace Session

/-- **Adding a rule** registers the directive that it writes, if it writes one. -/
theorem tryAdd_eq (s : Session) (r : Rule) :
    s.tryAdd r = (r.parse.map Option.isSome, s.registerAll (Step.add r).registered.toList) := by
  simp only [tryAdd, addRule, Step.registered]
  cases r.parse with
  | error e => rfl
  | ok d => cases d <;> rfl

/-- Adding a rule gives `false` exactly for the empty rule, and an error changes nothing. -/
theorem tryAdd_cases (s : Session) (r : Rule) :
    ((s.tryAdd r).1 = .ok false ↔ r.isEmpty) ∧
      ∀ e, (s.tryAdd r).1 = .error e → r.parse = .error e ∧ (s.tryAdd r).2 = s := by
  rw [← r.parse_none_iff, tryAdd_eq, Step.registered]
  cases r.parse with
  | error e => simp [Except.map, registerAll]
  | ok d => cases d <;> simp [Except.map]

/-- **Adding rules one by one** registers, in order, what those that can be read write. -/
theorem run_adds (s : Session) (rules : List Rule) :
    s.run (rules.map .add) =
      (rules.map fun r => .added (r.parse.map Option.isSome),
        s.registerAll ((rules.map Step.add).filterMap Step.registered)) := by
  induction rules generalizing s with
  | nil => rfl
  | cons r rules ih =>
    simp only [List.map_cons, run, step, tryAdd_eq, ih, List.filterMap_cons]
    cases (Step.add r).registered <;> rfl

/-- Adding rules that can all be read gives `false` for the empty ones only. -/
theorem run_adds_ok {rules : List Rule} {ds : List Directive}
    (h : Rule.directives rules = .ok ds) (s : Session) :
    s.run (rules.map .add) = (rules.map fun r => .added (.ok !r.isEmpty), s.registerAll ds) := by
  obtain ⟨hds, hgood⟩ := Rule.directives_ok h
  rw [run_adds, hds]
  congr 1
  apply List.map_congr_left
  intro r hr
  obtain ⟨d, hd⟩ := hgood r hr
  -- a rule that was read has a directive unless it is empty
  have hempty := r.parse_none_iff
  rw [hd] at hempty ⊢
  cases d with
  | none => simp [Except.map, hempty.1 rfl]
  | some d => simpa [Except.map] using hempty

end Session

/-! ## The ways compared -/

namespace Scope

/-- **All ways to load rules agree.** A scope opens on rules exactly if they can be read as a list,
with the error of the first bad one and the environment as before otherwise. It opens with their
directives in order, never served, and no history, as the same rules added to an empty session
leave it. Adding a rule gives `false` exactly for the empty rule; one that fails changes nothing,
so bad rules among others are passed over. A bypassed scope opens on any rules. -/
theorem loading_agrees (net : Network) (config : Config) (rules : List Rule) (env : Environment) :
    (config.bypass = false → ∀ address, net.listen config.engine.listenAddr = .ok address →
      ((∃ sc, enter net config rules env = .ok sc) ↔ ∃ ds, Rule.directives rules = .ok ds) ∧
      (∀ ds, Rule.directives rules = .ok ds →
        ∃ sc s, enter net config rules env = .ok sc ∧ sc.session = some s ∧
          s.table.routes = ds.map (Route.new Url.normalize) ∧ (∀ r ∈ s.table.routes, r.calls = 0) ∧
          s.calls = [] ∧
          (Session.start config.engine address).run (rules.map .add) =
            (rules.map fun r => .added (.ok !r.isEmpty), s)) ∧
      (∀ e, Rule.directives rules = .error e →
        enter net config rules env = .error (.rule e, env))) ∧
    (∀ e, Rule.directives rules = .error e ↔ Rule.FirstBad rules e) ∧
    (∀ options address, ((Session.start options address).run (rules.map .add)).2.table.routes =
      ((rules.map Session.Step.add).filterMap Session.Step.registered).map
        (Route.new Url.normalize)) ∧
    (∀ (s : Session) (r : Rule), ((s.tryAdd r).1 = .ok false ↔ r.isEmpty) ∧
      ∀ e, (s.tryAdd r).1 = .error e → r.parse = .error e ∧ (s.tryAdd r).2 = s) ∧
    (config.bypass = true → ∃ sc, enter net config rules env = .ok sc ∧ sc.session = none) := by
  refine ⟨?_, Rule.directives_error_iff rules, ?_, Session.tryAdd_cases, ?_⟩
  · intro hb address hn
    -- opening is starting on no rules, and then registering what the list says
    obtain ⟨sc, hstart, -, henter⟩ := enter_eq rules env hb hn
    refine ⟨?_, ?_, ?_⟩
    · rw [henter]
      cases Rule.directives rules <;> simp
    · intro ds hds
      have hfresh := (Session.fresh_start config.engine address).registerAll ds
      rw [hds] at henter
      refine ⟨_, _, henter, rfl, hfresh.routes, ?_, hfresh.calls, ?_⟩
      · rw [hfresh.routes]
        simp [Route.new]
      · exact Session.run_adds_ok hds _
    · intro e he
      rw [henter, he, (start_holds hstart).abort]
  · intro options address
    rw [Session.run_adds]
    exact ((Session.fresh_start options address).registerAll _).routes
  · intro hb
    exact ⟨_, by rw [enter, if_pos hb], rfl⟩

/-- One rule between two empty ones. -/
def oneRule : List Rule := [.text "", .text "GET http://a.b/1 -> 200 :one", .binary []]

/-- Two bad rules behind it, and a good one. -/
def twoBadRules : List Rule :=
  oneRule ++ [.text "GET http://a.b/2", .text "-> 200", .text "PUT http://a.b/3 -> 204 :"]

/-- The empty rules are skipped. Of two bad rules the first one counts, unless the scope is
bypassed; added one by one, both are passed over. -/
theorem loading_agrees_two_bad :
    let one : Directive := .new "GET" "http://a.b/1" 200 (.text "one")
    let empty := Session.start .default (Network.assign .loopback)
    (∃ sc s, enter .isolated .default oneRule .empty = .ok sc ∧ sc.session = some s ∧
      s.table.routes = [Route.new Url.normalize one] ∧
      empty.run (oneRule.map .add) =
        ([.added (.ok false), .added (.ok true), .added (.ok false)], s)) ∧
    enter .isolated .default twoBadRules .empty =
      .error (.rule (.missingArrow "GET http://a.b/2"), .empty) ∧
    (empty.run (twoBadRules.map .add)).2.table.routes.map Route.summary =
      ["GET http://a.b/1", "PUT http://a.b/3"] ∧
    (∃ sc, enter .isolated .bypassed twoBadRules .empty = .ok sc ∧ sc.session = none) := by
  intro one empty
  have hgood : Rule.directives oneRule = .ok [one] := rfl
  have hbad : Rule.directives twoBadRules = .error (.missingArrow "GET http://a.b/2") := rfl
  have hn : Network.isolated.listen .loopback = .ok (Network.assign .loopback) := rfl
  obtain ⟨hopens, -⟩ := loading_agrees .isolated .default oneRule .empty
  obtain ⟨hfails, -, hadds, -, -⟩ := loading_agrees .isolated .default twoBadRules .empty
  obtain ⟨-, -, -, -, hbypass⟩ := loading_agrees .isolated .bypassed twoBadRules .empty
  obtain ⟨sc, s, hsc, hs, hroutes, -, -, hrun⟩ := (hopens rfl _ hn).2.1 _ hgood
  refine ⟨⟨sc, s, hsc, hs, hroutes, hrun⟩, (hfails rfl _ hn).2.2 _ hbad, ?_, hbypass rfl⟩
  rw [hadds]
  decide +kernel

end Scope

end StubProxy
