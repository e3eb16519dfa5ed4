import StubProxy.Proofs.Opening

/-!
# Ways out of a scope

Every way out tears the scope down, and most let go of it once more. Only the first of these forms a
verdict, and only if it is asked to.

* `Scope.verdicts`: the verdicts formed by several teardowns, one after the other.
  `Scope.verdicts_cons`: there is at most one.
* `Scope.closeWith_eq`, `Scope.drop_eq`, `Scope.abort_eq`, `Scope.unwind_eq`: the ways out in closed
  form.
* `Scope.ways_out_agree` compares them.
-/

namespace StubProxy

namespace Session

/-- A session that was torn down has ended. -/
theorem teardown_live (verify : Bool) (s : Session) : (s.teardown verify).2.live = false := by
  unfold teardown
  cases h : s.live with
  | true => rfl
  | false => exact h

/-- Tearing down a session that has ended does nothing. -/
theorem teardown_ended {s : Session} (h : s.live = false) (verify : Bool) :
    s.teardown verify = (.ok (), s) := by
  unfold teardown
  rw [h]
  rfl

end Session

namespace Scope

/-! ## Teardowns -/

/-- The verdict that a teardown forms: none if it is not asked to, or has no live session. -/
def judged (verify : Bool) (sc : Scope) : Option (Except Error Unit) :=
  match sc.session with
  | some s => if s.live && verify then some s.verdict else none
  | none => none

/-- The verdicts that several teardowns form, one after the other. -/
def verdicts (sc : Scope) : List Bool → List (Except Error Unit)
  | [] => []
  | verify :: later => (sc.judged verify).toList ++ (sc.teardown verify).2.verdicts later

/-- A teardown reports the verdict that it forms, and nothing bad without one. -/
theorem teardown_fst (verify : Bool) (sc : Scope) :
    (sc.teardown verify).1 = (sc.judged verify).getD (.ok ()) := by
  unfold teardown judged Session.teardown
  cases sc.session with
  | none => rfl
  | some s => cases hl : s.live <;> cases verify <;> simp [hl]

/-- No teardown forms a verdict unless it is asked to. -/
theorem judged_false (sc : Scope) : sc.judged false = none := by
  unfold judged
  cases sc.session <;> simp

section

variable (first : Bool) (sc : Scope)

/-- **Another teardown** does nothing. -/
theorem teardown_torn (again : Bool) :
    (sc.teardown first).2.teardown again = (.ok (), (sc.teardown first).2) := by
  unfold teardown
  cases h : sc.session with
  | none => simp only [h]
  | some s => simp only [Session.teardown_ended (s.teardown_live first), Option.map_none,
      Option.getD_none]

/-- **Another teardown** forms no verdict. -/
theorem judged_torn (again : Bool) : (sc.teardown first).2.judged again = none := by
  unfold judged teardown
  cases h : sc.session with
  | none => simp [h]
  | some s => simp [Session.teardown_live]

theorem verdicts_torn (later : List Bool) : (sc.teardown first).2.verdicts later = [] := by
  induction later with
  | nil => rfl
  | cons again later ih =>
    rw [verdicts, judged_torn, teardown_torn, ih]
    rfl

/-- **Of several teardowns** only the first can form a verdict. -/
theorem verdicts_cons (later : List Bool) :
    sc.verdicts (first :: later) = (sc.judged first).toList := by
  rw [verdicts, verdicts_torn, List.append_nil]

/-- Letting go of what a teardown left has no effect, and is no panic. -/
theorem release_torn (unwinding : Bool) :
    (sc.teardown first).2.release unwinding = (none, (sc.teardown first).2) := by
  unfold release
  rw [teardown_torn]

theorem settle_torn {α : Type} (f : Finish α) (unwinding : Bool) :
    (sc.teardown first).2.settle f unwinding = (f, (sc.teardown first).2.env) := by
  unfold settle
  rw [release_torn]
  rfl

end

/-! ## Ways out in closed form -/

variable {α : Type}

/-- Letting go of a scope is a teardown whose verdict, if it is bad, is a panic. -/
theorem release_eq (unwinding : Bool) (sc : Scope) :
    sc.release unwinding = (match (sc.teardown !unwinding).1 with
      | .error e => some e.message
      | .ok () => none, (sc.teardown !unwinding).2) := by
  unfold release
  cases sc.teardown !unwinding with
  | mk verdict torn => cases verdict <;> rfl

theorem closeWith_eq (a : α) (sc : Scope) :
    sc.closeWith a = (match (sc.teardown true).1 with
      | .error e => .failed e
      | .ok () => .value a, (sc.teardown true).2.env) :=
  settle_torn true sc _ false

theorem drop_eq (sc : Scope) :
    sc.drop = (match (sc.teardown true).1 with
      | .error e => .panicked e.message
      | .ok () => .value (), (sc.teardown true).2.env) := by
  unfold drop settle
  rw [release_eq, Bool.not_false]
  cases (sc.teardown true).1 <;> rfl

theorem abort_eq (sc : Scope) : sc.abort = (.value (), (sc.teardown false).2.env) :=
  settle_torn false sc _ false

theorem unwind_eq (message : String) (sc : Scope) :
    (sc.unwind message : Finish α × Environment) =
      (.panicked message, (sc.teardown false).2.env) := by
  -- while a panic unwinds, nothing asks for a verdict, and there is none to add a panic
  unfold unwind settle
  rw [release_eq, Bool.not_true, teardown_fst, judged_false]
  rfl

/-- A body runs in the scope that opened, and a way out follows. -/
theorem within_eq {net : Network} {config : Config} {rules : List Rule} {env : Environment}
    {sc : Scope} (h : enter net config rules env = .ok sc)
    (body : Scope → Except String α × Scope) :
    within net config rules body env = match (body sc).1 with
      | .ok a => (body sc).2.closeWith a
      | .error message => (body sc).2.unwind message := by
  cases hbody : body sc with
  | mk result left => cases result <;> simp only [within, h, hbody]

/-! ## The ways out compared -/

/-- A body that returns leaves the scope as closing does, with its value in place of none. -/
theorem closeWith_iff (a : α) (sc : Scope) :
    (∀ e, (sc.closeWith a).1 = .failed e ↔ sc.close.1 = .failed e) ∧
      ((∀ e, sc.close.1 ≠ .failed e) → (sc.closeWith a).1 = .value a) := by
  unfold close
  rw [closeWith_eq, closeWith_eq]
  cases (sc.teardown true).1 with
  | error e => simp
  | ok u => simp

/-- Dropping a scope panics with the error that closing reports. -/
theorem drop_iff (sc : Scope) :
    (∀ message, sc.drop.1 = .panicked message ↔
      ∃ e, sc.close.1 = .failed e ∧ message = e.message) ∧
    ((∀ e, sc.close.1 ≠ .failed e) → sc.drop.1 = .value ()) := by
  unfold close
  rw [closeWith_eq, drop_eq]
  cases (sc.teardown true).1 with
  | error e => simp [eq_comm]
  | ok u => simp

/-- **All ways out of a scope agree.** After any steps, a body that returns fails with what closing
fails with, and gives its value otherwise; dropping the scope panics with the message of that error,
and gives nothing otherwise. Leaving without a judgement, with a panic on its way or in the body,
gives no other end. A verdict is formed by the first teardown or by none, so whatever is let go of
later has no effect and no panic. -/
theorem ways_out_agree (net : Network) (config : Config) (rules : List Rule) (env : Environment)
    (sc : Scope) (hb : config.bypass = false) (h : enter net config rules env = .ok sc)
    (xs : List Session.Step) :
    let left := sc.after xs
    (∀ (α : Type) (body : Scope → Except String α × Scope) (a : α), body sc = (.ok a, left) →
      (∀ e, (within net config rules body env).1 = .failed e ↔ left.close.1 = .failed e) ∧
      ((∀ e, left.close.1 ≠ .failed e) → (within net config rules body env).1 = .value a)) ∧
    ((∀ message, left.drop.1 = .panicked message ↔
        ∃ e, left.close.1 = .failed e ∧ message = e.message) ∧
      ((∀ e, left.close.1 ≠ .failed e) → left.drop.1 = .value ())) ∧
    (left.abort.1 = .value () ∧
      (∀ message, (left.unwind message : Finish Unit × Environment).1 = .panicked message) ∧
      ∀ (α : Type) (body : Scope → Except String α × Scope) (message : String),
        body sc = (.error message, left) →
        (within net config rules body env).1 = .panicked message) ∧
    (∀ later, (left.verdicts (true :: later)).length = 1 ∧ left.verdicts (false :: later) = []) ∧
    ∀ first unwinding,
      (left.teardown first).2.release unwinding = (none, (left.teardown first).2) := by
  intro left
  refine ⟨?_, left.drop_iff, ⟨?_, ?_, ?_⟩, ?_, ?_⟩
  · intro α body a hbody
    rw [within_eq h, hbody]
    exact left.closeWith_iff a
  · rw [abort_eq]
  · intro message
    rw [unwind_eq]
  · intro α body message hbody
    rw [within_eq h, hbody]
    simp only [unwind_eq]
  · intro later
    -- no step ends the session that the scope opened with
    obtain ⟨ds, s, -, hs, hfresh⟩ := enter_inv hb h
    have hlive : (s.run xs).2.live = true := (s.run_frame xs).2.trans hfresh.live
    have hjudged : left.judged true = some (s.run xs).2.verdict := by
      simp [left, after, judged, hs, hlive]
    rw [verdicts_cons, verdicts_cons, hjudged, judged_false]
    exact ⟨rfl, rfl⟩
  · intro first unwinding
    exact left.release_torn first unwinding

/-- A request is refused in a scope with one rule. Closing, a body that returns and dropping report
it, the last with a panic; a body that panics keeps its own message. The session that was closed
would be judged badly once more, but is not. -/
theorem ways_out_agree_refused :
    let xs : List Session.Step := [.respond "PUT" "http://a.b/1"]
    let rules : List Rule := [.text "GET http://a.b/1 -> 200 :one"]
    let missed : Error := .unmatchedRequests ["PUT http://a.b/1"]
    ∃ sc, enter .isolated .default rules .empty = .ok sc ∧
      (sc.after xs).close.1 = .failed missed ∧
      (within .isolated .default rules (fun sc => (.ok 7, sc.after xs)) .empty).1 =
        .failed missed ∧
      (sc.after xs).drop.1 = .panicked missed.message ∧
      (within (α := Nat) .isolated .default rules (fun sc => (.error "boom", sc.after xs))
        .empty).1 = .panicked "boom" ∧
      ((sc.after xs).teardown true).2.session.map Session.verdict = some (.error missed) ∧
      (((sc.after xs).teardown true).2.release false).1 = none := by
  intro xs rules missed
  let one : Directive := .new "GET" "http://a.b/1" 200 (.text "one")
  let s := (Session.start .default (Network.assign .loopback)).registerAll [one]
  obtain ⟨sc, hsc, hs⟩ : ∃ sc, enter .isolated .default rules .empty = .ok sc ∧
      sc.session = some s := by
    have hds : Rule.directives rules = .ok [one] := rfl
    have hb : Config.default.bypass = false := rfl
    have hn : Network.isolated.listen .loopback = .ok (Network.assign .loopback) := rfl
    obtain ⟨sc, -, -, hsc⟩ := enter_eq rules .empty hb hn
    rw [hds] at hsc
    exact ⟨_, hsc, rfl⟩
  obtain ⟨hwithin, ⟨hdrop, -⟩, ⟨-, -, hbody⟩, -, hrelease⟩ :=
    ways_out_agree .isolated .default rules .empty sc rfl hsc xs
  have hafter : (sc.after xs).session = some (s.run xs).2 := by simp [after, hs]
  have hmissed : (s.run xs).2.unmatched.map Call.summary = ["PUT http://a.b/1"] := by
    decide +kernel
  have hclose : (sc.after xs).close.1 = .failed missed := by
    rw [close_reports hafter (by decide +kernel) hmissed rfl]
    rfl
  have hkept : ((s.run xs).2.teardown true).2.unmatched.map Call.summary =
      ["PUT http://a.b/1"] := by
    decide +kernel
  have htorn : ((s.run xs).2.teardown true).2.verdict = .error missed := by
    rw [Session.verdict_reports hkept rfl]
    rfl
  refine ⟨sc, hsc, hclose, ?_, ?_, ?_, ?_, ?_⟩
  · exact ((hwithin Nat _ 7 rfl).1 missed).2 hclose
  · exact (hdrop _).2 ⟨missed, hclose, rfl⟩
  · exact hbody Nat _ "boom" rfl
  · simp [teardown, hafter, htorn]
  · rw [hrelease]

end Scope

end StubProxy
