import Mathlib.Data.List.Forall2
import StubProxy.Proofs.ClosingVerdict

/-!
# Leaving more to the network

Two runs of the same steps, where one leaves more URLs to the network, from some points on. What it
leaves to the network in addition is what the other one refuses.

* `Session.Widened`: steps with more passthrough beginnings among them.
* `Session.Eases`: what such steps may change in a session. The routes, their calls and the cursor
  are the same, and so is the history, but for refusals that have become passages.
* `Session.step_eases`: one step keeps two sessions in this relation, and is answered the same, or
  refused in the first and left to the network in the second.
* `Session.widened_undisturbed` says this of every step of a run, and of every point of it.
-/

namespace StubProxy

/-- Where the first handling is a refusal, the second may be a passage. -/
def Handling.Eases (h h' : Handling) : Prop := h' = h ∨ (h = .refused ∧ h' = .passed)

/-- The same request with an eased handling. -/
structure Event.Eases (e e' : Event) : Prop where
  method : e'.method = e.method
  url : e'.url = e.url
  handling : e.handling.Eases e'.handling

/-- The same request; where the first entry shows a refusal, the second may show a passage. -/
structure Call.Eases (c c' : Call) : Prop where
  method : c'.method = c.method
  url : c'.url = c.url
  outcome : c'.outcome = c.outcome ∨ (c.outcome = .unmatched ∧ c'.outcome = .passthrough)

theorem Call.eases_refl (c : Call) : c.Eases c := ⟨rfl, rfl, .inl rfl⟩

/-- A table that leaves more to the network passes all URLs that the first one passes. -/
theorem Table.isPassthrough_mono {t t' : Table} (h : t.passthrough ⊆ t'.passthrough) {url : String}
    (hp : t.isPassthrough url) : t'.isPassthrough url := by
  obtain ⟨start, hs, hurl⟩ := List.any_eq_true.1 hp
  exact List.any_eq_true.2 ⟨start, h hs, hurl⟩

/-- It passes all tunnels, too. -/
theorem Table.isPassthroughAuthority_mono {t t' : Table} (h : t.passthrough ⊆ t'.passthrough)
    {host : String} {port : Nat} (hp : t.isPassthroughAuthority host port) :
    t'.isPassthroughAuthority host port := by
  obtain ⟨start, hs, hurl⟩ := List.any_eq_true.1 hp
  exact List.any_eq_true.2 ⟨start, h hs, hurl⟩

namespace Session

/-- The same steps with more beginnings left to the network, at any points among them. -/
inductive Widened : List Step → List Step → Prop
  | nil : Widened [] []
  | kept (x : Step) {xs ys : List Step} : Widened xs ys → Widened (x :: xs) (x :: ys)
  | inserted (start : String) {xs ys : List Step} :
    Widened xs ys → Widened xs (.passthrough start :: ys)

/-- The same session, but the second one leaves more to the network, and has refused less. -/
structure Eases (s s' : Session) : Prop where
  strict : s'.table.strict = s.table.strict
  routes : s'.table.routes = s.table.routes
  cursor : s'.table.cursor = s.table.cursor
  wider : s.table.passthrough ⊆ s'.table.passthrough
  calls : List.Forall₂ Call.Eases s.calls s'.calls

/-- A step is handled and answered the same in both sessions, or it is a request that the first one
refuses and the second one leaves to the network. -/
def Step.Eases (x : Step) (s s' : Session) : Prop :=
  (s'.handling x = s.handling x ∧ (s'.step x).1 = (s.step x).1) ∨
  (∃ method url, x.recorded = some (method, url) ∧
    s.handling x = .refused ∧ (s.step x).1 = x.refusal method url ∧
    s'.handling x = .passed ∧ (s'.step x).1 = x.passage)

variable {s s' : Session} {x : Step} {xs ys : List Step} {method url : String}

/-! ## One step -/

/-- Every session eases itself. -/
theorem Eases.refl (s : Session) : s.Eases s :=
  ⟨rfl, rfl, rfl, List.Subset.refl _, List.forall₂_same.2 fun c _ => Call.eases_refl c⟩

/-- The routes are searched the same way. -/
theorem Eases.choose_eq (h : s.Eases s') (k : Key) : s'.table.choose k = s.table.choose k := by
  simp only [Table.choose, h.strict, h.routes, h.cursor]

theorem Eases.isExempt (h : s.Eases s') (hx : x.isExempt s.table) : x.isExempt s'.table := by
  cases x with
  | respond m u => exact Table.isPassthrough_mono h.wider hx
  | request r =>
    unfold Step.isExempt at hx ⊢
    by_cases hm : r.method = "CONNECT"
    · simp only [if_pos hm] at hx ⊢
      obtain ⟨a, ha, hcovered⟩ := (Option.any_eq_true _ _).1 hx
      exact (Option.any_eq_true _ _).2 ⟨a, ha, Table.isPassthroughAuthority_mono h.wider hcovered⟩
    · simp only [if_neg hm] at hx ⊢
      exact Table.isPassthrough_mono h.wider hx
  | _ => exact absurd hx Bool.false_ne_true

/-- A beginning more for the second session. -/
theorem Eases.addPassthrough (h : s.Eases s') (start : String) :
    s.Eases (s'.addPassthrough start) :=
  ⟨h.strict, h.routes, h.cursor, fun _ hb => List.mem_append_left _ (h.wider hb), h.calls⟩

/-- The same additions to both sessions. -/
theorem Eases.prepared (h : s.Eases s') (x : Step) : (s.prepared x).Eases (s'.prepared x) where
  strict := h.strict
  routes := congrArg (· ++ (x.registered.map (Route.new Url.normalize)).toList) h.routes
  cursor := h.cursor
  wider := List.append_subset.2
    ⟨fun _ hb => List.mem_append_left _ (h.wider hb), List.subset_append_right _ _⟩
  calls := h.calls

theorem Eases.snoc {c c' : Call} (h : s.Eases s') (hc : c.Eases c') :
    List.Forall₂ Call.Eases (s.calls ++ [c]) (s'.calls ++ [c']) :=
  List.rel_append h.calls (.cons hc .nil)

/-- The same route is served in both sessions. -/
theorem Eases.fired (h : s.Eases s') (i : Nat) (method url : String) (status : Nat) :
    (s.fired i method url status).Eases (s'.fired i method url status) where
  strict := h.strict
  routes := congrArg (List.modify · i Route.fire) h.routes
  cursor := by simp only [Session.fired, Table.fireAt, h.strict, h.cursor]
  wider := h.wider
  calls := h.snoc (Call.eases_refl _)

/-- An entry more in both histories. -/
theorem Eases.record {outcome outcome' : Outcome} (h : s.Eases s')
    (ho : outcome' = outcome ∨ (outcome = .unmatched ∧ outcome' = .passthrough)) :
    (s.record method url outcome).Eases (s'.record method url outcome') :=
  ⟨h.strict, h.routes, h.cursor, h.wider, h.snoc ⟨rfl, rfl, ho⟩⟩

/-- What is not recorded is answered the same in every session. -/
theorem answer_silent (hx : x.recorded = none) (s s' : Session) :
    (s'.step x).1 = (s.step x).1 := by
  cases x with
  | add r =>
    simp only [step, tryAdd, addRule]
    cases r.parse with
    | error e => rfl
    | ok d => cases d <;> rfl
  | register d => rfl
  | passthrough start => rfl
  | respond method url => simp [Step.recorded] at hx
  | request r =>
    simp only [Step.recorded] at hx
    by_cases hc : r.method = "CONNECT"
    · rw [if_pos hc, Option.map_eq_none_iff] at hx
      simp [step, handle, hc, hx]
    · simp [hc] at hx

/-- Both sessions choose the same route for a step, or none. -/
theorem Eases.chosen_eq (h : s.Eases s') (x : Step) :
    x.asked.bind s'.table.choose = x.asked.bind s.table.choose :=
  congrArg x.asked.bind (funext h.choose_eq)

/-- What prepares a session prepares both. -/
theorem Eases.step_silent (h : s.Eases s') (hx : x.recorded = none) :
    x.Eases s s' ∧ (s.step x).2.Eases (s'.step x).2 := by
  have hanswer := answer_silent hx s s'
  refine ⟨.inl ⟨?_, hanswer⟩, ?_⟩
  · simp only [handling, h.chosen_eq, hanswer]
  · rw [Session.step_silent hx, Session.step_silent hx]
    exact h.prepared x

/-- A request that a route is chosen for is answered from this route in both sessions. -/
theorem Eases.step_served (h : s.Eases s') (hx : x.recorded = some (method, url)) {i : Nat}
    (hi : x.asked.bind s.table.choose = some i) :
    x.Eases s s' ∧ (s.step x).2.Eases (s'.step x).2 := by
  have hi' : x.asked.bind s'.table.choose = some i := by rw [h.chosen_eq, hi]
  obtain ⟨r, hr, hs⟩ := step_chosen s hx hi
  obtain ⟨r', hr', hs'⟩ := step_chosen s' hx hi'
  -- the routes are the same, so what stands at the position chosen is
  obtain rfl : r = r' := by
    rw [h.routes, hr] at hr'
    exact Option.some.inj hr'
  have hhandling : s'.handling x = s.handling x := by simp only [handling, hi, hi']
  refine ⟨.inl ⟨hhandling, by rw [hs, hs']⟩, ?_⟩
  rw [hs, hs']
  exact h.fired i _ _ _

/-- What the first session leaves to the network, the second one does. What the first one refuses,
the second one may leave to the network. -/
theorem Eases.step_unserved (h : s.Eases s') (hx : x.recorded = some (method, url))
    (hi : x.asked.bind s.table.choose = none) :
    x.Eases s s' ∧ (s.step x).2.Eases (s'.step x).2 := by
  have hi' : x.asked.bind s'.table.choose = none := by rw [h.chosen_eq, hi]
  have hs := step_unserved_eq s hx (Option.bind_eq_none_iff.1 hi)
  have hs' := step_unserved_eq s' hx (Option.bind_eq_none_iff.1 hi')
  have hh := handling_unserved hx hi
  have hh' := handling_unserved hx hi'
  -- a request may change sides only from refused to passed, as beginnings are only added
  cases he : x.isExempt s.table with
  | true =>
    rw [he, if_pos rfl] at hs hh
    rw [h.isExempt he, if_pos rfl] at hs' hh'
    rw [Step.Eases, hs, hs', hh, hh']
    exact ⟨.inl ⟨rfl, rfl⟩, h.record (.inl rfl)⟩
  | false =>
    rw [he, if_neg Bool.false_ne_true] at hs hh
    cases he' : x.isExempt s'.table with
    | true =>
      rw [he', if_pos rfl] at hs' hh'
      rw [Step.Eases, hs, hs', hh, hh']
      exact ⟨.inr ⟨_, _, hx, rfl, rfl, rfl, rfl⟩, h.record (.inr ⟨rfl, rfl⟩)⟩
    | false =>
      rw [he', if_neg Bool.false_ne_true] at hs' hh'
      rw [Step.Eases, hs, hs', hh, hh']
      exact ⟨.inl ⟨rfl, rfl⟩, h.record (.inl rfl)⟩

/-- **One step** keeps the second session the same as the first one, but for requests that it leaves
to the network. -/
theorem step_eases (h : s.Eases s') (x : Step) :
    x.Eases s s' ∧ (s.step x).2.Eases (s'.step x).2 := by
  cases hx : x.recorded with
  | none => exact h.step_silent hx
  | some q =>
    cases hi : x.asked.bind s.table.choose with
    | some i => exact h.step_served hx hi
    | none => exact h.step_unserved hx hi

/-- The events of a step that eases. -/
theorem Step.Eases.event (h : x.Eases s s') :
    List.Forall₂ Event.Eases (s.event x).toList (s'.event x).toList := by
  unfold Session.event
  cases hx : x.recorded with
  | none => exact .nil
  | some q =>
    refine .cons ⟨rfl, rfl, ?_⟩ .nil
    rcases h with ⟨hh, -⟩ | ⟨_, _, -, hh, -, hh', -⟩
    · exact .inl hh
    · exact .inr ⟨hh, hh'⟩

/-! ## A whole run -/

/-- **A run** with more beginnings left to the network stays the same but for that. -/
theorem Eases.run (h : s.Eases s') (hw : Widened xs ys) :
    (s.run xs).2.Eases (s'.run ys).2 := by
  induction hw generalizing s s' with
  | nil => exact h
  | kept x _ ih => exact ih (step_eases h x).2
  | inserted start _ ih => exact ih (h.addPassthrough start)

theorem Eases.events (h : s.Eases s') (hw : Widened xs ys) :
    List.Forall₂ Event.Eases (s.events xs) (s'.events ys) := by
  induction hw generalizing s s' with
  | nil => exact .nil
  | kept x _ ih =>
    obtain ⟨hx, hnext⟩ := step_eases h x
    exact List.rel_append hx.event (ih hnext)
  | inserted start _ ih =>
    -- the step that is inserted has no event
    exact ih (h.addPassthrough start)

/-- Before any point of the wide steps stand those before a point of the narrow ones. -/
theorem Widened.narrow (hw : Widened xs ys) {ys₁ ys₂ : List Step} (hy : ys = ys₁ ++ ys₂) :
    ∃ xs₁ xs₂, xs = xs₁ ++ xs₂ ∧ Widened xs₁ ys₁ ∧ Widened xs₂ ys₂ := by
  induction hw generalizing ys₁ with
  | nil =>
    obtain ⟨rfl, rfl⟩ := List.append_eq_nil_iff.1 hy.symm
    exact ⟨[], [], rfl, .nil, .nil⟩
  | kept x hrest ih =>
    rcases List.cons_eq_append_iff.1 hy with ⟨rfl, rfl⟩ | ⟨zs, rfl, hz⟩
    · exact ⟨[], _, rfl, .nil, .kept x hrest⟩
    · obtain ⟨xs₁, xs₂, rfl, h₁, h₂⟩ := ih hz
      exact ⟨x :: xs₁, xs₂, rfl, .kept x h₁, h₂⟩
  | inserted start hrest ih =>
    rcases List.cons_eq_append_iff.1 hy with ⟨rfl, rfl⟩ | ⟨zs, rfl, hz⟩
    · exact ⟨[], _, rfl, .nil, .inserted start hrest⟩
    · obtain ⟨xs₁, xs₂, rfl, h₁, h₂⟩ := ih hz
      exact ⟨xs₁, xs₂, rfl, .inserted start h₁, h₂⟩

/-- Every narrow step is one of the wide steps, behind those that widen the steps before it. -/
theorem Widened.split (hw : Widened xs ys) {xs₁ xs₂ : List Step} (hx : xs = xs₁ ++ x :: xs₂) :
    ∃ ys₁ ys₂, ys = ys₁ ++ x :: ys₂ ∧ Widened xs₁ ys₁ ∧ Widened xs₂ ys₂ := by
  induction hw generalizing xs₁ with
  | nil => simp at hx
  | @kept x' _ ys hrest ih =>
    rcases List.cons_eq_append_iff.1 hx with ⟨rfl, hhead⟩ | ⟨zs, rfl, hz⟩
    · obtain ⟨rfl, rfl⟩ := List.cons.inj hhead
      exact ⟨[], ys, rfl, .nil, hrest⟩
    · obtain ⟨ys₁, ys₂, rfl, h₁, h₂⟩ := ih hz
      exact ⟨x' :: ys₁, ys₂, rfl, .kept x' h₁, h₂⟩
  | inserted start hrest ih =>
    obtain ⟨ys₁, ys₂, rfl, h₁, h₂⟩ := ih hx
    exact ⟨.passthrough start :: ys₁, ys₂, rfl, .inserted start h₁, h₂⟩

/-- **Passthrough beginnings do not disturb stubbing.** Let more beginnings be left to the network,
at any points of a run. Each request is then handled as before, or it was refused and is now left to
the network. At every point of the wider run the routes and their calls are those of the narrow run,
and so is the history, but for refusals that have become passages. Every step of the narrow run is
answered the same in the wider one, unless it is such a request. -/
theorem widened_undisturbed (s : Session) (h : Widened xs ys) :
    List.Forall₂ Event.Eases (s.events xs) (s.events ys) ∧
    (∀ ys₁ ys₂, ys = ys₁ ++ ys₂ → ∃ xs₁ xs₂, xs = xs₁ ++ xs₂ ∧
      Widened xs₁ ys₁ ∧ Widened xs₂ ys₂ ∧ (s.run xs₁).2.Eases (s.run ys₁).2) ∧
    (∀ xs₁ x xs₂, xs = xs₁ ++ x :: xs₂ → ∃ ys₁ ys₂, ys = ys₁ ++ x :: ys₂ ∧
      Widened xs₁ ys₁ ∧ Widened xs₂ ys₂ ∧ x.Eases (s.run xs₁).2 (s.run ys₁).2 ∧
      ((s.run xs₁).2.step x).2.Eases ((s.run ys₁).2.step x).2) := by
  refine ⟨(Eases.refl s).events h, ?_, ?_⟩
  · intro ys₁ ys₂ hy
    obtain ⟨xs₁, xs₂, hx, h₁, h₂⟩ := h.narrow hy
    exact ⟨xs₁, xs₂, hx, h₁, h₂, (Eases.refl s).run h₁⟩
  · intro xs₁ x xs₂ hx
    obtain ⟨ys₁, ys₂, hy, h₁, h₂⟩ := h.split hx
    exact ⟨ys₁, ys₂, hy, h₁, h₂, step_eases ((Eases.refl s).run h₁) x⟩

/-- A request that is stubbed, one that is not, and a tunnel. -/
def stubbedAndNot : List Step :=
  [.register (.new "GET" "http://a.b/1" 200 (.text "one")), .respond "GET" "http://a.b/1",
    .respond "GET" "http://a.b/2", .request ⟨"CONNECT", .authority "a.b:443".toList, [], []⟩]

/-- The same requests; all plain ones are left to the network, and late a tunnel. -/
def stubbedAndLeft : List Step :=
  [.passthrough "http://", .register (.new "GET" "http://a.b/1" 200 (.text "one")),
    .respond "GET" "http://a.b/1", .respond "GET" "http://a.b/2", .passthrough "https://A.B/x",
    .request ⟨"CONNECT", .authority "a.b:443".toList, [], []⟩]

/-- In strict order, too, a request is stubbed although its URL is left to the network. -/
theorem widened_undisturbed_strict :
    let s := start { Options.default with strictOrder := true } .loopback
    Widened stubbedAndNot stubbedAndLeft ∧
      (s.events stubbedAndNot).map (·.handling) = [.served 0, .refused, .refused] ∧
      (s.events stubbedAndLeft).map (·.handling) = [.served 0, .passed, .passed] ∧
      List.Forall₂ Event.Eases (s.events stubbedAndNot) (s.events stubbedAndLeft) := by
  intro s
  have hw : Widened stubbedAndNot stubbedAndLeft :=
    .inserted _ (.kept _ (.kept _ (.kept _ (.inserted _ (.kept _ .nil)))))
  exact ⟨hw, by decide +kernel, by decide +kernel, (s.widened_undisturbed hw).1⟩

end Session

end StubProxy
