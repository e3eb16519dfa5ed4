import StubProxy.Proofs.Lane
import StubProxy.Proofs.StrictOrder
import StubProxy.Proofs.SessionTable

/-!
# Requests that a route matches

Who answers a request that some registered route matches, at any point of a session.

* `dispatch_loose`: in loose order a directive does, always.
* `dispatch_due`, `dispatch_not_due`: in strict order the next directive does if it matches. If not,
  a passthrough beginning lets the request out to the network, although a route matches it.
* `dispatch_escape_iff`: so this happens in strict order only, to a request out of turn.
-/

namespace StubProxy

open Session

/-- **Loose order.** A request that a route matches is answered from such a route. -/
theorem dispatch_loose {s : Session} (hs : s.table.strict = false) {method url : String}
    (hm : ∃ r ∈ s.table.routes, r.answers Url.normalize method url) :
    ∃ r ∈ s.table.routes, r.answers Url.normalize method url ∧
      (s.dispatch method url).1 = .stub r.directive := by
  obtain ⟨r, hr, hk⟩ := hm
  simp only [Route.answers, decide_eq_true_eq] at hk
  rcases Table.serve_lane hs (Key.of Url.normalize method url) with
    ⟨A, p, B, hl, -, -, h, -, -⟩ | ⟨hl, -⟩
  · have hp : p ∈ s.table.lane (Key.of Url.normalize method url) := by rw [hl]; simp
    obtain ⟨hget, hpk⟩ := Table.mem_lane.1 hp
    refine ⟨p.1, List.mem_of_getElem? hget, by simpa [Route.answers] using hpk, ?_⟩
    unfold dispatch
    rw [Table.lookup_eq, h]
  · -- an empty lane means that no route matches
    obtain ⟨i, hi⟩ := List.mem_iff_getElem?.1 hr
    have hmem : (r, i) ∈ s.table.lane (Key.of Url.normalize method url) :=
      Table.mem_lane.2 ⟨hi, hk⟩
    rw [hl] at hmem
    simp at hmem

/-- **Strict order, in turn.** The first route that was never served answers if it matches. -/
theorem dispatch_due {s : Session} (hs : StrictInv s.table) {method url : String} {r : Route}
    (hr : s.table.unfired.head? = some r) (hk : r.answers Url.normalize method url) :
    (s.dispatch method url).1 = .stub r.directive := by
  simp only [Route.answers, decide_eq_true_eq] at hk
  rw [← hs.due] at hr
  unfold dispatch
  rw [Table.lookup_eq]
  rcases serve_strict hs.strict (Key.of Url.normalize method url) with ⟨x, hx, -, h⟩ | ⟨hn, -⟩
  · obtain rfl : x = r := Option.some.inj (hx.symm.trans hr)
    rw [h]
  · exact absurd hk (hn r hr)

/-- **Strict order, out of turn.** No route answers, whether or not one matches. -/
theorem dispatch_not_due {s : Session} (hs : StrictInv s.table) {method url : String}
    (hn : ∀ r ∈ s.table.unfired.head?, ¬ r.answers Url.normalize method url) :
    (s.dispatch method url).1 =
      if s.table.isPassthrough url then .passthrough else .unmatched := by
  rw [← hs.due] at hn
  unfold dispatch
  rw [Table.lookup_eq]
  rcases serve_strict hs.strict (Key.of Url.normalize method url) with ⟨x, hx, hk, -⟩ | ⟨-, h⟩
  · exact absurd (by simpa [Route.answers] using hk) (hn x hx)
  · rw [h]

/-- Who answers a matched request, for a session whose table is in order. -/
theorem escape_iff {s : Session} {strict : Bool} (ho : s.table.strict = strict)
    (hs : strict = true → StrictInv s.table) {method url : String}
    (hm : ∃ r ∈ s.table.routes, r.answers Url.normalize method url) :
    ((s.dispatch method url).1 = .passthrough ↔
      strict = true ∧ s.table.isPassthrough url = true ∧
        ∀ r ∈ s.table.unfired.head?, ¬ r.answers Url.normalize method url) ∧
    (strict = false → ∃ r ∈ s.table.routes, r.answers Url.normalize method url ∧
      (s.dispatch method url).1 = .stub r.directive) ∧
    (strict = true → ∀ r ∈ s.table.unfired.head?, r.answers Url.normalize method url →
      (s.dispatch method url).1 = .stub r.directive) := by
  cases strict with
  | false =>
    obtain ⟨r, hr, hk, hd⟩ := dispatch_loose ho hm
    refine ⟨?_, fun _ => ⟨r, hr, hk, hd⟩, by simp⟩
    rw [hd]
    simp
  | true =>
    have hs := hs rfl
    refine ⟨?_, by simp, fun _ r hr hk => dispatch_due hs hr hk⟩
    constructor
    · intro hd
      have hn : ∀ r ∈ s.table.unfired.head?, ¬ r.answers Url.normalize method url := by
        intro r hr hk
        rw [dispatch_due hs hr hk] at hd
        cases hd
      rw [dispatch_not_due hs hn] at hd
      cases hp : s.table.isPassthrough url with
      | true => exact ⟨rfl, rfl, hn⟩
      | false =>
        rw [hp] at hd
        cases hd
    · rintro ⟨-, hp, hn⟩
      rw [dispatch_not_due hs hn, if_pos hp]

/-- The table of a running session is in loose order, or in strict order with its invariant. -/
theorem run_order (options : Options) (address : SocketAddress) (steps : List Step) :
    ((start options address).run steps).2.table.strict = options.strictOrder ∧
      (options.strictOrder = true → StrictInv ((start options address).run steps).2.table) := by
  rw [run_table, start_table]
  refine ⟨Table.run_strict _ _, ?_⟩
  intro h
  rw [h]
  exact run_strictInv strictInv_empty _

/-- **When a matched request escapes.** At any point of a session, a request that some route matches
is left to the network exactly in strict order, if it begins like a passthrough URL and the next
directive is not the one that it asks for. In loose order, and in turn, a directive answers it. -/
theorem dispatch_escape_iff (options : Options) (address : SocketAddress) (steps : List Step)
    (method url : String)
    (hm : ∃ r ∈ ((start options address).run steps).2.table.routes,
      r.answers Url.normalize method url) :
    let s := ((start options address).run steps).2
    ((s.dispatch method url).1 = .passthrough ↔
      options.strictOrder = true ∧ s.table.isPassthrough url = true ∧
        ∀ r ∈ s.table.unfired.head?, ¬ r.answers Url.normalize method url) ∧
    (options.strictOrder = false → ∃ r ∈ s.table.routes, r.answers Url.normalize method url ∧
      (s.dispatch method url).1 = .stub r.directive) ∧
    (options.strictOrder = true → ∀ r ∈ s.table.unfired.head?, r.answers Url.normalize method url →
      (s.dispatch method url).1 = .stub r.directive) := by
  obtain ⟨hstrict, hinv⟩ := run_order options address steps
  exact escape_iff hstrict hinv hm

/-- Two rules, and a passthrough beginning that covers the URLs of both. -/
def twoInTurn : List Step :=
  [.add (.text "GET http://a.b/1 -> 200 :one"), .add (.text "GET http://a.b/2 -> 200 :two"),
    .passthrough "http://a.b/"]

/-- The second rule matches the request, but the first one is due: the request gets out. -/
theorem second_rule_escapes :
    let s := ((start { Options.default with strictOrder := true } .loopback).run twoInTurn).2
    (∃ r ∈ s.table.routes, r.answers Url.normalize "GET" "http://a.b/2") ∧
      (s.dispatch "GET" "http://a.b/2").1 = .passthrough := by
  decide +kernel

/-- Once the first rule was served, the same request is in turn and does not get out. -/
theorem second_rule_in_turn :
    let steps := twoInTurn ++ [.respond "GET" "http://a.b/1"]
    let s := ((start { Options.default with strictOrder := true } .loopback).run steps).2
    (∃ r ∈ s.table.routes, r.answers Url.normalize "GET" "http://a.b/2") ∧
      (s.dispatch "GET" "http://a.b/2").1 ≠ .passthrough := by
  intro steps s
  have hm : ∃ r ∈ s.table.routes, r.answers Url.normalize "GET" "http://a.b/2" := by
    decide +kernel
  refine ⟨hm, ?_⟩
  rw [Ne, (dispatch_escape_iff _ .loopback steps "GET" "http://a.b/2" hm).1]
  decide +kernel

end StubProxy
