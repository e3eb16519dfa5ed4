import Mathlib.Data.List.Forall2
import StubProxy.Proofs.AcceptedAuthority
import StubProxy.Proofs.Effects

/-!
# Three forms of a request

A request can be made in place, through the proxy with the full URL as its target, or to the proxy
itself with a path as its target and the host in a header.

* `Visit`: a request with the host and the path it is for. `Visit.Form`: the steps that make it.
* `Visit.Form.step_eq`: all of them do what a request in place does, and differ in how the answer
  is given.
* `Session.forms_interchangeable`: in a run of any length, each may stand for another.
-/

namespace StubProxy

open Text

/-- A request, but not for a tunnel, with the host and the path with its query that it is for. -/
structure Visit where
  method : String
  host : List Char
  path : List Char
  plain : method ≠ "CONNECT"
  accepted : Uri.IsAuthority host
  rooted : path.head? = some '/'
  whole : '#' ∉ path
  readable : ∃ target, Uri.read path = .ok target

namespace Visit

variable {v : Visit} {x : Session.Step}

/-- The full URL. -/
def url (v : Visit) : String := "http://" ++ String.ofList (v.host ++ v.path)

/-- The three forms: in place; with the full URL as target, whatever the headers say; with the path
as target, and the host in the first `Host` header. -/
inductive Form (v : Visit) : Session.Step → Prop
  | inPlace : Form v (.respond v.method v.url)
  | proxied {r : Request} : r.method = v.method → Uri.read v.url.toList = .ok r.target →
    Form v (.request r)
  | direct {r : Request} : r.method = v.method → Uri.read v.path = .ok r.target →
    r.fields.lookup "host" = some (Utf8.encode v.host) → Form v (.request r)

/-- How the answer to a form is given, from what a request in place finds. -/
def answer (v : Visit) (found : Except Error (Option Directive)) : Session.Step → Session.Answer
  | .request r => .handled (match found with
    | .ok (some d) => .reply d.response
    | .ok none => .forward v.url r.forwarded
    | .error e => .reply (Error.response 501 e))
  | _ => .responded found

/-! ## One request -/

theorem url_toList (v : Visit) : v.url.toList = "http://".toList ++ (v.host ++ v.path) := by
  simp only [url, String.toList_append, String.toList_ofList]

/-- **The full URL is an accepted target**, unless it is too long. -/
theorem read_url (v : Visit) :
    Uri.read v.url.toList =
      if Uri.maxLength < (Utf8.encode v.url.toList).length then .error .tooLong
      else .ok (.absolute "http".toList v.host v.path) := by
  obtain ⟨target, htarget⟩ := v.readable
  have hpath := (Uri.read_rooted v.rooted v.whole htarget).2
  rw [url_toList]
  exact Uri.read_http v.accepted v.rooted hpath

/-- Both forms of a request to the proxy have the full URL, to the letter. -/
theorem Form.request_url {r : Request} (h : v.Form (.request r)) :
    r.method = v.method ∧ r.url = v.url := by
  cases h with
  | proxied hm ht =>
    refine ⟨hm, ?_⟩
    rw [v.read_url] at ht
    split at ht
    · cases ht
    · -- writing the target gives back what was read, as the path has its slash already
      have hpath : Uri.rooted v.path = v.path := by
        obtain ⟨q, hq⟩ := List.head?_eq_some_iff.1 v.rooted
        rw [hq]
        rfl
      have hurl : r.url = String.ofList r.target.toText := by
        rw [Request.url, ← Except.ok.inj ht]
      rw [hurl, ← Except.ok.inj ht, ← String.toList_inj, url_toList, String.toList_ofList,
        Uri.toText, hpath]
      simp
  | direct hm ht hh =>
    refine ⟨hm, ?_⟩
    have htarget := (Uri.read_rooted v.rooted v.whole ht).1
    have hhost : r.host = String.ofList v.host := by
      rw [Request.host, hh, Option.bind_some, Field.text?_authority v.accepted]
      rfl
    simp only [Request.url, htarget, hhost, url, String.append_assoc, String.ofList_append]

/-- **Every form does what a request in place does.** -/
theorem Form.step_eq (h : v.Form x) (s : Session) :
    s.step x = (v.answer (s.respond v.method v.url).1 x, (s.respond v.method v.url).2) := by
  cases x with
  | respond method url => cases h; rfl
  | request r =>
    obtain ⟨hm, hurl⟩ := h.request_url
    have hc : r.method ≠ "CONNECT" := by
      rw [hm]
      exact v.plain
    -- with the same method and URL both are decided alike, and differ in the answer only
    have hstep : s.step (.request r) = (.handled (s.handle r).1, (s.handle r).2) := rfl
    rw [hstep, Session.handle, if_neg hc, hm, hurl, Session.respond]
    rcases s.dispatch v.method v.url with ⟨decision, s'⟩
    cases decision <;> rfl
  | _ => cases h

end Visit

namespace Session

variable {x y : Step} {xs ys : List Step}

/-- The steps are the same, or two forms of one request. -/
def Step.Interchangeable (x y : Step) : Prop := x = y ∨ ∃ v : Visit, v.Form x ∧ v.Form y

/-- The answers are the same, or they answer two forms of a request and tell what it found. -/
def Answer.Corresponds (a b : Answer) : Prop :=
  a = b ∨ ∃ (v : Visit) (x y : Step) (found : Except Error (Option Directive)),
    v.Form x ∧ v.Form y ∧ a = v.answer found x ∧ b = v.answer found y

/-! ## A whole run -/

/-- One step in another form. -/
theorem Step.Interchangeable.step (h : x.Interchangeable y) (s : Session) :
    (s.step x).2 = (s.step y).2 ∧ (s.step x).1.Corresponds (s.step y).1 := by
  rcases h with rfl | ⟨v, hx, hy⟩
  · exact ⟨rfl, .inl rfl⟩
  · rw [hx.step_eq s, hy.step_eq s]
    exact ⟨rfl, .inr ⟨v, x, y, _, hx, hy, rfl, rfl⟩⟩

/-- **A run** with requests in other forms. -/
theorem run_interchangeable (s : Session) (h : List.Forall₂ Step.Interchangeable xs ys) :
    (s.run xs).2 = (s.run ys).2 ∧ List.Forall₂ Answer.Corresponds (s.run xs).1 (s.run ys).1 := by
  induction h generalizing s with
  | nil => exact ⟨rfl, .nil⟩
  | @cons x y xs ys hxy _ ih =>
    obtain ⟨hsame, hanswer⟩ := hxy.step s
    obtain ⟨hrun, hanswers⟩ := ih (s.step y).2
    constructor
    · rw [run_cons, run_cons, hsame]
      exact hrun
    · have hcons : ∀ z zs, (s.run (z :: zs)).1 = (s.step z).1 :: ((s.step z).2.run zs).1 :=
        fun _ _ => rfl
      rw [hcons, hcons, hsame]
      exact .cons hanswer hanswers

/-- **The forms of a request are interchangeable.** The full URL of a request can be the target of
one, unless it is too long. In every session each form of a request leads to the same routes and the
same history, and is answered with what a request in place finds: a directive, the way to the
network, or the refusal. In a run of any length, each request may be made in another form. -/
theorem forms_interchangeable (s : Session) :
    (∀ v : Visit,
      Uri.read v.url.toList = (if Uri.maxLength < (Utf8.encode v.url.toList).length
        then .error .tooLong else .ok (.absolute "http".toList v.host v.path)) ∧
      ∀ x, v.Form x →
        s.step x = (v.answer (s.respond v.method v.url).1 x, (s.respond v.method v.url).2)) ∧
    ∀ xs ys, List.Forall₂ Step.Interchangeable xs ys →
      (s.run xs).2 = (s.run ys).2 ∧
        List.Forall₂ Answer.Corresponds (s.run xs).1 (s.run ys).1 :=
  ⟨fun v => ⟨v.read_url, fun _ hx => hx.step_eq s⟩, fun _ _ h => s.run_interchangeable h⟩

/-- A host with user information, a capital letter and a port that goes without saying. -/
def capitalVisit : Visit where
  method := "GET"
  host := "me@A.b:80".toList
  path := "/1?q".toList
  plain := by decide
  accepted := ⟨by decide, by decide⟩
  rooted := rfl
  whole := by decide
  readable := ⟨.path "/1?q".toList, by decide⟩

/-- The request with the full URL as target, and headers that name another host. -/
def capitalProxied : Step :=
  .request ⟨"GET", .absolute "http".toList "me@A.b:80".toList "/1?q".toList,
    [("host", [99, 46, 100])], []⟩

/-- The request with the path as target, and a second host behind the first one. -/
def capitalDirect : Step :=
  .request ⟨"GET", .path "/1?q".toList,
    [("host", Utf8.encode "me@A.b:80".toList), ("host", [99, 46, 100])], [104, 105]⟩

/-- Two requests in place, and both in other forms. -/
theorem forms_interchangeable_capital :
    let s := (start .default .loopback).register
      (.new "GET" "http://me@a.b/1?q" 201 (.text "one"))
    let inPlace : Step := .respond "GET" "http://me@A.b:80/1?q"
    capitalVisit.Form capitalProxied ∧ capitalVisit.Form capitalDirect ∧
      (s.run [inPlace, inPlace]).2 = (s.run [capitalDirect, capitalProxied]).2 ∧
      (s.run [inPlace, inPlace]).2.calls.map (·.outcome) = [.stubbed 201, .stubbed 201] := by
  intro s inPlace
  have hp : capitalVisit.Form capitalProxied := .proxied rfl (by decide)
  have hd : capitalVisit.Form capitalDirect := .direct rfl (by decide) (by decide)
  have hs : capitalVisit.Form inPlace := .inPlace
  refine ⟨hp, hd, ?_, by decide +kernel⟩
  exact ((s.forms_interchangeable).2 _ _
    (.cons (.inr ⟨_, hs, hd⟩) (.cons (.inr ⟨_, hs, hp⟩) .nil))).1

end Session

end StubProxy
