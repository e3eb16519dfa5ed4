import StubProxy.Proofs.Parts
import StubProxy.Proofs.TextBytes
import StubProxy.Rule.Outline

/-!
# Rules are read by their outlines

* `Script.readHeader_eq_some_iff`: the header of a line is what the line declares.
* `Script.parse_eq_outline`: reading a rule is outlining and judging it, however the script reads
  line breaks.
* `Script.parse_eq_ok_iff`: the outlines of the rules that are read.
* `Script.outline_request`, `Script.outline_body`: where the parts of an outline come from.
* `Script.Carries.outline_eq`: a map of symbols that keeps arrows, colons, words and header lines
  keeps outlines.
-/

namespace StubProxy

open Text

namespace Directive

/-- The directive with another body. -/
def withBody (d : Directive) (b : Body) : Directive := { d with body := b }

theorem body_foldl_declare (d : Directive) (hs : Headers) : (hs.foldl declare d).body = d.body := by
  have h := congrArg Directive.body (d.bare_foldl_declare hs)
  exact h

/-- Headers are declared whatever the body is. -/
theorem withBody_foldl_declare (d : Directive) (hs : Headers) (b : Body) :
    (hs.foldl declare d).withBody b = hs.foldl declare (d.withBody b) := by
  induction hs generalizing d with
  | nil => rfl
  | cons h hs ih =>
    have hd : (d.declare h).withBody b = (d.withBody b).declare h := by
      unfold declare
      split <;> rfl
    rw [List.foldl_cons, List.foldl_cons, ih, hd]

end Directive

namespace Script

variable {α β : Type} [DecidableEq α] [DecidableEq β] {S : Script α} {T : Script β} {cr : α}

/-! ## Header lines -/

theorem readHeader_colon (hb : S.isBlank S.colon = false) {name : List α} (hn : S.colon ∉ name)
    (value : List α) : S.readHeader (name ++ S.colon :: value) =
      if S.trim value = [] then none
      else some (S.toString (S.trim name), S.toString (S.trim value)) := by
  have hl : S.trim (name ++ S.colon :: value) =
      name.dropWhile S.isBlank ++ S.colon :: trimEnd S.isBlank value := trim_stop_end hb name value
  have hc : S.colon ∉ name.dropWhile S.isBlank := fun h => hn (List.dropWhile_subset _ h)
  have htn : S.trim (name.dropWhile S.isBlank) = S.trim name := trim_dropWhile _ _
  have htv : S.trim (trimEnd S.isBlank value) = S.trim value := trim_trimEnd _ _
  simp only [readHeader, hl, splitAtColon, splitAtSymbol_append hc, htn, htv]

theorem readHeader_no_colon {l : List α} (hl : S.colon ∉ l) : S.readHeader l = none := by
  have hc : S.colon ∉ S.trim l := fun h => hl ((trim_isInfix S.isBlank l).subset h)
  have hs : S.splitAtColon (S.trim l) = (S.trim l, []) := splitAtSymbol_eq_iff.2 (.missing hc)
  simp only [readHeader, hs]
  exact if_pos rfl

/-- A line is read as what it declares. -/
theorem readHeader_eq_some_iff (hb : S.isBlank S.colon = false) (l : List α) (h : String × String) :
    S.readHeader l = some h ↔ S.Declares l h := by
  constructor
  · intro hr
    rcases splitAtSymbol_cases S.colon l with ⟨name, value, hn, rfl, -⟩ | ⟨hn, -⟩
    · rw [readHeader_colon hb hn] at hr
      split at hr
      · cases hr
      · rename_i hv
        exact ⟨name, value, hn, rfl, hv, (Option.some.inj hr).symm⟩
    · rw [readHeader_no_colon hn] at hr
      cases hr
  · rintro ⟨name, value, hn, rfl, hv, rfl⟩
    rw [readHeader_colon hb hn, if_neg hv]

/-! ## Outlines -/

/-- The lines behind the first one declare what the pieces between line feeds do. -/
structure ReadsLines (S : Script α) (cr : α) : Prop extends S.FirstLine cr where
  declared : ∀ {s p q : List α} {ps : List (List α)}, pieces S.lineFeed s = p :: ps ++ [q] →
    (S.lines s).tail.filterMap S.readHeader = (ps ++ [q]).filterMap S.readHeader

theorem textScript_readsLines : textScript.ReadsLines '\r' where
  toFirstLine := textScript_firstLine
  declared h := by
    obtain ⟨ls, hl, hls⟩ := filterMap_lines (f := textScript.readHeader)
      (readHeader_dropLastIf (c := '\r') (by decide)) (by decide) h
    have hlines : textScript.lines _ = _ := hl
    rw [hlines, List.tail_cons, hls]

theorem byteScript_readsLines : byteScript.ReadsLines 13 where
  toFirstLine := byteScript_firstLine
  declared h := by
    obtain ⟨ls, hl, hls⟩ := filterMap_allLines (f := byteScript.readHeader)
      (readHeader_dropLastIf (c := 13) (by decide)) (by decide) h
    have hlines : byteScript.lines _ = _ := hl
    rw [hlines, List.tail_cons, hls]

/-- Request line and header lines are the pieces between line feeds. -/
theorem requestLines_eq_pieces (hS : S.ReadsLines cr) (request : List α) :
    (S.words (S.requestLines request).1).map S.toString = S.firstWords request ∧
      (S.requestLines request).2.filterMap S.readHeader = S.declared request := by
  unfold firstWords declared
  by_cases hn : S.lineFeed ∈ request
  · obtain ⟨p, ps, q, hp⟩ := pieces_of_mem hn
    obtain ⟨ls, hl⟩ := hS.lines hp
    have hd := hS.declared hp
    rw [hl, List.tail_cons] at hd
    rw [requestLines_of_lines hn hl, words_dropLastIf hS.blank hS.ne_space, hd, hp]
    exact ⟨rfl, rfl⟩
  · rw [requestLines, if_neg hn, pieces_of_not_mem hn]
    exact ⟨rfl, rfl⟩

/-- **Reading is outlining and judging.** -/
theorem parse_eq_outline (hS : S.ReadsLines cr) (rule : List α) :
    S.parse rule = match S.outline rule with
      | none => .error (.missingArrow (S.toString (S.trim rule)))
      | some o => S.judge o := by
  unfold outline
  cases hs : S.split arrow (S.trim rule) with
  | none => exact parse_of_no_arrow hs
  | some p =>
    obtain ⟨request, response⟩ := p
    obtain ⟨hw, hh⟩ := requestLines_eq_pieces hS request
    obtain ⟨line, headerLines, hl⟩ : ∃ line headerLines, S.requestLines request =
        (line, headerLines) := ⟨_, _, rfl⟩
    rw [hl] at hw hh
    simp only [Option.map_some, ← hw, ← hh]
    by_cases htwo : ∃ method url, S.words line = [method, url]
    · obtain ⟨method, url, htwo⟩ := htwo
      rw [parse_of_two_words hs hl htwo, htwo]
      rfl
    · have hne : ∀ method url, S.words line ≠ [method, url] :=
        fun method url h => htwo ⟨method, url, h⟩
      rw [parse_of_words hs hl hne, judge_of_words]
      intro method url h
      have hlen : (S.words line).length = 2 := by
        simpa using congrArg List.length h
      obtain ⟨m, u, hmu⟩ := List.length_eq_two.1 hlen
      exact hne m u hmu

/-- The rules that are read: two words and a final status. -/
theorem parse_eq_ok_iff (hS : S.ReadsLines cr) {rule : List α} {d : Directive} :
    S.parse rule = .ok d ↔ ∃ o method url n, S.outline rule = some o ∧ o.words = [method, url] ∧
      readStatus (S.read o.status) = .ok n ∧
      d = o.headers.foldl Directive.declare (.new method url n (S.body o.body)) := by
  rw [parse_eq_outline hS]
  constructor
  · intro h
    cases ho : S.outline rule with
    | none =>
      rw [ho] at h
      cases h
    | some o =>
      simp only [ho, judge] at h
      split at h
      · rename_i method url hw
        cases hr : readStatus (S.read o.status) with
        | error e =>
          rw [hr] at h
          cases h
        | ok n =>
          rw [hr] at h
          exact ⟨o, method, url, n, rfl, hw, hr, (Except.ok.inj h).symm⟩
      · cases h
  · rintro ⟨o, method, url, n, ho, hw, hr, rfl⟩
    rw [ho]
    simp only [judge, hw, hr]
    rfl

/-- Words and headers of an outline come from the text in front of the first arrow. -/
theorem outline_request {rule : List α} {o : Outline α} (hn : S.write arrow ≠ [])
    (h : S.outline rule = some o) :
    ∃ request, ¬ S.write arrow <:+: request ∧ o.words = S.firstWords request ∧
      o.headers = S.declared request := by
  obtain ⟨p, hp, rfl⟩ := Option.map_eq_some_iff.1 h
  exact ⟨p.1, (splitFirst_eq_some_iff.1 hp).not_isInfix hn, rfl, rfl⟩

/-- The body of an outline ends the rule, behind a colon, and does not end in a blank; or there is
none. -/
theorem outline_body {rule : List α} {o : Outline α} (h : S.outline rule = some o) :
    (o.body = [] ∨ ∃ a, S.trim rule = a ++ S.colon :: o.body) ∧
      ∀ x, o.body.getLast? = some x → S.isBlank x = false := by
  obtain ⟨p, hp, rfl⟩ := Option.map_eq_some_iff.1 h
  have hrule : S.trim rule = p.1 ++ S.write arrow ++ p.2 := (splitFirst_eq_some_iff.1 hp).eq
  have ht := tight_trim S.isBlank rule
  unfold splitAtColon
  rcases splitAtSymbol_cases S.colon p.2 with ⟨a, b, -, hab, hc⟩ | ⟨-, hc⟩
  · rw [hab, ← List.append_assoc] at hrule
    refine ⟨.inr ⟨p.1 ++ S.write arrow ++ a, by rw [hc, hrule]⟩, ?_⟩
    intro x hx
    apply ht.last x
    have hlast : (S.trim rule).getLast? = some x := by
      rw [hc] at hx
      rw [hrule, List.getLast?_append, List.getLast?_cons, hx]
      rfl
    exact hlast
  · exact ⟨.inl (by rw [hc]), by simp [hc]⟩

/-- A map of symbols that keeps what the grammar looks for. -/
structure Carries (S : Script α) (T : Script β) (φ : List α → List β) : Prop where
  split : ∀ s, T.split arrow (φ s) = (S.split arrow s).map fun p => (φ p.1, φ p.2)
  splitAtColon : ∀ s, T.splitAtColon (φ s) = (φ (S.splitAtColon s).1, φ (S.splitAtColon s).2)
  firstWords : ∀ s, T.firstWords (φ s) = S.firstWords s
  declared : ∀ s, T.declared (φ s) = S.declared s

/-- It keeps the outline of a rule once the blank ends are off. -/
theorem Carries.outline_eq {φ : List α → List β} (h : Carries S T φ) {s : List α} {t : List β}
    (ht : T.trim t = φ (S.trim s)) : T.outline t = (S.outline s).map (Outline.map φ) := by
  unfold outline
  rw [ht, h.split, Option.map_map, Option.map_map]
  congr 1
  funext p
  simp only [Function.comp_apply, Outline.map, h.firstWords, h.declared, h.splitAtColon]

end Script

end StubProxy
