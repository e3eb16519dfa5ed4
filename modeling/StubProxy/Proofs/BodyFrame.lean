import StubProxy.Proofs.FlushLeft

/-!
# A body is only a body

Nothing in a body says anything about the request, the headers or the status, however much it looks
like a rule itself.

* `Script.IsHead`: a rule up to its body, the colon in front of it included.
* `Script.outline_head`: whatever follows a head, the outline is the same but for the body.
* `AlikeButBody`: outcomes of reading that tell no bodies apart.
* `Rule.parse_head`: two rules with one head are read alike. Bytes are read as they are; a text
  loses a margin first, on which the lines of its body have a say, so it is compared flush left.
-/

namespace StubProxy

open Text

/-- Both rules are read, as directives that differ in their bodies only, or both are refused for the
same reason. Of a status that is no number the two errors may quote different indentation. -/
inductive AlikeButBody :
    Except RuleError (Option Directive) → Except RuleError (Option Directive) → Prop
  | read (d : Directive) (b : Body) : AlikeButBody (.ok (some d)) (.ok (some (d.withBody b)))
  | malformedRequestLine (words : List String) : AlikeButBody
      (.error (.malformedRequestLine words)) (.error (.malformedRequestLine words))
  | malformedStatus (text text' : String) (fault : NumeralFault) : AlikeButBody
      (.error (.malformedStatus text fault)) (.error (.malformedStatus text' fault))
  | invalidStatus (n : Nat) :
      AlikeButBody (.error (.invalidStatus n)) (.error (.invalidStatus n))

namespace Script

variable {α : Type} {S : Script α} {p : List α}

/-- A rule up to its body: it ends with the first colon behind its first arrow. -/
def IsHead (S : Script α) (p : List α) : Prop :=
  ∃ request status, CutAt (S.write arrow) p request (status ++ [S.colon]) ∧ S.colon ∉ status

theorem head_append {request status : List α}
    (h : CutAt (S.write arrow) p request (status ++ [S.colon])) (t : List α) :
    p ++ t = request ++ S.write arrow ++ status ++ S.colon :: t := by
  simp [h.eq]

theorem IsHead.ne_nil (h : S.IsHead p) : p ≠ [] := by
  obtain ⟨request, status, hcut, -⟩ := h
  simp [hcut.eq]

variable [DecidableEq α]

/-- **Outlines of one head** differ in the body only. -/
theorem outline_head (ha : ∃ x m, S.write arrow = x :: m ∧ S.isBlank x = false)
    (hc : S.isBlank S.colon = false) (h : S.IsHead p) :
    ∃ o : Outline α, ∀ b, ∃ body, S.outline (p ++ b) = some { o with body := body } := by
  obtain ⟨x, mark, ha, hx⟩ := ha
  obtain ⟨request, status, hcut, hstatus⟩ := h
  refine ⟨⟨S.firstWords (request.dropWhile S.isBlank), S.declared (request.dropWhile S.isBlank),
    status, []⟩, ?_⟩
  intro b
  -- trimming stops at the colon, and what it leaves behind the colon is all that is new
  obtain ⟨t, ht⟩ := trim_stop hc (request ++ S.write arrow ++ status) b
  rw [← head_append hcut, ← head_append hcut] at ht
  have hcut' := hcut.append t
  rw [ha] at hcut'
  have hsplit : S.split arrow (S.trim (p ++ b)) =
      some (request.dropWhile S.isBlank, status ++ [S.colon] ++ t) := by
    rw [trim, ht, split, ha, splitFirst_eq_some_iff]
    exact hcut'.dropWhile hx
  refine ⟨t, ?_⟩
  rw [outline, hsplit, Option.map_some, splitAtColon, List.append_assoc, List.singleton_append,
    splitAtSymbol_append hstatus]

end Script

/-- Equal words, equal headers and statuses that write the same number make outcomes alike. -/
theorem judge_alike {α : Type} {S : Script α} {o o' : Outline α} (hw : o.words = o'.words)
    (hh : o.headers = o'.headers)
    (hs : readWord16 (trim isBlank (S.read o.status)) =
      readWord16 (trim isBlank (S.read o'.status))) :
    AlikeButBody ((S.judge o).map some) ((S.judge o').map some) := by
  by_cases htwo : ∃ method url, o.words = [method, url]
  · obtain ⟨method, url, h⟩ := htwo
    have h' : o'.words = [method, url] := hw ▸ h
    simp only [Script.judge, h, h', readStatus, ← hs, ← hh]
    cases readWord16 (trim isBlank (S.read o.status)) with
    | error fault => exact .malformedStatus _ _ fault
    | ok n =>
      cases hn : isFinalStatus n with
      | false =>
        simp only [Except.map, hn, Bool.false_eq_true, if_false]
        exact .invalidStatus n
      | true =>
        simp only [Except.map, hn, if_true]
        have h := AlikeButBody.read (o.headers.foldl .declare (.new method url n (S.body o.body)))
          (S.body o'.body)
        rw [Directive.withBody_foldl_declare] at h
        exact h
  · have hne : ∀ method url, o.words ≠ [method, url] := fun method url h => htwo ⟨method, url, h⟩
    rw [Script.judge_of_words hne, Script.judge_of_words (hw ▸ hne), ← hw]
    exact .malformedRequestLine o.words

/-! ## Texts -/

section Text

variable {p : List Char}

theorem isHead_flush (h : textScript.IsHead p) : textScript.IsHead (flush true p) := by
  obtain ⟨request, status, hcut, hstatus⟩ := h
  refine ⟨flush true request, flush false status, ?_, mt mem_of_mem_flush hstatus⟩
  have hs : splitFirst (textScript.write arrow) (flush true p) =
      (splitFirst (textScript.write arrow) p).map fun q => (flush true q.1, flush false q.2) :=
    splitFirst_flush (List.cons_ne_nil _ _) not_blank_of_mem_arrow true p
  rw [splitFirst_eq_some_iff.2 hcut, Option.map_some, flush_append (by decide)] at hs
  exact splitFirst_eq_some_iff.1 hs

/-- A head ends with a visible character, so that what follows it is flush left on its own. -/
theorem flush_head_append (h : textScript.IsHead p) (b : List Char) :
    flush true (p ++ b) = flush true p ++ flush false b := by
  obtain ⟨request, status, hcut, -⟩ := h
  have hc : isBlank textScript.colon = false := by decide
  have hp := Script.head_append hcut []
  rw [List.append_nil] at hp
  rw [Script.head_append hcut b, hp, flush_append hc, flush_append hc, flush_nil]
  simp

/-- Lines flush left, a text has the outline that it has without its margin, flush left itself. -/
theorem outline_flush (s : List Char) : textScript.outline (flush true s) =
    (textScript.outline (dedent s)).map (Outline.map (flush false)) := by
  apply Script.carries_flush.outline_eq
  rw [← flush_dedent]
  exact trim_flush true (dedent s)

/-- What the outline of a text owes to its head. -/
theorem outline_dedent_head (h : textScript.IsHead p) :
    ∃ o : Outline Char, ∀ b, ∃ o', textScript.outline (dedent (p ++ b)) = some o' ∧
      o'.words = o.words ∧ o'.headers = o.headers ∧ flush false o'.status = o.status := by
  obtain ⟨o, ho⟩ := Script.outline_head ⟨'-', ['>'], rfl, by decide⟩ (by decide) (isHead_flush h)
  refine ⟨o, ?_⟩
  intro b
  obtain ⟨body, hb⟩ := ho (flush false b)
  rw [← flush_head_append h, outline_flush] at hb
  obtain ⟨o', ho', hmap⟩ := Option.map_eq_some_iff.1 hb
  obtain ⟨hw, hh, hs, -⟩ := Outline.mk.inj hmap
  exact ⟨o', ho', hw, hh, hs⟩

end Text

/-- **A body cannot influence the rest of its rule.** In either kind of rule, whatever stands behind
the head, all else is read as it is in front of any other body. -/
theorem Rule.parse_head :
    (∀ p, textScript.IsHead p → ∀ b b' : List Char, AlikeButBody
      (Rule.text (String.ofList (p ++ b))).parse (Rule.text (String.ofList (p ++ b'))).parse) ∧
    (∀ p, byteScript.IsHead p → ∀ b b' : List UInt8,
      AlikeButBody (Rule.binary (p ++ b)).parse (Rule.binary (p ++ b')).parse) := by
  constructor
  · intro p hp b b'
    have hn : ∀ t, p ++ t ≠ [] := fun t => List.append_ne_nil_of_left_ne_nil hp.ne_nil t
    obtain ⟨o, ho⟩ := outline_dedent_head hp
    obtain ⟨o₁, h₁, hw₁, hh₁, hs₁⟩ := ho b
    obtain ⟨o₂, h₂, hw₂, hh₂, hs₂⟩ := ho b'
    simp only [parse, parseText, String.toList_ofList, if_neg (hn _),
      Script.parse_eq_outline Script.textScript_readsLines, h₁, h₂]
    apply judge_alike (hw₁.trans hw₂.symm) (hh₁.trans hh₂.symm)
    have hstatus : ∀ o' : Outline Char, flush false o'.status = o.status →
        readWord16 (trim isBlank o'.status) = readWord16 (trim isBlank o.status) := by
      intro o' hs
      rw [← hs, trim_flush, readWord16_flush]
    exact (hstatus o₁ hs₁).trans (hstatus o₂ hs₂).symm
  · intro p hp b b'
    have hn : ∀ t, p ++ t ≠ [] := fun t => List.append_ne_nil_of_left_ne_nil hp.ne_nil t
    obtain ⟨o, ho⟩ := Script.outline_head ⟨45, [62], by decide, by decide⟩ (by decide) hp
    obtain ⟨body, h⟩ := ho b
    obtain ⟨body', h'⟩ := ho b'
    simp only [parse, parseBytes, if_neg (hn _),
      Script.parse_eq_outline Script.byteScript_readsLines, h, h']
    exact judge_alike rfl rfl rfl

/-- A body at the left margin, which looks like another rule, in the place of an indented one. -/
theorem Rule.parse_head_rule_in_body :
    let p := "  GET http://a.b\n    X-A: 1\n  -> 200 :".toList
    let b := "x\n  y".toList
    let b' := "\nPUT http://c.d\nContent-Type: e/f\n-> 404 :\n\t".toList
    textScript.IsHead p ∧ byteScript.IsHead (Utf8.encode p) ∧
      (Rule.text (String.ofList (p ++ b))).parse.isOk ∧
      AlikeButBody (Rule.text (String.ofList (p ++ b))).parse
        (Rule.text (String.ofList (p ++ b'))).parse ∧
      AlikeButBody (Rule.binary (Utf8.encode p ++ Utf8.encode b)).parse
        (Rule.binary (Utf8.encode p ++ Utf8.encode b')).parse := by
  intro p b b'
  have ht : textScript.IsHead p := ⟨"  GET http://a.b\n    X-A: 1\n  ".toList, " 200 ".toList,
    splitFirst_eq_some_iff.1 (by decide +kernel), by decide⟩
  have hb : byteScript.IsHead (Utf8.encode p) :=
    ⟨Utf8.encode "  GET http://a.b\n    X-A: 1\n  ".toList, Utf8.encode " 200 ".toList,
      splitFirst_eq_some_iff.1 (by decide +kernel), by decide +kernel⟩
  exact ⟨ht, hb, by decide +kernel, parse_head.1 p ht b b', parse_head.2 _ hb _ _⟩

end StubProxy
