import StubProxy.Proofs.BodyFrame
import StubProxy.Proofs.LineBreaks
import StubProxy.Rule.File

/-!
# Line endings do not matter

Rules and rule files may end their lines with a line feed or with a carriage return and a line feed.
Whatever the layout of a rule, it is read as the same directive or refused for the same reason; its
body keeps the line endings that it is written with.

* `Rule.crlf`, `Body.crlf`: rules and bodies with carriage returns in front of their line feeds.
* `Script.outline_crlf`: such a rule says the same, with such a body.
* `outline_dedent_crlf`: so it does without its margin, but for indentation.
* `ReadAlike`: outcomes of reading that differ at most in what the bodies are.
* `Rule.parse_crlf`: rules of both kinds, and files.
-/

namespace StubProxy

open Text

/-- The body with a carriage return in front of every line feed. -/
def Body.crlf : Body → Body
  | text s => text (String.ofList (Text.crlf '\n' '\r' s.toList))
  | binary b => binary (Text.crlf 10 13 b)

/-- The rule with a carriage return in front of every line feed. -/
def Rule.crlf : Rule → Rule
  | text s => text (String.ofList (Text.crlf '\n' '\r' s.toList))
  | binary b => binary (Text.crlf 10 13 b)

/-! ## Outlines -/

namespace Script

variable {α : Type} [DecidableEq α] {S : Script α} {cr : α}

/-- Line breaks may hold a `cr`: it is blank like the line feed, and the marks of the grammar are
visible. -/
structure BreaksWith (S : Script α) (cr : α) : Prop extends S.FirstLine cr where
  ne_lineFeed : cr ≠ S.lineFeed
  blank_lineFeed : S.isBlank S.lineFeed
  colon_visible : S.isBlank S.colon = false
  arrow_ne_nil : S.write arrow ≠ []
  arrow_visible : ∀ x ∈ S.write arrow, S.isBlank x = false
  read_crlf : ∀ s, S.read (crlf S.lineFeed cr s) = crlf '\n' '\r' (S.read s)

theorem textScript_breaksWith : textScript.BreaksWith '\r' where
  toFirstLine := textScript_firstLine
  ne_lineFeed := by decide
  blank_lineFeed := by decide
  colon_visible := by decide
  arrow_ne_nil := List.cons_ne_nil _ _
  arrow_visible := not_blank_of_mem_arrow
  read_crlf _ := rfl

theorem byteScript_breaksWith : byteScript.BreaksWith 13 where
  toFirstLine := byteScript_firstLine
  ne_lineFeed := by decide
  blank_lineFeed := by decide
  colon_visible := by decide
  arrow_ne_nil := by decide
  arrow_visible := List.forall_mem_cons.2 ⟨by decide, List.forall_mem_singleton.2 (by decide)⟩
  read_crlf := Utf8.decodeLossy_crlf

/-- What reads a line without a final `cr` reads a line with one more in the same way. -/
theorem of_dropLastIf {β : Type} {f : List α → β} (hf : ∀ l, f (dropLastIf cr l) = f l) (l : List α) :
    f (l ++ [cr]) = f l := by
  have hl : dropLastIf cr (l ++ [cr]) = l := by simp [dropLastIf]
  rw [← hf (l ++ [cr]), hl]

/-- **Line breaks say nothing.** -/
theorem BreaksWith.carries (hS : S.BreaksWith cr) : S.Carries S (crlf S.lineFeed cr) where
  split s := by
    have hvisible : ∀ x, S.isBlank x → x ∉ S.write arrow := by
      intro x hx h
      rw [hS.arrow_visible x h] at hx
      cases hx
    exact splitFirst_crlf hS.arrow_ne_nil (hvisible _ hS.blank_lineFeed) (hvisible _ hS.blank) s
  splitAtColon s := by
    have hvisible : ∀ x, S.isBlank x → x ∉ [S.colon] := by
      intro x hx h
      rw [List.mem_singleton.1 h, hS.colon_visible] at hx
      cases hx
    have h := splitFirst_crlf (List.cons_ne_nil _ _) (hvisible _ hS.blank_lineFeed)
      (hvisible _ hS.blank) s
    unfold Script.splitAtColon splitAtSymbol
    rw [h]
    cases splitFirst [S.colon] s <;> rfl
  firstWords s := by
    -- every line but the last has one more `cr`, which the reader of its words drops
    have hwords := of_dropLastIf fun l => words_dropLastIf hS.blank hS.ne_space l
    obtain ⟨ps, q, h⟩ := exists_last_piece S.lineFeed s
    unfold Script.firstWords
    rw [pieces_crlf hS.ne_lineFeed h, h]
    cases ps with
    | nil => rfl
    | cons p ps => simp [hwords]
  declared s := by
    have hheader := of_dropLastIf fun l => readHeader_dropLastIf (S := S) hS.blank l
    obtain ⟨ps, q, h⟩ := exists_last_piece S.lineFeed s
    unfold Script.declared
    rw [pieces_crlf hS.ne_lineFeed h, h]
    cases ps with
    | nil => rfl
    | cons p ps =>
      simp [List.filterMap_append, List.filterMap_map, hheader]

/-- **A rule with other line breaks** says the same, and its body has them too. -/
theorem outline_crlf (hS : S.BreaksWith cr) (rule : List α) :
    S.outline (crlf S.lineFeed cr rule) =
      (S.outline rule).map (Outline.map (crlf S.lineFeed cr)) :=
  hS.carries.outline_eq (trim_crlf hS.blank_lineFeed hS.blank rule)

/-- Its status is the same number, or none for the same reason. -/
theorem BreaksWith.readWord16 (hS : S.BreaksWith cr) (status : List α) :
    readWord16 (Text.trim Text.isBlank (S.read (crlf S.lineFeed cr status))) =
      readWord16 (Text.trim Text.isBlank (S.read status)) := by
  rw [hS.read_crlf, trim_crlf (by decide) (by decide), readWord16_crlf]

end Script

/-- Without its margin, a text with other line breaks says what it said, but for indentation. -/
theorem outline_dedent_crlf (s : List Char) :
    (textScript.outline (dedent (crlf '\n' '\r' s))).map (Outline.map (flush false)) =
      ((textScript.outline (dedent s)).map (Outline.map (flush false))).map
        (Outline.map (crlf '\n' '\r')) := by
  rw [← outline_flush, ← outline_flush, flush_crlf]
  exact Script.outline_crlf Script.textScript_breaksWith (flush true s)

/-! ## Outcomes -/

/-- Both rules are empty, or no arrow is in either of them, or they are read alike but for their
bodies, and these are related by `R`. -/
inductive ReadAlike (R : Body → Body → Prop) (x y : Except RuleError (Option Directive)) : Prop
  | empty : x = .ok none → y = .ok none → ReadAlike R x y
  | missingArrow (rule rule' : String) : x = .error (.missingArrow rule) →
      y = .error (.missingArrow rule') → ReadAlike R x y
  | outlined : AlikeButBody x y →
      (∀ d d', x = .ok (some d) → y = .ok (some d') → R d.body d'.body) → ReadAlike R x y

namespace Script

variable {α : Type} {S : Script α}

theorem body_of_judge {o : Outline α} {d : Directive} (h : S.judge o = .ok d) :
    d.body = S.body o.body := by
  unfold judge at h
  split at h
  · cases hr : readStatus (S.read o.status) with
    | error e =>
      rw [hr] at h
      cases h
    | ok n =>
      rw [hr] at h
      rw [← Except.ok.inj h, Directive.body_foldl_declare]
      rfl
  · cases h

variable [DecidableEq α] {cr : α} {R : Body → Body → Prop} {s t : List α}

/-- Rules are read alike if their outlines are. -/
theorem readAlike_of_outline (hS : S.ReadsLines cr)
    (hnone : S.outline s = none ↔ S.outline t = none)
    (hsome : ∀ o o', S.outline s = some o → S.outline t = some o' →
      o.words = o'.words ∧ o.headers = o'.headers ∧
      readWord16 (Text.trim Text.isBlank (S.read o.status)) =
        readWord16 (Text.trim Text.isBlank (S.read o'.status)) ∧
      R (S.body o.body) (S.body o'.body)) :
    ReadAlike R ((S.parse s).map some) ((S.parse t).map some) := by
  rw [parse_eq_outline hS, parse_eq_outline hS]
  cases hs : S.outline s with
  | none =>
    rw [hnone.1 hs]
    exact .missingArrow _ _ rfl rfl
  | some o =>
    cases ht : S.outline t with
    | none =>
      rw [hnone.2 ht] at hs
      cases hs
    | some o' =>
      obtain ⟨hw, hh, hstatus, hbody⟩ := hsome o o' hs ht
      refine .outlined (judge_alike hw hh hstatus) ?_
      have hjudge : ∀ {o : Outline α} {d : Directive},
          (S.judge o).map some = .ok (some d) → d.body = S.body o.body := by
        intro o d h
        cases hj : S.judge o with
        | error e =>
          rw [hj] at h
          cases h
        | ok d' =>
          rw [hj] at h
          cases h
          exact body_of_judge hj
      intro d d' hd hd'
      rw [hjudge hd, hjudge hd']
      exact hbody

end Script

namespace Rule

/-! ## Texts, bytes and files -/

theorem parseText_crlf (t : List Char) :
    ReadAlike (fun b b' => dedent t = t → b' = b.crlf) (parseText t)
      (parseText (Text.crlf '\n' '\r' t)) := by
  by_cases ht : t = []
  · subst ht
    exact .empty rfl rfl
  rw [parseText, parseText, if_neg ht, if_neg (mt crlf_eq_nil.1 ht)]
  have houtline := outline_dedent_crlf t
  apply Script.readAlike_of_outline Script.textScript_readsLines
  · have hnone := congrArg (· = none) houtline
    simp only [Option.map_eq_none_iff, eq_iff_iff] at hnone
    exact hnone.symm
  · intro o o' ho ho'
    rw [ho, ho', Option.map_some, Option.map_some, Option.map_some] at houtline
    obtain ⟨hw, hh, hstatus, -⟩ := Outline.mk.inj (Option.some.inj houtline)
    refine ⟨hw.symm, hh.symm, ?_, ?_⟩
    · have hflush : ∀ s, readWord16 (trim isBlank (flush false s)) = readWord16 (trim isBlank s) := by
        intro s
        rw [trim_flush, readWord16_flush]
      have hread := Script.textScript_breaksWith.readWord16 (flush false o.status)
      calc readWord16 (trim isBlank o.status)
        _ = readWord16 (trim isBlank (flush false o.status)) := (hflush _).symm
        _ = readWord16 (trim isBlank (flush false o'.status)) := by
          rw [hstatus]
          exact hread.symm
        _ = readWord16 (trim isBlank o'.status) := hflush _
    · -- without a margin nothing is taken off, and the body is what stands in the rule
      intro hd
      rw [hd] at ho
      have hsame := Script.outline_crlf Script.textScript_breaksWith t
      rw [dedent_crlf hd] at ho'
      rw [ho, Option.map_some] at hsame
      obtain rfl := Option.some.inj (ho'.symm.trans hsame)
      simp [Outline.map, Body.crlf, textScript]

theorem parseBytes_crlf (b : List UInt8) :
    ReadAlike (fun c c' => c' = c.crlf) (parseBytes b) (parseBytes (Text.crlf 10 13 b)) := by
  by_cases hb : b = []
  · subst hb
    exact .empty rfl rfl
  rw [parseBytes, parseBytes, if_neg hb, if_neg (mt crlf_eq_nil.1 hb)]
  have houtline := Script.outline_crlf Script.byteScript_breaksWith b
  apply Script.readAlike_of_outline Script.byteScript_readsLines
  · rw [show Text.crlf 10 13 b = Text.crlf byteScript.lineFeed 13 b from rfl, houtline,
      Option.map_eq_none_iff]
  · intro o o' ho ho'
    rw [ho, Option.map_some] at houtline
    obtain rfl := Option.some.inj (ho'.symm.trans houtline)
    exact ⟨rfl, rfl, (Script.byteScript_breaksWith.readWord16 o.status).symm, rfl⟩

/-- **Line endings do not matter.** With a carriage return in front of every line feed, a rule of
either kind is read as the same directive but for its body, or is empty or refused for the same
reason as before. The body of a byte rule has the new line endings, and so has that of a text rule
without a margin. A file without carriage returns holds the same rules as with them. -/
theorem parse_crlf :
    (∀ t : String, ReadAlike (fun b b' => dedent t.toList = t.toList → b' = b.crlf)
      (text t).parse (text t).crlf.parse) ∧
    (∀ b : List UInt8, ReadAlike (fun c c' => c' = c.crlf) (binary b).parse (binary b).crlf.parse) ∧
    ∀ contents : List Char, '\r' ∉ contents →
      ofFile (Text.crlf '\n' '\r' contents) = ofFile contents := by
  refine ⟨?_, parseBytes_crlf, ?_⟩
  · intro t
    rw [crlf, parse, parse, String.toList_ofList]
    exact parseText_crlf t.toList
  · intro contents hcr
    unfold ofFile
    rw [lines_crlf (by decide) hcr]

/-- A text rule without margin with an empty line in it and a body of two lines, and a file with
separators in front, behind one another and indented. -/
theorem parse_crlf_two_lines :
    let t := "GET http://a.b\nX-A: 1\n\n-> 200 :x\n  y\n"
    let d : Directive := ⟨"GET", "http://a.b", 200, .text "x\n  y", some [("X-A", "1")], none⟩
    let contents := "---\n GET http://a.b -> 204\n \n---\n\t---\nPUT http://c.d -> 204 :\n".toList
    dedent t.toList = t.toList ∧ (text t).parse = .ok (some d) ∧
      (text t).crlf.parse = .ok (some (d.withBody (.text "x\r\n  y"))) ∧ '\r' ∉ contents ∧
      ofFile (Text.crlf '\n' '\r' contents) = ofFile contents ∧ (ofFile contents).length = 2 := by
  intro t d contents
  obtain ⟨htext, -, hfile⟩ := parse_crlf
  have hd : dedent t.toList = t.toList := by decide +kernel
  have ht : (text t).parse = .ok (some d) := by decide +kernel
  have hcr : '\r' ∉ contents := by decide +kernel
  refine ⟨hd, ht, ?_, hcr, hfile contents hcr, by decide +kernel⟩
  cases htext t with
  | empty h _ => cases ht.symm.trans h
  | missingArrow _ _ h _ => cases ht.symm.trans h
  | outlined halike hbody =>
    generalize (text t).crlf.parse = y at halike hbody ⊢
    rw [ht] at halike hbody
    cases halike with
    | read _ b =>
      have hb : b = d.body.crlf := hbody d _ rfl rfl hd
      rw [hb]
      decide +kernel

/-- An empty line has no say in the margin, but a carriage return on it has. -/
example :
    let r := text "  GET http://a.b -> 200 :x\n\n  y"
    let bodies (r : Rule) := r.parse.map fun d => d.map Directive.body
    bodies r = .ok (some (.text "x\n\ny")) ∧
      bodies r.crlf = .ok (some (.text "x\r\n\r\n  y")) := by
  decide +kernel

end Rule

end StubProxy
