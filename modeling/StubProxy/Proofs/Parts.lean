import Mathlib.Data.List.Basic
import StubProxy.Proofs.Script
import StubProxy.Proofs.Numeral
import StubProxy.Rule.Parts

/-!
# Rules are read by their parts

* `Script.words_requestLines`: however a script reads line breaks, the words of the request line are
  those in front of the first line feed.
* `Script.parse_of_parts`: a rule is read from its request line, its status and its body.
* `Script.parse_iff_reads`: rules are read as their parts say, in either script; rules that have the
  request line and the status in common are read alike, whatever their header lines and bodies.
-/

namespace StubProxy

open Text

namespace Script

variable {α : Type} [DecidableEq α] {S : Script α} {cr : α}
  {rule request line headerLines status body method url : List α}

/-! ## The request line -/

/-- Words do not see a blank at the end of the line. -/
theorem words_dropLastIf (hb : S.isBlank cr) (hs : cr ≠ S.space) (l : List α) :
    S.words (dropLastIf cr l) = S.words l := by
  by_cases h : l.getLast? = some cr
  · obtain ⟨t, rfl⟩ := List.getLast?_eq_some_iff.1 h
    obtain ⟨ps, q, hp, hp'⟩ := pieces_concat hs t
    have htrim : S.trim (q ++ [cr]) = S.trim q := trim_append q (by simpa using hb)
    have hwords : S.words t = S.words (t ++ [cr]) := by
      unfold words
      rw [hp, hp', List.map_append, List.map_append, List.map_singleton, List.map_singleton, htrim]
    rw [dropLastIf, if_pos h, List.dropLast_concat, hwords]
  · rw [dropLastIf, if_neg h]

/-- The first line of a part is what stands before its first line feed, less a final blank `cr`. -/
structure FirstLine (S : Script α) (cr : α) : Prop where
  blank : S.isBlank cr
  ne_space : cr ≠ S.space
  lines : ∀ {s p q : List α} {ps : List (List α)}, pieces S.lineFeed s = p :: ps ++ [q] →
    ∃ ls, S.lines s = dropLastIf cr p :: ls

/-- The words of the request line stand before the first line feed. -/
theorem words_requestLines (hS : S.FirstLine cr) (h : UpTo S.lineFeed request line headerLines) :
    S.words (S.requestLines request).1 = S.words line := by
  cases h with
  | found hn =>
    obtain ⟨ps, q, hq⟩ := List.eq_nil_or_concat (pieces S.lineFeed headerLines) |>.resolve_left
      (pieces_ne_nil S.lineFeed headerLines)
    have hp : pieces S.lineFeed (line ++ S.lineFeed :: headerLines) = line :: ps ++ [q] := by
      rw [pieces_break, pieces_of_not_mem hn, hq]
      simp
    obtain ⟨ls, hl⟩ := hS.lines hp
    rw [requestLines_of_lines (by simp) hl]
    exact words_dropLastIf hS.blank hS.ne_space line
  | missing hn => rw [requestLines, if_neg hn]

theorem textScript_firstLine : textScript.FirstLine '\r' where
  blank := by decide
  ne_space := by decide
  lines h := ⟨_, lines_of_pieces h⟩

theorem byteScript_firstLine : byteScript.FirstLine 13 where
  blank := by decide
  ne_space := by decide
  lines h := ⟨_, allLines_of_pieces h⟩

/-! ## Reading the parts -/

/-- A rule with an arrow has its parts. -/
theorem exists_parts (h : S.write arrow <:+: S.trim rule) :
    ∃ line headerLines status body, S.Parts rule line headerLines status body := by
  cases hs : S.split arrow (S.trim rule) with
  | none => exact absurd h (splitFirst_eq_none.1 hs)
  | some p =>
    exact ⟨_, _, _, _, p.1, p.2, splitFirst_eq_some_iff.1 hs, splitAtSymbol_eq_iff.1 rfl,
      splitAtSymbol_eq_iff.1 rfl⟩

/-- A rule is read from its request line, its status and its body. -/
theorem parse_of_parts (hS : S.FirstLine cr) (h : S.Parts rule line headerLines status body) :
    (∀ method url, S.words line = [method, url] →
      ∃ hs : Headers, S.parse rule = (readStatus (S.read status)).map fun n =>
        hs.foldl Directive.declare (.new (S.toString method) (S.toString url) n (S.body body))) ∧
    ((S.words line).length ≠ 2 →
      S.parse rule = .error (.malformedRequestLine ((S.words line).map S.toString))) := by
  obtain ⟨request, response, hcut, hline, hstatus⟩ := h
  have hsplit : S.split arrow (S.trim rule) = some (request, response) :=
    splitFirst_eq_some_iff.2 hcut
  have hcolon : S.splitAtColon response = (status, body) := splitAtSymbol_eq_iff.2 hstatus
  have hwords := words_requestLines hS hline
  constructor
  · intro method url hw
    rw [← hwords] at hw
    have hparse := parse_of_two_words hsplit rfl hw
    rw [hcolon] at hparse
    exact ⟨_, hparse⟩
  · intro hw
    rw [← hwords] at hw ⊢
    refine parse_of_words hsplit rfl ?_
    intro method url h
    exact hw (by rw [h]; rfl)

/-! ## What a rule is read as -/

/-- The reader of a status tells the texts apart as the grammar does. -/
theorem readStatus_cases (text : List Char) :
    (∃ fault, fault.Explains (Text.trim Text.isBlank text) ∧
      readStatus text = .error (.malformedStatus (String.ofList text) fault)) ∨
    ∃ n, Writes16 (Text.trim Text.isBlank text) n ∧
      ((n < 200 ∨ 999 < n) ∧ readStatus text = .error (.invalidStatus n) ∨
        200 ≤ n ∧ n ≤ 999 ∧ readStatus text = .ok n) := by
  unfold readStatus
  cases h : readWord16 (Text.trim Text.isBlank text) with
  | error fault => exact .inl ⟨fault, readWord16_eq_error.1 h, rfl⟩
  | ok n =>
    refine .inr ⟨n, readWord16_eq_ok.1 h, ?_⟩
    by_cases hn : 200 ≤ n ∧ n ≤ 999
    · exact .inr ⟨hn.1, hn.2, by simp [isFinalStatus, hn]⟩
    · exact .inl ⟨by omega, by simp [isFinalStatus, hn]⟩

theorem readStatus_eq_ok_iff {text : List Char} {n : Nat} : readStatus text = .ok n ↔
    Writes16 (Text.trim Text.isBlank text) n ∧ 200 ≤ n ∧ n ≤ 999 := by
  rw [← readWord16_eq_ok]
  unfold readStatus
  cases readWord16 (Text.trim Text.isBlank text) with
  | error fault => simp
  | ok m =>
    by_cases hm : 200 ≤ m ∧ m ≤ 999
    · have hf : isFinalStatus m = true := by simp [isFinalStatus, hm]
      simp only [hf, if_true, Except.ok.injEq]
      exact ⟨fun h => ⟨h, h ▸ hm⟩, fun h => h.1⟩
    · have hf : isFinalStatus m = false := by simpa [isFinalStatus] using hm
      simp only [hf, Bool.false_eq_true, if_false, reduceCtorEq, Except.ok.injEq, false_iff]
      rintro ⟨rfl, h⟩
      exact hm h

/-- **Every rule is read as its parts say.** -/
theorem reads_parse (hS : S.FirstLine cr) (rule : List α) :
    S.Reads rule ((S.parse rule).map Directive.bare) := by
  by_cases harrow : S.write arrow <:+: S.trim rule
  · obtain ⟨line, headerLines, status, body, hp⟩ := exists_parts harrow
    obtain ⟨htwo, hwrong⟩ := parse_of_parts hS hp
    by_cases hw : (S.words line).length = 2
    · obtain ⟨method, url, hw⟩ := List.length_eq_two.1 hw
      obtain ⟨hs, hparse⟩ := htwo method url hw
      rw [hparse]
      rcases readStatus_cases (S.read status) with ⟨fault, hf, h⟩ | ⟨n, hn, ⟨hr, h⟩ | ⟨hl, hu, h⟩⟩
      · rw [h]
        exact .noNumeral hp hw hf
      · rw [h]
        exact .outOfRange hp hw hn hr
      · rw [h]
        simp only [Except.map, Directive.bare_foldl_declare]
        exact .accepted hp hw hn hl hu
    · rw [hwrong hw]
      exact .wrongWords hp hw
  · rw [parse_of_no_arrow (splitFirst_eq_none.2 harrow)]
    exact .noArrow harrow

/-- What the parts say is what the rule is read as. -/
theorem Reads.parse_eq (hS : S.FirstLine cr) {outcome : Except RuleError Directive}
    (h : S.Reads rule outcome) : (S.parse rule).map Directive.bare = outcome := by
  cases h with
  | noArrow harrow =>
    rw [parse_of_no_arrow (splitFirst_eq_none.2 harrow)]
    rfl
  | wrongWords hp hw =>
    rw [(parse_of_parts hS hp).2 hw]
    rfl
  | noNumeral hp hw hf =>
    obtain ⟨hs, hparse⟩ := (parse_of_parts hS hp).1 _ _ hw
    have hread := readWord16_eq_error.2 hf
    simp only [hparse, readStatus, hread]
    rfl
  | outOfRange hp hw hn hr =>
    rename_i n
    obtain ⟨hs, hparse⟩ := (parse_of_parts hS hp).1 _ _ hw
    have hread := readWord16_eq_ok.2 hn
    have hfinal : ¬ isFinalStatus n := by
      simp only [isFinalStatus, Bool.and_eq_true, decide_eq_true_eq]
      omega
    simp only [hparse, readStatus, hread, if_neg hfinal]
    rfl
  | accepted hp hw hn hl hu =>
    rename_i n
    obtain ⟨hs, hparse⟩ := (parse_of_parts hS hp).1 _ _ hw
    have hread := readWord16_eq_ok.2 hn
    have hfinal : isFinalStatus n := by
      simp only [isFinalStatus, Bool.and_eq_true, decide_eq_true_eq]
      exact ⟨hl, hu⟩
    simp only [hparse, readStatus, hread, if_pos hfinal, Except.map, Directive.bare_foldl_declare]
    rfl

/-- Request line and status decide everything but headers and body. -/
theorem parse_frame (hS : S.FirstLine cr) {rule' headerLines' body' : List α}
    (h : S.Parts rule line headerLines status body)
    (h' : S.Parts rule' line headerLines' status body') :
    (S.parse rule).map (fun d => (d.method, d.url, d.status)) =
      (S.parse rule').map fun d => (d.method, d.url, d.status) := by
  obtain ⟨htwo, hwrong⟩ := parse_of_parts hS h
  obtain ⟨htwo', hwrong'⟩ := parse_of_parts hS h'
  have hbare : ∀ (d : Directive) (hs : Headers),
      let e := hs.foldl Directive.declare d
      (e.method, e.url, e.status) = (d.method, d.url, d.status) := by
    intro d hs
    exact congrArg (fun d => (d.method, d.url, d.status)) (d.bare_foldl_declare hs)
  by_cases hw : (S.words line).length = 2
  · obtain ⟨method, url, hw⟩ := List.length_eq_two.1 hw
    obtain ⟨hs, hparse⟩ := htwo method url hw
    obtain ⟨hs', hparse'⟩ := htwo' method url hw
    rw [hparse, hparse']
    cases readStatus (S.read status) with
    | error e => rfl
    | ok n =>
      simp only [Except.map, hbare]
      rfl
  · rw [hwrong hw, hwrong' hw]

/-- **Rules are read by their parts**, in text and in bytes: what a rule is read as, or which of its
parts is the first that is wrong. Rules with the same request line and the same status are refused
with the same error, or have the same method, URL and status, whatever their header lines and bodies
are. -/
theorem parse_iff_reads :
    (∀ rule outcome, (textScript.parse rule).map Directive.bare = outcome ↔
      textScript.Reads rule outcome) ∧
    (∀ rule outcome, (byteScript.parse rule).map Directive.bare = outcome ↔
      byteScript.Reads rule outcome) ∧
    (∀ rule rule' line headerLines headerLines' status body body',
      textScript.Parts rule line headerLines status body →
      textScript.Parts rule' line headerLines' status body' →
      (textScript.parse rule).map (fun d => (d.method, d.url, d.status)) =
        (textScript.parse rule').map fun d => (d.method, d.url, d.status)) ∧
    ∀ rule rule' line headerLines headerLines' status body body',
      byteScript.Parts rule line headerLines status body →
      byteScript.Parts rule' line headerLines' status body' →
      (byteScript.parse rule).map (fun d => (d.method, d.url, d.status)) =
        (byteScript.parse rule').map fun d => (d.method, d.url, d.status) := by
  refine ⟨?_, ?_, ?_, ?_⟩
  · intro rule outcome
    exact ⟨fun h => h ▸ reads_parse textScript_firstLine rule,
      fun h => h.parse_eq textScript_firstLine⟩
  · intro rule outcome
    exact ⟨fun h => h ▸ reads_parse byteScript_firstLine rule,
      fun h => h.parse_eq byteScript_firstLine⟩
  · intro rule rule' line headerLines headerLines' status body body' h h'
    exact parse_frame textScript_firstLine h h'
  · intro rule rule' line headerLines headerLines' status body body' h h'
    exact parse_frame byteScript_firstLine h h'

/-- Header lines without a colon, a name or a value, and a body that looks like a rule. -/
theorem parse_iff_reads_odd_lines :
    let plain := "GET http://a.b \n-> 200 :x".toList
    let odd := "GET http://a.b \nno colon\n: no name\nX-Empty:\n-> 200 :: \n GET -> 99".toList
    let line := "GET http://a.b ".toList
    let status := " 200 ".toList
    textScript.Parts plain line [] status "x".toList ∧
      textScript.Parts odd line "no colon\n: no name\nX-Empty:\n".toList status
        ": \n GET -> 99".toList ∧
      (textScript.parse plain).map (fun d => (d.method, d.url, d.status)) =
        (textScript.parse odd).map fun d => (d.method, d.url, d.status) := by
  intro plain odd line status
  have hplain : textScript.Parts plain line [] status "x".toList :=
    ⟨line ++ ['\n'], status ++ ":x".toList, splitFirst_eq_some_iff.1 (by decide +kernel),
      splitAtSymbol_eq_iff.1 (by decide +kernel), splitAtSymbol_eq_iff.1 (by decide +kernel)⟩
  have hodd : textScript.Parts odd line "no colon\n: no name\nX-Empty:\n".toList status
      ": \n GET -> 99".toList :=
    ⟨line ++ "\nno colon\n: no name\nX-Empty:\n".toList, status ++ ":: \n GET -> 99".toList,
      splitFirst_eq_some_iff.1 (by decide +kernel), splitAtSymbol_eq_iff.1 (by decide +kernel),
      splitAtSymbol_eq_iff.1 (by decide +kernel)⟩
  exact ⟨hplain, hodd, parse_iff_reads.2.2.1 _ _ _ _ _ _ _ _ hplain hodd⟩

end Script

end StubProxy
