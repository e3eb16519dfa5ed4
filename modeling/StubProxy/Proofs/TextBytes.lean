import StubProxy.Proofs.Script
import StubProxy.Rule.Basic

/-!
# Text rules and byte rules agree

The two scripts trim, cut and read lines in their own ways. On the bytes of a text whose blanks are
those of ASCII each of these gives the bytes of what the other gives, with one exception: a carriage
return at the very end, and an empty last line, are kept by one script and dropped by the other.
Neither is seen by the reader of header lines.

* `requestLines_encode`: the same request line, and lines that declare the same headers.
* `Script.parse_encode`: the same directive or the same error.
* `Rule.text_bytes_agree`: the same for whole rules without a margin.
-/

namespace StubProxy

open Text

/-- All white space in the text is white space of ASCII, and none of it a vertical tab. -/
def Text.PlainBlanks (s : List Char) : Prop :=
  ∀ c ∈ s, isBlank c → c = ' ' ∨ c = '\t' ∨ c = '\n' ∨ c = '\x0C' ∨ c = '\r'

namespace Text

variable {s t : List Char}

instance (s : List Char) : Decidable (PlainBlanks s) := List.decidableBAll _ s

theorem PlainBlanks.mono (h : PlainBlanks s) (ht : ∀ c ∈ t, c ∈ s) : PlainBlanks t :=
  fun c hc => h c (ht c hc)

/-! ## Blanks -/

theorem not_blank_of_mem {c : Char} {b : UInt8} (hb : b ∈ String.utf8EncodeChar c)
    (hc : isBlank c = false) : isBlankByte b = false := by
  cases h : isBlankByte b with
  | false => rfl
  | true =>
    simp only [isBlankByte, Bool.or_eq_true, decide_eq_true_eq] at h
    have hn : b.toNat = 9 ∨ b.toNat = 10 ∨ b.toNat = 12 ∨ b.toNat = 13 ∨ b.toNat = 32 := by
      rcases h with (((rfl | rfl) | rfl) | rfl) | rfl <;> simp
    -- a byte of ASCII is the only byte of its character
    have hbc := Utf8.toNat_of_mem_encodeChar hb (by omega)
    have hblank : isBlank c = true := by
      simp [isBlank]
      omega
    rw [hblank] at hc
    exact absurd hc (by simp)

theorem tight_encode (h : Tight isBlank s) : Tight isBlankByte (Utf8.encode s) := by
  constructor
  · intro b hb
    obtain ⟨c, hc, hbc⟩ := Utf8.head_encode hb
    exact not_blank_of_mem hbc (h.head c hc)
  · intro b hb
    obtain ⟨c, hc, hbc⟩ := Utf8.last_encode hb
    exact not_blank_of_mem hbc (h.last c hc)

theorem blank_encode (h : PlainBlanks s) (hb : ∀ c ∈ s, isBlank c) :
    ∀ b ∈ Utf8.encode s, isBlankByte b := by
  intro b hbs
  obtain ⟨c, hc, hbc⟩ := List.mem_flatMap.1 hbs
  rcases h c hc (hb c hc) with rfl | rfl | rfl | rfl | rfl
  all_goals
    rw [Utf8.encodeChar_ascii (by decide)] at hbc
    obtain rfl := List.mem_singleton.1 hbc
    decide

/-- Trimming bytes is trimming text. -/
theorem trim_encode (h : PlainBlanks s) :
    trim isBlankByte (Utf8.encode s) = Utf8.encode (trim isBlank s) := by
  obtain ⟨a, b, hs, ha, hb, ht⟩ := trim_split isBlank s
  have hpa : PlainBlanks a := h.mono fun c hc => by rw [hs]; simp [hc]
  have hpb : PlainBlanks b := h.mono fun c hc => by rw [hs]; simp [hc]
  rw [hs, Utf8.encode_append, Utf8.encode_append, trim_between ha ht hb,
    trim_between (blank_encode hpa ha) (tight_encode ht) (blank_encode hpb hb)]

theorem dropLastIf_encode (s : List Char) :
    dropLastIf 13 (Utf8.encode s) = Utf8.encode (dropLastIf '\r' s) := by
  by_cases h : s.getLast? = some '\r'
  · obtain ⟨t, rfl⟩ := List.getLast?_eq_some_iff.1 h
    have he : Utf8.encode (t ++ ['\r']) = Utf8.encode t ++ [13] := Utf8.encode_append t ['\r']
    simp [dropLastIf, he]
  · have hn : (Utf8.encode s).getLast? ≠ some 13 := by
      intro hl
      obtain ⟨c, hc, hb⟩ := Utf8.last_encode hl
      have hv : (13 : UInt8).toNat = c.toNat := Utf8.toNat_of_mem_encodeChar hb (by decide)
      rw [hc, ← Char.ofNat_toNat c, ← hv] at h
      exact h rfl
    rw [dropLastIf, if_neg hn, dropLastIf, if_neg h]

theorem mem_of_mem_dropLastIf {c d : Char} (hc : c ∈ dropLastIf d s) : c ∈ s := by
  unfold dropLastIf at hc
  split at hc
  · exact List.dropLast_subset s hc
  · exact hc

theorem mem_of_mem_trim {c : Char} (hc : c ∈ trim isBlank s) : c ∈ s := by
  obtain ⟨a, b, hs, -⟩ := trim_split isBlank s
  rw [hs]
  simp [hc]

end Text

/-! ## The steps of the grammar -/

namespace Script

variable {s : List Char}

theorem toString_encode (s : List Char) :
    byteScript.toString (Utf8.encode s) = textScript.toString s :=
  congrArg String.ofList (Utf8.decodeLossy_encode s)

theorem split_encode (s : List Char) : byteScript.split arrow (Utf8.encode s) =
    (textScript.split arrow s).map fun p => (Utf8.encode p.1, Utf8.encode p.2) :=
  Utf8.splitFirst_encode (by decide) s

theorem splitAtColon_encode (s : List Char) : byteScript.splitAtColon (Utf8.encode s) =
    (Utf8.encode (textScript.splitAtColon s).1, Utf8.encode (textScript.splitAtColon s).2) := by
  have h : splitFirst [58] (Utf8.encode s) =
      (splitFirst [':'] s).map fun p => (Utf8.encode p.1, Utf8.encode p.2) :=
    Utf8.splitFirst_encode (show [':'] ≠ [] by decide) s
  change (splitFirst [58] (Utf8.encode s)).getD _ = _
  rw [h]
  change _ = (Utf8.encode ((splitFirst [':'] s).getD (s, [])).1,
    Utf8.encode ((splitFirst [':'] s).getD (s, [])).2)
  cases splitFirst [':'] s <;> rfl

/-- The cut at a colon adds no symbols. -/
theorem mem_of_mem_splitAtColon {c : Char}
    (hc : c ∈ (textScript.splitAtColon s).1 ∨ c ∈ (textScript.splitAtColon s).2) : c ∈ s := by
  change c ∈ (splitAtSymbol ':' s).1 ∨ c ∈ (splitAtSymbol ':' s).2 at hc
  rcases splitAtSymbol_cases ':' s with ⟨a, b, -, hs, h⟩ | ⟨-, h⟩
  · rw [h] at hc
    rw [hs]
    rcases hc with hc | hc <;> simp [hc]
  · simpa [h] using hc

theorem words_encode (hs : PlainBlanks s) :
    byteScript.words (Utf8.encode s) = (textScript.words s).map Utf8.encode := by
  have hp : pieces 32 (Utf8.encode s) = (pieces ' ' s).map Utf8.encode :=
    Utf8.pieces_encode (c := ' ') (by decide) s
  have ht : ((pieces ' ' s).map Utf8.encode).map byteScript.trim =
      ((pieces ' ' s).map textScript.trim).map Utf8.encode := by
    rw [List.map_map, List.map_map]
    apply List.map_congr_left
    intro p hp
    exact trim_encode (hs.mono (mem_of_mem_pieces hp))
  change ((pieces 32 (Utf8.encode s)).map byteScript.trim).filter (· ≠ []) =
    (((pieces ' ' s).map textScript.trim).filter (· ≠ [])).map Utf8.encode
  rw [hp, ht, List.filter_map]
  congr 1
  apply List.filter_congr
  intro p _
  simp [Utf8.encode_eq_nil]

theorem readHeader_encode (hs : PlainBlanks s) :
    byteScript.readHeader (Utf8.encode s) = textScript.readHeader s := by
  have htrim : ∀ t, (∀ c ∈ t, c ∈ s) →
      byteScript.trim (Utf8.encode t) = Utf8.encode (textScript.trim t) :=
    fun t ht => trim_encode (hs.mono ht)
  have hmem : ∀ c ∈ textScript.trim s, c ∈ s := fun c hc => mem_of_mem_trim hc
  have hname := htrim (textScript.splitAtColon (textScript.trim s)).1
    fun c hc => hmem c (mem_of_mem_splitAtColon (.inl hc))
  have hvalue := htrim (textScript.splitAtColon (textScript.trim s)).2
    fun c hc => hmem c (mem_of_mem_splitAtColon (.inr hc))
  unfold readHeader
  rw [htrim s fun c hc => hc, splitAtColon_encode]
  simp only [hname, hvalue, Utf8.encode_eq_nil, toString_encode]

theorem filterMap_encode {ls : List (List Char)} (h : ∀ l ∈ ls, PlainBlanks l) :
    (ls.map Utf8.encode).filterMap byteScript.readHeader = ls.filterMap textScript.readHeader := by
  induction ls with
  | nil => rfl
  | cons l ls ih =>
    rw [List.forall_mem_cons] at h
    rw [List.map_cons, List.filterMap_cons, List.filterMap_cons, readHeader_encode h.1, ih h.2]

/-- The reader of header lines does not see a blank at the end of a line. -/
theorem readHeader_dropLastIf {α : Type} [DecidableEq α] {S : Script α} {c : α} (hc : S.isBlank c)
    (l : List α) : S.readHeader (dropLastIf c l) = S.readHeader l := by
  have h : S.trim (dropLastIf c l) = S.trim l := trim_dropLastIf hc l
  unfold readHeader
  rw [h]

/-- Either reading of line breaks gives the same request line and lines that declare the same. -/
theorem requestLines_encode (hs : PlainBlanks s) :
    ∃ l ls ls', textScript.requestLines s = (l, ls) ∧
      byteScript.requestLines (Utf8.encode s) = (Utf8.encode l, ls') ∧
      ls'.filterMap byteScript.readHeader = ls.filterMap textScript.readHeader ∧
      ∀ c ∈ l, c ∈ s := by
  have hlf : (10 : UInt8) ∈ Utf8.encode s ↔ '\n' ∈ s := Utf8.mem_encode (c := '\n') (by decide)
  by_cases hn : '\n' ∈ s
  · obtain ⟨p, ps, q, hp⟩ := pieces_of_mem hn
    have hpe : pieces 10 (Utf8.encode s) =
        Utf8.encode p :: ps.map Utf8.encode ++ [Utf8.encode q] := by
      have h := Utf8.pieces_encode (c := '\n') (by decide) s
      rw [hp, List.map_append] at h
      exact h
    -- both scripts declare what the pieces behind the first declare
    obtain ⟨ls, hl, hls⟩ := filterMap_lines (f := textScript.readHeader)
      (readHeader_dropLastIf (c := '\r') (by decide)) (by decide) hp
    obtain ⟨ls', hl', hls'⟩ := filterMap_allLines (f := byteScript.readHeader)
      (readHeader_dropLastIf (c := 13) (by decide)) (by decide) hpe
    refine ⟨dropLastIf '\r' p, ls, ls', ?_, ?_, ?_, ?_⟩
    · exact requestLines_of_lines hn hl
    · rw [← dropLastIf_encode]
      exact requestLines_of_lines (hlf.2 hn) hl'
    · have hq : ps.map Utf8.encode ++ [Utf8.encode q] = (ps ++ [q]).map Utf8.encode := by simp
      rw [hls, hls', hq, filterMap_encode]
      intro l hl
      have hm : l ∈ pieces '\n' s := by
        rw [hp]
        exact List.mem_cons_of_mem p hl
      exact hs.mono (mem_of_mem_pieces hm)
    · intro c hc
      have hm : p ∈ pieces '\n' s := by
        rw [hp]
        exact List.mem_cons_self
      exact mem_of_mem_pieces hm c (mem_of_mem_dropLastIf hc)
  · refine ⟨s, [], [], if_neg hn, if_neg fun h => hn (hlf.1 h), rfl, fun c hc => hc⟩

end Script

/-! ## Whole rules -/

namespace Directive

/-- The same directive with its body as bytes. -/
def toBinary (d : Directive) : Directive := { d with body := .binary d.body.bytes }

theorem toBinary_declare (d : Directive) (h : String × String) :
    (d.declare h).toBinary = d.toBinary.declare h := by
  unfold declare
  split <;> rfl

theorem toBinary_foldl_declare (d : Directive) (hs : Headers) :
    (hs.foldl declare d).toBinary = hs.foldl declare d.toBinary := by
  induction hs generalizing d with
  | nil => rfl
  | cons h hs ih => rw [List.foldl_cons, List.foldl_cons, ih, toBinary_declare]

end Directive

namespace Script

/-- The body of a directive is made from symbols of its rule. -/
theorem parse_body {α : Type} [DecidableEq α] {S : Script α} {s : List α} {d : Directive}
    (h : S.parse s = .ok d) : ∃ b, d.body = S.body b := by
  unfold parse at h
  simp only at h
  split at h
  · exact absurd h (by simp)
  split at h
  · split at h
    · exact absurd h (by simp)
    · obtain rfl := Except.ok.inj h
      exact ⟨_, rfl⟩
  · exact absurd h (by simp)

theorem toBinary_new (m u : String) (n : Nat) (b : List Char) :
    (Directive.new m u n (textScript.body b)).toBinary =
      .new m u n (byteScript.body (Utf8.encode b)) := by
  have hb : (textScript.body b).bytes = Utf8.encode b := congrArg Utf8.encode String.toList_ofList
  simp only [Directive.new, Directive.toBinary, hb]
  rfl

/-- **Text and bytes agree**: the same error, or the same directive with its body in bytes. -/
theorem parse_encode {s : List Char} (hs : PlainBlanks s) :
    byteScript.parse (Utf8.encode s) = (textScript.parse s).map Directive.toBinary := by
  have htrim : byteScript.trim (Utf8.encode s) = Utf8.encode (textScript.trim s) := trim_encode hs
  have hsplit := split_encode (textScript.trim s)
  rw [← htrim] at hsplit
  cases ht : textScript.split arrow (textScript.trim s) with
  | none =>
    rw [ht] at hsplit
    rw [parse_of_no_arrow ht, parse_of_no_arrow hsplit, htrim, toString_encode]
    rfl
  | some p =>
    obtain ⟨request, response⟩ := p
    rw [ht] at hsplit
    have hreq : PlainBlanks request := by
      apply hs.mono
      intro c hc
      apply mem_of_mem_trim
      have h : textScript.trim s = request ++ arrow ++ response := splitFirst_eq_some ht
      change c ∈ textScript.trim s
      simp [h, hc]
    obtain ⟨l, ls, ls', hl, hl', hls, hmem⟩ := requestLines_encode hreq
    have hw := words_encode (hreq.mono hmem)
    by_cases hmu : ∃ m u, textScript.words l = [m, u]
    · obtain ⟨m, u, hmu⟩ := hmu
      rw [hmu] at hw
      have hread : byteScript.read (Utf8.encode (textScript.splitAtColon response).1) =
          textScript.read (textScript.splitAtColon response).1 := Utf8.decodeLossy_encode _
      rw [parse_of_two_words ht hl hmu, parse_of_two_words hsplit hl' hw, splitAtColon_encode,
        hread, hls, toString_encode, toString_encode]
      cases readStatus (textScript.read (textScript.splitAtColon response).1) with
      | error e => rfl
      | ok n =>
        simp only [Except.map]
        rw [Directive.toBinary_foldl_declare, toBinary_new]
    · have hne : ∀ m u, textScript.words l ≠ [m, u] := fun m u h => hmu ⟨m, u, h⟩
      have hne' : ∀ m u, byteScript.words (Utf8.encode l) ≠ [m, u] := by
        intro m u h
        rw [hw] at h
        obtain ⟨m', t, hm, -, h⟩ := List.map_eq_cons_iff.1 h
        obtain ⟨u', t', hu, -, h⟩ := List.map_eq_cons_iff.1 h
        rw [List.map_eq_nil_iff.1 h] at hu
        exact hne m' u' (by rw [hm, hu])
      have hstr : byteScript.toString ∘ Utf8.encode = textScript.toString := funext toString_encode
      rw [parse_of_words ht hl hne, parse_of_words hsplit hl' hne', hw, List.map_map, hstr]
      rfl

end Script

theorem Script.isBinary_textScript {s : List Char} {d : Directive}
    (h : textScript.parse s = .ok d) : d.body.isBinary = false := by
  obtain ⟨b, hb⟩ := parse_body h
  rw [hb]
  rfl

/-- **Text rules and byte rules agree** on the bytes of a text whose blanks are those of ASCII: they
fail with the same error, or give the same directive but for the kind of its body. The margin of a
block is the only thing that a text rule loses and a byte rule keeps. -/
theorem Rule.text_bytes_agree (t : String) (ht : PlainBlanks t.toList) :
    (byteScript.parse (Utf8.encode t.toList) =
        (textScript.parse t.toList).map Directive.toBinary ∧
      ∀ d, textScript.parse t.toList = .ok d → d.body.isBinary = false) ∧
    (dedent t.toList = t.toList →
      (Rule.binary (Utf8.encode t.toList)).parse =
          (Rule.text t).parse.map (Option.map Directive.toBinary) ∧
        ∀ d, (Rule.text t).parse = .ok (some d) → d.body.isBinary = false) := by
  refine ⟨⟨Script.parse_encode ht, fun d => Script.isBinary_textScript⟩, fun hd => ?_⟩
  by_cases hn : t.toList = []
  · -- the empty rule stands for no directive in both scripts
    simp [Rule.parse, parseText, parseBytes, hn, Except.map]
  · have htext : (Rule.text t).parse = (textScript.parse t.toList).map some := by
      rw [Rule.parse, parseText, if_neg hn, hd]
    have hbytes : (Rule.binary (Utf8.encode t.toList)).parse =
        (byteScript.parse (Utf8.encode t.toList)).map some := by
      rw [Rule.parse, parseBytes, if_neg fun h => hn (Utf8.encode_eq_nil.1 h)]
    rw [hbytes, htext, Script.parse_encode ht]
    cases h : textScript.parse t.toList with
    | error e => exact ⟨rfl, fun d hd => by cases hd⟩
    | ok d =>
      refine ⟨rfl, fun d' hd' => ?_⟩
      obtain rfl : d = d' := Option.some.inj (Except.ok.inj hd')
      exact Script.isBinary_textScript h

/-- Two bytes, three bytes and four bytes in a character, a carriage return at each line's end. -/
theorem Rule.text_bytes_agree_umlaut :
    let t := "GET http://a.b/ä\r\nX-A: €1\r\n-> 200 : 𝄞\r\n"
    (textScript.parse t.toList).isOk ∧
      (byteScript.parse (Utf8.encode t.toList) =
          (textScript.parse t.toList).map Directive.toBinary ∧
        ∀ d, textScript.parse t.toList = .ok d → d.body.isBinary = false) ∧
      (Rule.binary (Utf8.encode t.toList)).parse =
          (Rule.text t).parse.map (Option.map Directive.toBinary) ∧
        ∀ d, (Rule.text t).parse = .ok (some d) → d.body.isBinary = false := by
  intro t
  have h := Rule.text_bytes_agree t (by decide +kernel)
  exact ⟨by decide +kernel, h.1, h.2 (by decide +kernel)⟩

end StubProxy
