import StubProxy.Proofs.DedentedBody
import StubProxy.Proofs.LastWins
import StubProxy.Proofs.Lossy
import StubProxy.Rule.Block

/-!
# What a header block declares

Each line between the request line and the arrow counts for itself: it declares a header, or it is
left out. Of a text rule the lines have one thing in common, which is the margin.

* `Script.outline_block`: the outline of a block, line by line.
* `outline_dedent_block`: the outline of a text block when its margin is gone.
* `margin_kept`: which lines have no part in the margin.
* `Rule.parse_block`: blocks of both kinds are read as their lines say, and lines that declare
  nothing have no effect but on the margin of a text.
-/

namespace StubProxy

open Text

/-! ## The outline of a block -/

namespace Script

variable {α : Type} [DecidableEq α] {S : Script α} {x : α} {request response body : List α}
  {lines : List (List α)} {method url : String} {n : Nat}

theorem words_cons_blank (hx : S.isBlank x) (l : List α) : S.words (x :: l) = S.words l := by
  have hnil : S.trim [] = [] := rfl
  by_cases hs : x = S.space
  · simp [words, pieces, hs, hnil]
  · obtain ⟨p, ps, h⟩ := exists_pieces S.space l
    have ht : S.trim (x :: p) = S.trim p :=
      trim_blank_append (a := [x]) (List.forall_mem_singleton.2 hx) p
    simp only [words, pieces, if_neg hs, h, consFirst, List.map_cons, ht]

/-- Words do not see blanks in front of the line. -/
theorem words_dropWhile (l : List α) : S.words (l.dropWhile S.isBlank) = S.words l := by
  induction l with
  | nil => rfl
  | cons x l ih =>
    cases hx : S.isBlank x with
    | true => rw [List.dropWhile_cons_of_pos hx, ih, words_cons_blank hx]
    | false => rw [List.dropWhile_cons_of_neg (by simp [hx])]

/-- What blocks need of a script: an arrow of two different visible symbols, and a reading of the
status that does not see blanks at its end. -/
structure ReadsBlocks (S : Script α) : Prop where
  arrow : ∃ x y, S.write arrow = [x, y] ∧ x ≠ y ∧ S.isBlank x = false ∧ S.isBlank y = false
  trim_read : ∀ s, Text.trim Text.isBlank (S.read (trimEnd S.isBlank s)) =
    Text.trim Text.isBlank (S.read s)

theorem textScript_readsBlocks : textScript.ReadsBlocks where
  arrow := ⟨'-', '>', rfl, by decide, by decide, by decide⟩
  trim_read s := trim_trimEnd Text.isBlank s

theorem byteScript_readsBlocks : byteScript.ReadsBlocks where
  arrow := ⟨45, 62, by decide, by decide, by decide, by decide⟩
  trim_read s := by
    have hread : ∀ t, Text.trim Text.isBlank (Utf8.decodeLossy t) =
        Text.trim Text.isBlank (Utf8.decodeLossy (Text.trim isBlankByte t)) := by
      intro t
      rw [← Utf8.trim_decodeLossy, trim_trim fun _ => Utf8.isBlank_of_isAsciiBlank]
    have htrim := trim_trimEnd isBlankByte s
    calc Text.trim Text.isBlank (Utf8.decodeLossy (trimEnd isBlankByte s))
      _ = Text.trim Text.isBlank (Utf8.decodeLossy (Text.trim isBlankByte s)) := by
        rw [hread, htrim]
      _ = Text.trim Text.isBlank (Utf8.decodeLossy s) := (hread s).symm

omit [DecidableEq α] in
/-- Joined lines lose the blanks in front of the first one, which shows something. -/
theorem dropWhile_joinPieces {p : α → Bool} {sep : α} {l : List α} (hl : l.dropWhile p ≠ [])
    (ls : List (List α)) :
    (joinPieces sep (l :: ls)).dropWhile p = joinPieces sep (l.dropWhile p :: ls) := by
  cases ls with
  | nil => rfl
  | cons k ls =>
    rw [joinPieces, joinPieces, List.dropWhile_append]
    simp [hl]

/-- **The outline of a block**: the words of its request line, what its lines declare, and the two
sides of the first colon of its response. -/
theorem outline_block (hS : S.Lawful) (hB : S.ReadsBlocks)
    (hf : ∀ l ∈ request :: lines, S.lineFeed ∉ l)
    (ha : ∀ l ∈ request :: lines, ¬ S.write arrow <:+: l) (hw : S.words request ≠ []) :
    S.outline (S.block request lines response) =
      some ⟨(S.words request).map S.toString, lines.filterMap S.readHeader,
        (S.splitAtColon (trimEnd S.isBlank response)).1,
        (S.splitAtColon (trimEnd S.isBlank response)).2⟩ := by
  obtain ⟨x, y, hxy, hne, hx, hy⟩ := hB.arrow
  have hlf : S.lineFeed ∉ S.write arrow := by
    rw [hS.mem_write hS.write_lineFeed]
    decide
  have hfirst : request.dropWhile S.isBlank ≠ [] := by
    intro h
    rw [← words_dropWhile, h] at hw
    exact hw rfl
  have hpieces : pieces S.lineFeed (joinPieces S.lineFeed (request.dropWhile S.isBlank :: lines)) =
      request.dropWhile S.isBlank :: lines := by
    apply pieces_joinPieces (by simp)
    rw [List.forall_mem_cons] at hf ⊢
    exact ⟨fun h => hf.1 (List.dropWhile_subset _ h), hf.2⟩
  have hsplit : S.split arrow (S.trim (S.block request lines response)) =
      some (joinPieces S.lineFeed (request.dropWhile S.isBlank :: lines),
        trimEnd S.isBlank response) := by
    -- no arrow comes before the one that ends the lines, and trimming goes no further than it
    have hnone := not_infix_joinPieces hlf (hS.write_ne_nil (List.cons_ne_nil _ _)) ha
    rw [hxy] at hnone
    have hcut := splitFirst_eq_some_iff.1 (splitFirst_pair hne hnone (trimEnd S.isBlank response))
    have htrim : S.trim (S.block request lines response) =
        (joinPieces S.lineFeed (request :: lines) ++ x :: y :: trimEnd S.isBlank response).dropWhile
          S.isBlank := by
      have hstop := trim_stop_end hy (joinPieces S.lineFeed (request :: lines) ++ [x]) response
      rw [dropWhile_stop hx] at hstop
      rw [dropWhile_stop hx, block, hxy, Script.trim]
      simpa using hstop
    rw [split, htrim, hxy, splitFirst_eq_some_iff, ← dropWhile_joinPieces hfirst]
    exact hcut.dropWhile hx
  rw [outline, hsplit, Option.map_some, firstWords, declared, hpieces, List.headD_cons,
    List.tail_cons, words_dropWhile]

/-- What the response adds to the outline. -/
theorem Responds.splitAtColon (hS : S.Lawful) (hB : S.ReadsBlocks)
    (h : S.Responds response n body) :
    readStatus (S.read (S.splitAtColon (trimEnd S.isBlank response)).1) = .ok n ∧
      (S.splitAtColon (trimEnd S.isBlank response)).2 = trimEnd S.isBlank body := by
  obtain ⟨hl, hu, status, hup, hwrites⟩ := h
  cases hup with
  | found hc =>
    rw [trimEnd_stop hS.isBlank_colon, Script.splitAtColon, splitAtSymbol_append hc]
    exact ⟨readStatus_eq_ok_iff.2 ⟨hwrites, hl, hu⟩, rfl⟩
  | missing hc =>
    -- all of the response is the status, so that blanks come off its end
    obtain ⟨b, hs, -⟩ := trimEnd_split S.isBlank response
    have hc' : S.colon ∉ trimEnd S.isBlank response := by
      intro h
      rw [hs] at hc
      exact hc (List.mem_append_left b h)
    have hcut : S.splitAtColon (trimEnd S.isBlank response) = (trimEnd S.isBlank response, []) :=
      splitAtSymbol_eq_iff.2 (.missing hc')
    rw [hcut]
    refine ⟨readStatus_eq_ok_iff.2 ⟨?_, hl, hu⟩, rfl⟩
    rwa [hB.trim_read]

instance (S : Script α) (response : List α) (n : Nat) (body : List α) :
    Decidable (S.Responds response n body) :=
  decidable_of_iff (200 ≤ n ∧ n ≤ 999 ∧ (S.splitAtColon response).2 = body ∧
      readWord16 (Text.trim Text.isBlank (S.read (S.splitAtColon response).1)) = .ok n) <| by
    refine and_congr_right fun _ => and_congr_right fun _ => ?_
    constructor
    · rintro ⟨rfl, hn⟩
      exact ⟨_, splitAtSymbol_eq_iff.1 rfl, readWord16_eq_ok.1 hn⟩
    · rintro ⟨status, hup, hn⟩
      have hcut : S.splitAtColon response = (status, body) := splitAtSymbol_eq_iff.2 hup
      rw [hcut]
      exact ⟨rfl, readWord16_eq_ok.2 hn⟩

instance (S : Script α) (request : List α) (lines : List (List α)) (response : List α)
    (method url : String) (n : Nat) (body : List α) :
    Decidable (S.IsBlock request lines response method url n body) :=
  decidable_of_iff ((∀ l ∈ request :: lines, S.lineFeed ∉ l) ∧
      (∀ l ∈ request :: lines, splitFirst (S.write arrow) l = none) ∧
      (S.words request).map S.toString = [method, url] ∧ S.Responds response n body)
    ⟨fun ⟨h, i, j, k⟩ => ⟨h, fun l hl => splitFirst_eq_none.1 (i l hl), j, k⟩,
      fun ⟨h, i, j, k⟩ => ⟨h, fun l hl => splitFirst_eq_none.2 (i l hl), j, k⟩⟩

theorem IsBlock.words_ne_nil (h : S.IsBlock request lines response method url n body) :
    S.words request ≠ [] := by
  intro hnil
  have hwords := h.words
  rw [hnil] at hwords
  cases hwords

/-- The outline of a rule that is a block. -/
theorem IsBlock.outline (hS : S.Lawful) (hB : S.ReadsBlocks)
    (h : S.IsBlock request lines response method url n body) :
    ∃ status, S.outline (S.block request lines response) =
        some ⟨[method, url], lines.filterMap S.readHeader, status, trimEnd S.isBlank body⟩ ∧
      readStatus (S.read status) = .ok n := by
  obtain ⟨hstatus, hbody⟩ := h.response.splitAtColon hS hB
  refine ⟨_, ?_, hstatus⟩
  rw [outline_block hS hB h.no_lineFeed h.no_arrow h.words_ne_nil, h.words, hbody]

end Script

/-- **The outline of a text block** without its margin. -/
theorem outline_dedent_block {request response body : List Char} {lines : List (List Char)}
    {method url : String} {n : Nat}
    (h : textScript.IsBlock request lines response method url n body) :
    let rule := textScript.block request lines response
    ∃ status, textScript.outline (dedent rule) = some ⟨[method, url],
        lines.filterMap textScript.readHeader, status,
        trimEnd isBlank (unindent (margin (pieces '\n' rule)) body)⟩ ∧
      readStatus status = .ok n := by
  intro rule
  obtain ⟨status, ho, hstatus⟩ := h.outline textScript_lawful Script.textScript_readsBlocks
  obtain ⟨⟨words, headers, status', body'⟩, (ho' : textScript.outline (dedent rule) = _), hmap⟩ :=
    exists_outline_dedent ho
  simp only [Outline.map, Outline.mk.injEq] at hmap
  obtain ⟨rfl, rfl, hs, hb⟩ := hmap
  have hbody : body' = trimEnd isBlank (unindent (margin (pieces '\n' rule)) body) := by
    obtain ⟨-, -, st, hup, -⟩ := h.response
    cases hup with
    | found hc =>
      have hrule : rule = (joinPieces '\n' (request :: lines) ++ arrow ++ st) ++ ':' :: body := by
        simp only [rule, Script.block]
        exact (List.append_assoc _ _ _).symm
      rw [hrule] at ho' ⊢
      exact outline_dedent_body ho' hb
    | missing hc => exact eq_nil_of_flush (Script.outline_body ho').2 hb
  exact ⟨status', by rw [ho', hbody], readStatus_of_flush hs hstatus⟩

/-! ## Lines that declare nothing -/

namespace Script

variable {α : Type} [DecidableEq α] {S : Script α} {request front response body : List α}
  {lines : List (List α)} {method url : String} {n : Nat}

theorem filterMap_kept (S : Script α) (lines : List (List α)) :
    (S.kept lines).filterMap S.readHeader = lines.filterMap S.readHeader := by
  rw [kept, List.filterMap_filter]
  congr 1
  funext l
  cases S.readHeader l <;> rfl

theorem IsBlock.kept (h : S.IsBlock request (lines ++ [front]) response method url n body) :
    S.IsBlock request (S.kept lines ++ [front]) response method url n body := by
  have hsub : ∀ l ∈ request :: (S.kept lines ++ [front]), l ∈ request :: (lines ++ [front]) := by
    intro l hl
    simp only [Script.kept, List.mem_cons, List.mem_append, List.mem_filter] at hl ⊢
    tauto
  exact ⟨fun l hl => h.no_lineFeed l (hsub l hl), fun l hl => h.no_arrow l (hsub l hl), h.words,
    h.response⟩

/-- The lines of a block, and those of its response. -/
theorem IsBlock.pieces (h : S.IsBlock request (lines ++ [front]) response method url n body) :
    Text.pieces S.lineFeed (S.block request (lines ++ [front]) response) =
      (request :: lines) ++ Text.pieces S.lineFeed (front ++ S.write arrow ++ response) := by
  have hf : ∀ l ∈ request :: lines, S.lineFeed ∉ l :=
    fun l hl => h.no_lineFeed l (by rw [← List.cons_append]; exact List.mem_append_left _ hl)
  rw [block, ← List.cons_append, joinPieces_append, joinPieces, List.append_assoc,
    List.append_assoc, pieces_ended hf, List.append_assoc]

end Script

section Kept

variable {request front response body : List Char} {lines : List (List Char)}
  {method url : String} {n : Nat}

theorem not_bare_of_words (h : textScript.words request ≠ []) : isBare request = false := by
  by_contra hb
  have hb : isBare request = true := by simpa using hb
  have hall : ∀ c ∈ request, isBlank c := fun c hc =>
    isBlank_of_isIndent (List.all_eq_true.1 hb c hc)
  have hd : request.dropWhile isBlank = [] := List.dropWhile_eq_nil_iff.2 hall
  rw [← Script.words_dropWhile] at h
  exact h (congrArg textScript.words hd)

/-- Lines that are left out and indented as far as the rest of the block have no part in its
margin. -/
theorem margin_kept
    (h : textScript.IsBlock request (lines ++ [front]) response method url n body)
    (hl : ∀ l ∈ lines, textScript.readHeader l = none → isBare l = false →
      margin (pieces '\n' (textScript.block request (textScript.kept lines ++ [front]) response)) <+:
        indentOf l) :
    margin (pieces '\n' (textScript.block request (lines ++ [front]) response)) =
      margin (pieces '\n' (textScript.block request (textScript.kept lines ++ [front]) response)) := by
  have hp : pieces '\n' (textScript.block request (lines ++ [front]) response) = _ := h.pieces
  have hk : pieces '\n' (textScript.block request (textScript.kept lines ++ [front]) response) = _ :=
    h.kept.pieces
  refine margin_eq_of_subset (l := request) ?_ (by simp [hk]) (not_bare_of_words h.words_ne_nil) ?_
  · intro k hmem
    rw [hk] at hmem
    rw [hp]
    simp only [Script.kept, List.mem_append, List.mem_cons, List.mem_filter] at hmem ⊢
    tauto
  · intro k hmem hv
    by_cases hkept : k ∈ pieces '\n'
        (textScript.block request (textScript.kept lines ++ [front]) response)
    · exact margin_isPrefix hkept hv
    · -- a line of the block only is one that was left out
      rw [hp] at hmem
      rw [hk] at hkept
      simp only [Script.kept, List.mem_append, List.mem_cons, List.mem_filter, not_or, not_and]
        at hmem hkept
      have hlines : k ∈ lines := by tauto
      exact hl k hlines (by simpa using hkept.1.2 hlines) hv

end Kept

/-! ## Blocks of both kinds -/

namespace Rule

variable {method url : String} {n : Nat}

theorem block_ne_nil {α : Type} {S : Script α} (hS : S.Lawful) (request : List α)
    (lines : List (List α)) (response : List α) : S.block request lines response ≠ [] := by
  have harrow := hS.write_ne_nil (List.cons_ne_nil '-' ['>'])
  simp [Script.block, arrow, harrow]

/-- What a text block is read as. -/
theorem parse_textBlock {request response body : List Char} {lines : List (List Char)}
    (h : textScript.IsBlock request lines response method url n body) :
    let rule := textScript.block request lines response
    (text (String.ofList rule)).parse = .ok (some
      ((lines.filterMap textScript.readHeader).foldl Directive.declare (.new method url n
        (.text (String.ofList (trimEnd isBlank (unindent (margin (pieces '\n' rule)) body))))))) := by
  intro rule
  obtain ⟨status, ho, hs⟩ := outline_dedent_block h
  have hparse := (Script.parse_eq_ok_iff Script.textScript_readsLines).2
    ⟨_, method, url, n, ho, rfl, hs, rfl⟩
  rw [parse, String.toList_ofList, parseText, if_neg (block_ne_nil textScript_lawful _ _ _), hparse]
  rfl

/-- What a block of bytes is read as. -/
theorem parse_byteBlock {request response body : List UInt8} {lines : List (List UInt8)}
    (h : byteScript.IsBlock request lines response method url n body) :
    (binary (byteScript.block request lines response)).parse = .ok (some
      ((lines.filterMap byteScript.readHeader).foldl Directive.declare (.new method url n
        (.binary (trimEnd isBlankByte body))))) := by
  obtain ⟨status, ho, hs⟩ := h.outline byteScript_lawful Script.byteScript_readsBlocks
  have hparse := (Script.parse_eq_ok_iff Script.byteScript_readsLines).2
    ⟨_, method, url, n, ho, rfl, hs, rfl⟩
  rw [parse, parseBytes, if_neg (block_ne_nil byteScript_lawful _ _ _), hparse]
  rfl

/-- With the same request, status and header lines, bodies are all that differs. -/
theorem alike_declared (hs : Headers) (b b' : Body) :
    AlikeButBody (.ok (some (hs.foldl Directive.declare (.new method url n b))))
      (.ok (some (hs.foldl Directive.declare (.new method url n b')))) := by
  have h := AlikeButBody.read (hs.foldl Directive.declare (.new method url n b)) b'
  rw [Directive.withBody_foldl_declare] at h
  exact h

/-- **Blocks are read as their lines say.** A rule of a request line, further lines and a response is
read as a directive with this method, URL, status and body, which has the headers and the content
type that the lines declare, in their order. A line declares a header if it holds a colon and shows
something behind the first one.

The other lines have no effect at all on a rule of bytes. Of a text rule they may change nothing but
the indentation of the lines of the body, as a part of the margin; and not even that if they are
blank, or indented as far as the rest of the rule. -/
theorem parse_block :
    (∀ line h, textScript.readHeader line = some h ↔ textScript.Declares line h) ∧
    (∀ line h, byteScript.readHeader line = some h ↔ byteScript.Declares line h) ∧
    (∀ request lines response method url n body,
      textScript.IsBlock request lines response method url n body →
      let rule := textScript.block request lines response
      ∃ d, (text (String.ofList rule)).parse = .ok (some d) ∧
        d.bare = .new method url n
          (.text (String.ofList (trimEnd isBlank (unindent (margin (pieces '\n' rule)) body)))) ∧
        d.DeclaredBy (lines.filterMap textScript.readHeader)) ∧
    (∀ request lines response method url n body,
      byteScript.IsBlock request lines response method url n body →
      ∃ d, (binary (byteScript.block request lines response)).parse = .ok (some d) ∧
        d.bare = .new method url n (.binary (trimEnd isBlankByte body)) ∧
        d.DeclaredBy (lines.filterMap byteScript.readHeader)) ∧
    (∀ request lines front response method url n body,
      textScript.IsBlock request (lines ++ [front]) response method url n body →
      let rule := textScript.block request (lines ++ [front]) response
      let rest := textScript.block request (textScript.kept lines ++ [front]) response
      AlikeButBody (text (String.ofList rule)).parse (text (String.ofList rest)).parse ∧
        ((∀ l ∈ lines, textScript.readHeader l = none → isBare l = false →
          margin (pieces '\n' rest) <+: indentOf l) →
        (text (String.ofList rule)).parse = (text (String.ofList rest)).parse)) ∧
    ∀ request lines front response method url n body,
      byteScript.IsBlock request (lines ++ [front]) response method url n body →
      (binary (byteScript.block request (lines ++ [front]) response)).parse =
        (binary (byteScript.block request (byteScript.kept lines ++ [front]) response)).parse := by
  refine ⟨Script.readHeader_eq_some_iff (by decide), Script.readHeader_eq_some_iff (by decide),
    ?_, ?_, ?_, ?_⟩
  · intro request lines response method url n body h rule
    exact ⟨_, parse_textBlock h, Directive.bare_foldl_declare _ _,
      Directive.declaredBy_foldl_declare _ _ _ _ _⟩
  · intro request lines response method url n body h
    exact ⟨_, parse_byteBlock h, Directive.bare_foldl_declare _ _,
      Directive.declaredBy_foldl_declare _ _ _ _ _⟩
  · intro request lines front response method url n body h rule rest
    have hread := parse_textBlock h
    have hrest := parse_textBlock h.kept
    rw [List.filterMap_append, Script.filterMap_kept, ← List.filterMap_append] at hrest
    rw [hread, hrest]
    constructor
    · exact alike_declared _ _ _
    · intro hl
      rw [margin_kept h hl]
  · intro request lines front response method url n body h
    rw [parse_byteBlock h, parse_byteBlock h.kept, List.filterMap_append, List.filterMap_append,
      Script.filterMap_kept]

/-- Header lines with and without values, two of one name and a line of another; and bytes that
write no text. -/
theorem parse_block_odd_lines :
    let request := "  GET  http://a.b ".toList
    let lines := ["  X-A: 1", "", "   X-B", "  X-A:", "  content-type: c", "\t", "   X-A : 2:3 ",
      "  Content-Type: d"].map String.toList
    let response := "\n   200:x\n    y\n".toList
    let rule := textScript.block request (lines ++ ["  ".toList]) response
    let rest := textScript.block request (textScript.kept lines ++ ["  ".toList]) response
    let d : Directive := ⟨"GET", "http://a.b", 200, .text "x\n  y",
      some [("X-A", "2:3"), ("content-type", "c")], some "d"⟩
    let bytes := [[0xFF], Utf8.encode "X-A: 1".toList, Utf8.encode "X-A".toList, [0xFF, 58, 0xFE]]
    let ofBytes := binary (byteScript.block (Utf8.encode request) bytes (Utf8.encode " 204".toList))
    let e : Directive := ⟨"GET", "http://a.b", 204, .binary [],
      some [("X-A", "1"), ("\uFFFD", "\uFFFD")], none⟩
    (text (String.ofList rule)).parse = .ok (some d) ∧
      d.DeclaredBy [("X-A", "1"), ("content-type", "c"), ("X-A", "2:3"), ("Content-Type", "d")] ∧
      (text (String.ofList rest)).parse = .ok (some d) ∧
      ofBytes.parse = .ok (some e) ∧ e.DeclaredBy [("X-A", "1"), ("\uFFFD", "\uFFFD")] := by
  intro request lines response rule rest d bytes ofBytes e
  obtain ⟨-, -, htext, hbytes, hrest, -⟩ := parse_block
  have h : textScript.IsBlock request (lines ++ ["  ".toList]) response "GET" "http://a.b" 200
      "x\n    y\n".toList := by decide +kernel
  have h' : byteScript.IsBlock (Utf8.encode request) bytes (Utf8.encode " 204".toList) "GET"
      "http://a.b" 204 [] := by decide +kernel
  have hd : (text (String.ofList rule)).parse = .ok (some d) := by decide +kernel
  have he : ofBytes.parse = .ok (some e) := by decide +kernel
  obtain ⟨d', hd', -, hdecl⟩ := htext _ _ _ _ _ _ _ h
  obtain ⟨e', he', -, hdecl'⟩ := hbytes _ _ _ _ _ _ _ h'
  have hdd : d' = d := Option.some.inj (Except.ok.inj (hd'.symm.trans hd))
  have hee : e' = e := Option.some.inj (Except.ok.inj (he'.symm.trans he))
  have hlines : (lines ++ ["  ".toList]).filterMap textScript.readHeader =
      [("X-A", "1"), ("content-type", "c"), ("X-A", "2:3"), ("Content-Type", "d")] := by
    decide +kernel
  have hlines' : bytes.filterMap byteScript.readHeader = [("X-A", "1"), ("\uFFFD", "\uFFFD")] := by
    decide +kernel
  have hequal := (hrest _ _ _ _ _ _ _ _ h).2 (by decide +kernel)
  exact ⟨hd, hdd ▸ hlines ▸ hdecl, hequal ▸ hd, he, hee ▸ hlines' ▸ hdecl'⟩

/-- A line that declares nothing and stands further to the left than the rest: with it, the body
keeps two spaces more. -/
theorem left_out_line_in_margin :
    let request := "  GET http://a.b".toList
    let response := " 200 :x\n    y".toList
    textScript.IsBlock request ["junk".toList, "  ".toList] response "GET" "http://a.b" 200
        "x\n    y".toList ∧
      textScript.kept ["junk".toList] = [] ∧
      (text (String.ofList (textScript.block request ["junk".toList, "  ".toList] response))).parse =
        .ok (some ⟨"GET", "http://a.b", 200, .text "x\n    y", none, none⟩) ∧
      (text (String.ofList (textScript.block request ["  ".toList] response))).parse =
        .ok (some ⟨"GET", "http://a.b", 200, .text "x\n  y", none, none⟩) := by
  decide +kernel

end Rule

end StubProxy
