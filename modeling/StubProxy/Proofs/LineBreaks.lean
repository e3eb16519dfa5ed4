import StubProxy.Proofs.LongestMargin
import StubProxy.Proofs.Lossy

/-!
# Two ways to break a line

A line may end with a line feed alone or with a carriage return in front of it. Cuts at visible marks,
trimming and numbers do not see which it is, and neither does any reader of lines.

* `crlf`: a text with a carriage return in front of every line feed.
* `pieces_crlf`, `lines_crlf`: its lines.
* `trim_crlf`, `splitFirst_crlf`: trimming and cutting at a visible mark.
* `readWord16_crlf`, `Utf8.decodeLossy_crlf`: numbers, and bytes that are read as text.
* `flush_crlf`, `dedent_crlf`: indentation. A line of spaces and tabs becomes visible by its carriage
  return, so that a margin may get shorter; flush left the text is the same, and so it is without a
  margin.
-/

namespace StubProxy.Text

variable {α : Type} [DecidableEq α] {lf cr : α} {p : α → Bool} {s mark : List α}

/-- The text with a carriage return in front of every line feed. -/
def crlf (lf cr : α) (s : List α) : List α := s.flatMap fun x => if x = lf then [cr, lf] else [x]

@[simp] theorem crlf_nil (lf cr : α) : crlf lf cr [] = [] := rfl

@[simp] theorem crlf_lineFeed (lf cr : α) (s : List α) :
    crlf lf cr (lf :: s) = cr :: lf :: crlf lf cr s := by
  simp [crlf]

theorem crlf_cons {x : α} (hx : x ≠ lf) (s : List α) : crlf lf cr (x :: s) = x :: crlf lf cr s := by
  simp [crlf, hx]

theorem crlf_append (lf cr : α) (s t : List α) :
    crlf lf cr (s ++ t) = crlf lf cr s ++ crlf lf cr t := List.flatMap_append

theorem crlf_of_not_mem (h : lf ∉ s) : crlf lf cr s = s := by
  induction s with
  | nil => rfl
  | cons x s ih =>
    rw [List.mem_cons, not_or] at h
    rw [crlf_cons (Ne.symm h.1), ih h.2]

theorem crlf_eq_nil : crlf lf cr s = [] ↔ s = [] := by
  cases s with
  | nil => simp
  | cons x s => by_cases hx : x = lf <;> simp [crlf, hx]

theorem mem_crlf {x : α} (hx : x ∈ crlf lf cr s) : x ∈ s ∨ x = cr := by
  obtain ⟨y, hy, hxy⟩ := List.mem_flatMap.1 hx
  split at hxy
  · rename_i hlf
    rcases List.mem_cons.1 hxy with h | h
    · exact .inr h
    · obtain rfl := List.mem_singleton.1 h
      exact .inl (hlf ▸ hy)
  · obtain rfl := List.mem_singleton.1 hxy
    exact .inl hy

/-! ## Lines -/

/-- Ended lines end anew. -/
theorem crlf_ended {ls : List (List α)} (hl : ∀ l ∈ ls, lf ∉ l) :
    crlf lf cr (ls.flatMap (· ++ [lf])) = (ls.map (· ++ [cr])).flatMap (· ++ [lf]) := by
  induction ls with
  | nil => rfl
  | cons l ls ih =>
    rw [List.forall_mem_cons] at hl
    rw [List.flatMap_cons, crlf_append, ih hl.2, crlf_append, crlf_of_not_mem hl.1, List.map_cons,
      List.flatMap_cons]
    simp

/-- **The lines of the text**, each but the last with a carriage return. -/
theorem pieces_crlf (hne : cr ≠ lf) {ps : List (List α)} {q : List α} (h : pieces lf s = ps ++ [q]) :
    pieces lf (crlf lf cr s) = ps.map (· ++ [cr]) ++ [q] := by
  have hno : ∀ l ∈ ps ++ [q], lf ∉ l := fun l hl => not_mem_of_mem_pieces (h ▸ hl)
  have hps : ∀ l ∈ ps, lf ∉ l := fun l hl => hno l (List.mem_append_left _ hl)
  have hq : lf ∉ q := hno q (by simp)
  have hs := joinPieces_pieces lf s
  rw [h, joinPieces_append, joinPieces] at hs
  have hended : ∀ l ∈ ps.map (· ++ [cr]), lf ∉ l := by
    rw [List.forall_mem_map]
    intro l hl
    simp [hps l hl, hne.symm]
  rw [← hs, crlf_append, crlf_ended hps, crlf_of_not_mem hq, pieces_ended hended,
    pieces_of_not_mem hq]

/-- A line of the text is a line of the original, or one with a carriage return behind it. -/
theorem mem_pieces_crlf (hne : cr ≠ lf) {l : List α} (hl : l ∈ pieces lf (crlf lf cr s)) :
    ∃ k ∈ pieces lf s, l = k ++ [cr] ∨ l = k := by
  obtain ⟨ps, q, h⟩ := exists_last_piece lf s
  rw [pieces_crlf hne h, List.mem_append, List.mem_map] at hl
  rw [h]
  rcases hl with ⟨k, hk, rfl⟩ | hl
  · exact ⟨k, List.mem_append_left _ hk, .inl rfl⟩
  · exact ⟨l, List.mem_append_right _ hl, .inr rfl⟩

/-- A line of the original is a line of the text, or it is one with a carriage return behind it. -/
theorem mem_pieces_of_crlf (hne : cr ≠ lf) {k : List α} (hk : k ∈ pieces lf s) :
    k ++ [cr] ∈ pieces lf (crlf lf cr s) ∨ k ∈ pieces lf (crlf lf cr s) := by
  obtain ⟨ps, q, h⟩ := exists_last_piece lf s
  rw [h] at hk
  rw [pieces_crlf hne h, List.mem_append, List.mem_append]
  rcases List.mem_append.1 hk with hk | hk
  · exact .inl (.inl (List.mem_map_of_mem hk))
  · exact .inr (.inr hk)

/-- **Reading lines** undoes it. -/
theorem lines_crlf (hne : cr ≠ lf) (hcr : cr ∉ s) : lines lf cr (crlf lf cr s) = lines lf cr s := by
  obtain ⟨ps, q, h⟩ := exists_last_piece lf s
  have hlast : ∀ l ∈ ps, l.getLast? ≠ some cr := by
    intro l hl hc
    have hmem : l ∈ pieces lf s := by
      rw [h]
      exact List.mem_append_left _ hl
    exact hcr (mem_of_mem_pieces hmem cr (List.mem_of_getLast? hc))
  have hdrop : (ps.map (· ++ [cr])).map (dropLastIf cr) = ps := by
    rw [List.map_map]
    conv => rhs; rw [← List.map_id ps]
    apply List.map_congr_left
    intro l _
    simp [dropLastIf]
  rw [lines_of_pieces (pieces_crlf hne h), lines_of_pieces h, hdrop, map_dropLastIf hlast]

/-! ## Blank ends -/

/-- A visible character is no line feed. -/
theorem crlf_visible (hl : p lf) {x : α} (hx : p x = false) (s : List α) :
    crlf lf cr (x :: s) = x :: crlf lf cr s := by
  apply crlf_cons
  rintro rfl
  rw [hl] at hx
  cases hx

theorem tight_crlf (hl : p lf) (hs : Tight p s) : Tight p (crlf lf cr s) := by
  constructor
  · intro x hx
    cases s with
    | nil => cases hx
    | cons y s =>
      have hy : p y = false := hs.head y rfl
      rw [crlf_visible hl hy] at hx
      exact hs.head x hx
  · intro x hx
    rcases List.eq_nil_or_concat s with rfl | ⟨s', y, rfl⟩
    · cases hx
    · have hy : p y = false := hs.last y (by simp)
      rw [List.concat_eq_append, crlf_append, crlf_visible hl hy, crlf_nil,
        List.getLast?_concat] at hx
      exact (Option.some.inj hx) ▸ hy

/-- **Blank ends** go before or after. -/
theorem trim_crlf (hl : p lf) (hc : p cr) (s : List α) :
    trim p (crlf lf cr s) = crlf lf cr (trim p s) := by
  obtain ⟨u, v, hs, hu, hv, ht⟩ := trim_split p s
  have hblank : ∀ {w : List α}, (∀ x ∈ w, p x) → ∀ x ∈ crlf lf cr w, p x := by
    intro w hw x hx
    rcases mem_crlf hx with hx | rfl
    · exact hw x hx
    · exact hc
  conv => lhs; rw [hs]
  rw [crlf_append, crlf_append, trim_between (hblank hu) (tight_crlf hl ht) (hblank hv)]

/-! ## Cuts at visible marks -/

theorem isPrefix_crlf (hl : lf ∉ mark) (hc : cr ∉ mark) (s : List α) :
    mark <+: crlf lf cr s ↔ mark <+: s := by
  induction mark generalizing s with
  | nil => simp
  | cons m mark ih =>
    rw [List.mem_cons, not_or] at hl hc
    cases s with
    | nil => rfl
    | cons x s =>
      by_cases hx : x = lf
      · subst hx
        rw [crlf_lineFeed, List.cons_prefix_cons, List.cons_prefix_cons]
        simp [Ne.symm hl.1, Ne.symm hc.1]
      · rw [crlf_cons hx, List.cons_prefix_cons, List.cons_prefix_cons, ih hl.2 hc.2]

/-- **A mark within a line** is found at the same place. -/
theorem splitFirst_crlf (hn : mark ≠ []) (hl : lf ∉ mark) (hc : cr ∉ mark) (s : List α) :
    splitFirst mark (crlf lf cr s) =
      (splitFirst mark s).map fun q => (crlf lf cr q.1, crlf lf cr q.2) := by
  -- neither symbol of a line break starts the mark
  have hskip : ∀ x, x = lf ∨ x = cr → mark.head? ≠ some x := by
    intro x hx h
    rcases hx with rfl | rfl
    · exact hl (List.mem_of_mem_head? h)
    · exact hc (List.mem_of_mem_head? h)
  induction s with
  | nil => simp [splitFirst, hn]
  | cons x s ih =>
    by_cases hx : x = lf
    · subst hx
      have hone := splitFirst_skip (a := [x]) (b := s) (by simpa using hskip x (.inl rfl)) hn
      have htwo := splitFirst_skip (a := [cr, x]) (b := crlf x cr s)
        (by simpa using ⟨hskip cr (.inr rfl), hskip x (.inl rfl)⟩) hn
      simp only [List.cons_append, List.nil_append] at hone htwo
      rw [crlf_lineFeed, htwo, hone, ih, Option.map_map, Option.map_map]
      simp [Function.comp_def]
    · by_cases hp : mark <+: x :: s
      · obtain ⟨t, ht⟩ := hp
        rw [← ht, crlf_append, crlf_of_not_mem hl, splitFirst_mark, splitFirst_mark]
        rfl
      · have hp' : ¬ mark <+: x :: crlf lf cr s := by
          rwa [← crlf_cons hx, isPrefix_crlf hl hc]
        rw [crlf_cons hx, splitFirst_cons hp', splitFirst_cons hp, ih, Option.map_map,
          Option.map_map]
        simp [Function.comp_def, crlf_cons hx]

/-! ## Numbers and decoded bytes -/

/-- Either line break ends a number. -/
theorem readWord16_crlf (s : List Char) : readWord16 (crlf '\n' '\r' s) = readWord16 s := by
  by_cases hn : '\n' ∈ s
  · obtain ⟨a, b, rfl, ha⟩ := List.eq_append_cons_of_mem hn
    rw [crlf_append, crlf_of_not_mem ha, crlf_lineFeed]
    exact readWord16_stop (by decide) (by decide) (by decide) (by decide) a _ _
  · rw [crlf_of_not_mem hn]

/-- Line breaks are decoded as they are. -/
theorem Utf8.decodeLossy_crlf (b : List UInt8) :
    decodeLossy (crlf 10 13 b) = crlf '\n' '\r' (decodeLossy b) := by
  have hlf : asciiChar 10 = '\n' := rfl
  have hcr : asciiChar 13 = '\r' := rfl
  induction b using ascii_induction with
  | beyond x hx =>
    rw [crlf_of_not_mem (hx.not_mem (by decide)), crlf_of_not_mem]
    rw [← hlf]
    exact hx.not_mem_decodeLossy (by decide)
  | ascii x a y hx ha ih =>
    have hx' : '\n' ∉ decodeLossy x := by
      rw [← hlf]
      exact hx.not_mem_decodeLossy (by decide)
    rw [decodeLossy_append ha, crlf_append, crlf_append, crlf_of_not_mem (hx.not_mem (by decide)),
      crlf_of_not_mem hx']
    by_cases h : a = 10
    · subst h
      rw [crlf_lineFeed, hlf, crlf_lineFeed, decodeLossy_append (by decide),
        decodeLossy_cons (by decide), ih]
      rfl
    · have h' : asciiChar a ≠ '\n' := by
        rw [← hlf]
        exact mt (asciiChar_inj ha (by decide)).1 h
      rw [crlf_cons h, crlf_cons h', decodeLossy_append ha, ih]

/-! ## Indentation -/

/-- **Flush left**, it makes no difference which indentation the text had. -/
theorem flush_crlf (b : Bool) (s : List Char) :
    flush b (crlf '\n' '\r' s) = crlf '\n' '\r' (flush b s) := by
  induction b, s using flush_induction with
  | nil b => rfl
  | lineFeed b s ih =>
    have hcr : isIndent '\r' = false := by decide
    rw [crlf_lineFeed, flush_kept (by decide) (.inr hcr), flush_lineFeed, flush_lineFeed,
      crlf_lineFeed, ih]
  | indent c s hc ih =>
    rw [crlf_cons (ne_lineFeed_of_isIndent hc), flush_indent hc, flush_indent hc, ih]
  | kept b c s hn hb ih =>
    rw [crlf_cons hn, flush_kept hn hb, flush_kept hn hb, crlf_cons hn, ih]

/-- A text that dedenting leaves as it is has no margin, and its bare lines are empty. -/
theorem margin_of_dedent_eq {s : List Char} (h : dedent s = s) :
    margin (pieces '\n' s) = [] ∧ ∀ l ∈ pieces '\n' s, isBare l → l = [] := by
  have hlines := (loseMargin_dedent s).lines
  rw [h, List.forall₂_same] at hlines
  constructor
  · by_cases hall : ∀ l ∈ pieces '\n' s, isBare l
    · exact margin_of_bare hall
    · push Not at hall
      obtain ⟨l, hl, hb⟩ := hall
      have hout := (hlines l hl).isPrefix_indentOf (isBare_margin _) (eq_false_of_ne_true hb)
      simpa using hout
  · intro l hl hb
    exact (hlines l hl).eq_nil hb

/-- A carriage return makes a line visible and does not indent it. -/
theorem visible_cr (l : List Char) :
    isBare (l ++ ['\r']) = false ∧ indentOf (l ++ ['\r']) = indentOf l := by
  have hcr : isIndent '\r' = false := by decide
  constructor
  · unfold isBare
    rw [List.all_append]
    simp [hcr]
  · unfold indentOf
    rw [List.takeWhile_append, List.takeWhile_cons_of_neg (by simp [hcr])]
    split
    · rename_i hlen
      rw [List.append_nil, (List.takeWhile_prefix isIndent).eq_of_length hlen]
    · rfl

/-- **Without a margin** the text has none either. -/
theorem dedent_crlf {s : List Char} (h : dedent s = s) :
    dedent (crlf '\n' '\r' s) = crlf '\n' '\r' s := by
  have hne : '\r' ≠ '\n' := by decide
  obtain ⟨hm, hb⟩ := margin_of_dedent_eq h
  apply dedent_of_margin_nil
  · by_cases hall : ∀ k ∈ pieces '\n' s, isBare k
    · -- all lines are empty, and those that become visible start with the carriage return
      by_cases hvis : ∀ l ∈ pieces '\n' (crlf '\n' '\r' s), isBare l
      · exact margin_of_bare hvis
      · push Not at hvis
        obtain ⟨l, hl, hv⟩ := hvis
        have hstart := margin_isPrefix hl (eq_false_of_ne_true hv)
        obtain ⟨k, hk, rfl | rfl⟩ := mem_pieces_crlf hne hl
        · rw [(visible_cr k).2, hb k hk (hall k hk)] at hstart
          exact List.prefix_nil.1 hstart
        · exact absurd (hall l hk) hv
    · push Not at hall
      obtain ⟨l, hl, hv⟩ := hall
      have hle : margin (pieces '\n' (crlf '\n' '\r' s)) <+: margin (pieces '\n' s) := by
        refine (isPrefix_margin_iff hl (eq_false_of_ne_true hv)).2 ?_
        intro k hk hkv
        rcases mem_pieces_of_crlf hne hk with hk | hk
        · rw [← (visible_cr k).2]
          exact margin_isPrefix hk (visible_cr k).1
        · exact margin_isPrefix hk hkv
      rw [hm] at hle
      exact List.prefix_nil.1 hle
  · intro l hl hbare
    obtain ⟨k, hk, rfl | rfl⟩ := mem_pieces_crlf hne hl
    · rw [(visible_cr k).1] at hbare
      cases hbare
    · exact hb l hk hbare

end StubProxy.Text
