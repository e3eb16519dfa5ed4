import Mathlib.Data.List.TakeWhile
import StubProxy.Proofs.Indentation
import StubProxy.Proofs.Outline

/-!
# Lines without indentation

How far its lines are indented is nothing that a rule says: request line, header lines and status
are trimmed where they are read. So a rule may be compared with itself when all its lines stand
flush left, and then no margin is left to depend on the whole rule.

* `flush`: a text with the indentation of its lines gone.
* `flush_dedent`: whatever margin a text loses, its lines stand in the same way flush left.
* `Script.carries_flush`: with its lines flush left, a rule says the same.
* `readWord16_flush`: its status is the same number, or none for the same reason.
-/

namespace StubProxy.Text

variable {a s t mark l : List Char} {b : Bool} {c : Char}

/-- The text with the spaces and tabs gone that start a line. Its first line may be the rest of
one. -/
def flush (atStart : Bool) : List Char → List Char
  | [] => []
  | c :: s =>
    if c = '\n' then c :: flush true s
    else if atStart && isIndent c then flush true s
    else c :: flush false s

@[simp] theorem flush_nil (b : Bool) : flush b [] = [] := rfl

@[simp] theorem flush_lineFeed (b : Bool) (s : List Char) :
    flush b ('\n' :: s) = '\n' :: flush true s := if_pos rfl

theorem isBlank_of_isIndent (hc : isIndent c) : isBlank c := by
  cases hb : isBlank c with
  | true => rfl
  | false => exact absurd hc (by simp [isIndent_of_not_blank hb])

theorem ne_lineFeed_of_isIndent (hc : isIndent c) : c ≠ '\n' := by
  rintro rfl
  exact absurd hc (by decide)

theorem flush_indent (hc : isIndent c) (s : List Char) : flush true (c :: s) = flush true s := by
  rw [flush, if_neg (ne_lineFeed_of_isIndent hc), hc]
  rfl

/-- Within a line, and in front of it unless it is indented, a character stays. -/
theorem flush_kept (hn : c ≠ '\n') (hb : b = false ∨ isIndent c = false) (s : List Char) :
    flush b (c :: s) = c :: flush false s := by
  have hdrop : ¬ (b && isIndent c) = true := by
    rcases hb with rfl | hc
    · simp
    · simp [hc]
  rw [flush, if_neg hn, if_neg hdrop]

theorem ne_lineFeed_of_not_blank (hc : isBlank c = false) : c ≠ '\n' := by
  rintro rfl
  exact absurd hc (by decide)

theorem flush_visible (hc : isBlank c = false) (s : List Char) :
    flush b (c :: s) = c :: flush false s :=
  flush_kept (ne_lineFeed_of_not_blank hc) (.inr (isIndent_of_not_blank hc)) s

/-- Induction on a text as it is made flush left. -/
theorem flush_induction {P : Bool → List Char → Prop} (nil : ∀ b, P b [])
    (lineFeed : ∀ b s, P true s → P b ('\n' :: s))
    (indent : ∀ c s, isIndent c → P true s → P true (c :: s))
    (kept : ∀ b c s, c ≠ '\n' → b = false ∨ isIndent c = false → P false s → P b (c :: s))
    (b : Bool) (s : List Char) : P b s := by
  fun_induction flush b s with
  | case1 b => exact nil b
  | case2 b s ih => exact lineFeed b s ih
  | case3 b c s _ hi ih =>
    obtain ⟨rfl, hc⟩ := Bool.and_eq_true_iff.1 hi
    exact indent c s hc ih
  | case4 b c s hn hi ih =>
    have hb : b = false ∨ isIndent c = false := by simpa [Decidable.imp_iff_not_or] using hi
    exact kept b c s hn hb ih

/-- What follows a text is flush on its own; only whether a line starts there depends on the
text. -/
theorem exists_flush_append (b : Bool) (a : List Char) :
    ∃ b', ∀ s, flush b (a ++ s) = flush b a ++ flush b' s := by
  induction b, a using flush_induction with
  | nil b => exact ⟨b, fun _ => rfl⟩
  | lineFeed b a ih =>
    obtain ⟨b', h⟩ := ih
    refine ⟨b', fun s => ?_⟩
    rw [List.cons_append, flush_lineFeed, flush_lineFeed, h, List.cons_append]
  | indent c a hc ih =>
    obtain ⟨b', h⟩ := ih
    exact ⟨b', fun s => by rw [List.cons_append, flush_indent hc, flush_indent hc, h]⟩
  | kept b c a hn hb ih =>
    obtain ⟨b', h⟩ := ih
    refine ⟨b', fun s => ?_⟩
    rw [List.cons_append, flush_kept hn hb, flush_kept hn hb, h, List.cons_append]

/-- A visible character keeps its two sides apart. -/
theorem flush_append (hc : isBlank c = false) (b : Bool) (a s : List Char) :
    flush b (a ++ c :: s) = flush b a ++ c :: flush false s := by
  obtain ⟨b', h⟩ := exists_flush_append b a
  rw [h, flush_visible hc]

theorem mem_of_mem_flush (hc : c ∈ flush b s) : c ∈ s := by
  induction b, s using flush_induction with
  | nil b => exact hc
  | lineFeed b s ih =>
    rw [flush_lineFeed] at hc
    rcases List.mem_cons.1 hc with rfl | hc
    · exact List.mem_cons_self
    · exact List.mem_cons_of_mem _ (ih hc)
  | indent d s hd ih =>
    rw [flush_indent hd] at hc
    exact List.mem_cons_of_mem _ (ih hc)
  | kept b d s hn hb ih =>
    rw [flush_kept hn hb] at hc
    rcases List.mem_cons.1 hc with rfl | hc
    · exact List.mem_cons_self
    · exact List.mem_cons_of_mem _ (ih hc)

/-! ## Lines -/

/-- The lines of a text flush left. -/
theorem pieces_flush {p : List Char} {ps : List (List Char)} (h : pieces '\n' s = p :: ps) :
    pieces '\n' (flush b s) =
      (if b then p.dropWhile isIndent else p) :: ps.map (·.dropWhile isIndent) := by
  induction b, s using flush_induction generalizing p ps with
  | nil b =>
    obtain ⟨rfl, rfl⟩ := List.cons.inj h
    cases b <;> rfl
  | lineFeed b s ih =>
    obtain ⟨q, qs, hq⟩ := exists_pieces '\n' s
    rw [flush_lineFeed, pieces, if_pos rfl, ih hq]
    rw [pieces, if_pos rfl, hq] at h
    obtain ⟨rfl, rfl⟩ := List.cons.inj h
    cases b <;> rfl
  | indent c s hc ih =>
    obtain ⟨q, qs, hq⟩ := exists_pieces '\n' s
    rw [pieces, if_neg (ne_lineFeed_of_isIndent hc), hq] at h
    obtain ⟨rfl, rfl⟩ := List.cons.inj h
    rw [flush_indent hc, ih hq]
    simp [hc]
  | kept b c s hn hb ih =>
    obtain ⟨q, qs, hq⟩ := exists_pieces '\n' s
    rw [pieces, if_neg hn, hq] at h
    obtain ⟨rfl, rfl⟩ := List.cons.inj h
    rw [flush_kept hn hb, pieces, if_neg hn, ih hq]
    rcases hb with rfl | hc
    · rfl
    · cases b <;> simp [consFirst, hc]

theorem pieces_flush_start (s : List Char) :
    pieces '\n' (flush true s) = (pieces '\n' s).map (·.dropWhile isIndent) := by
  obtain ⟨p, ps, h⟩ := exists_pieces '\n' s
  rw [pieces_flush h, h]
  rfl

theorem mem_of_mem_stripMargin {m : List Char} (hc : c ∈ stripMargin m l) : c ∈ l := by
  unfold stripMargin at hc
  split at hc
  · exact absurd hc List.not_mem_nil
  · split at hc
    · exact List.mem_of_mem_drop hc
    · exact hc

theorem dropWhile_stripMargin {m : List Char} (hm : isBare l = false → m <+: indentOf l) :
    (stripMargin m l).dropWhile isIndent = l.dropWhile isIndent := by
  cases hv : isBare l with
  | true =>
    have hd : l.dropWhile isIndent = [] := List.dropWhile_eq_nil_iff.2 (List.all_eq_true.1 hv)
    rw [stripMargin_bare hv, hd]
    rfl
  | false =>
    have hml : m <+: l := (hm hv).trans (List.takeWhile_prefix _)
    have hi := isIndent_of_isPrefix (hm hv)
    obtain ⟨t, ht⟩ := hml
    rw [stripMargin_visible hv ⟨t, ht⟩, ← ht, List.drop_left, List.dropWhile_append_of_pos hi]

/-- The lines of a text without its margin. -/
theorem pieces_dedent (s : List Char) :
    pieces '\n' (dedent s) = (pieces '\n' s).map (stripMargin (margin (pieces '\n' s))) := by
  apply pieces_joinPieces (mt List.map_eq_nil_iff.1 (pieces_ne_nil '\n' s))
  intro k hk
  obtain ⟨l, hl, rfl⟩ := List.mem_map.1 hk
  exact fun hc => not_mem_of_mem_pieces hl (mem_of_mem_stripMargin hc)

/-- **Flush left, a text has no margin to lose.** -/
theorem flush_dedent (s : List Char) : flush true (dedent s) = flush true s := by
  rw [← joinPieces_pieces '\n' (flush true (dedent s)), ← joinPieces_pieces '\n' (flush true s),
    pieces_flush_start, pieces_flush_start, pieces_dedent, List.map_map]
  congr 1
  apply List.map_congr_left
  intro l hl
  exact dropWhile_stripMargin (margin_isPrefix hl)

/-! ## Blank ends -/

/-- A text with visible ends keeps them. -/
theorem flush_tight (hs : Tight isBlank s) (b : Bool) :
    flush b s = flush false s ∧ Tight isBlank (flush false s) := by
  cases s with
  | nil => exact ⟨rfl, hs⟩
  | cons c s =>
    have hc : isBlank c = false := hs.head c rfl
    refine ⟨by rw [flush_visible hc, flush_visible hc], ?_, ?_⟩
    · intro x hx
      rw [flush_visible hc] at hx
      exact hs.head x hx
    · intro x hx
      have hlast := List.dropLast_concat_getLast (List.cons_ne_nil c s)
      have hy := hs.last _ (List.getLast?_eq_some_getLast (List.cons_ne_nil c s))
      rw [← hlast, flush_append hy, flush_nil, List.getLast?_concat] at hx
      rwa [← Option.some.inj hx]

theorem trim_flush (b : Bool) (s : List Char) :
    trim isBlank (flush b s) = flush false (trim isBlank s) := by
  obtain ⟨u, v, hs, hu, hv, ht⟩ := trim_split isBlank s
  obtain ⟨b₁, h₁⟩ := exists_flush_append b u
  obtain ⟨b₂, h₂⟩ := exists_flush_append b₁ (trim isBlank s)
  obtain ⟨hm, htm⟩ := flush_tight ht b₁
  have hf : flush b s = flush b u ++ flush false (trim isBlank s) ++ flush b₂ v := by
    conv => lhs; rw [hs]
    rw [List.append_assoc, h₁, h₂, hm, List.append_assoc]
  rw [hf, trim_between (fun x hx => hu x (mem_of_mem_flush hx)) htm
    (fun x hx => hv x (mem_of_mem_flush hx))]

/-! ## Cuts at visible marks -/

theorem flush_mark (hm : ∀ c ∈ mark, isBlank c = false) (s : List Char) :
    flush false (mark ++ s) = mark ++ flush false s := by
  induction mark with
  | nil => rfl
  | cons c mark ih =>
    rw [List.cons_append, flush_visible (hm c List.mem_cons_self),
      ih fun d hd => hm d (List.mem_cons_of_mem _ hd)]
    rfl

theorem isPrefix_flush (hm : ∀ c ∈ mark, isBlank c = false) (s : List Char) :
    mark <+: flush false s ↔ mark <+: s := by
  induction mark generalizing s with
  | nil => simp
  | cons m mark ih =>
    cases s with
    | nil => rfl
    | cons c s =>
      by_cases hn : c = '\n'
      · subst hn
        have hne : m ≠ '\n' := ne_lineFeed_of_not_blank (hm m List.mem_cons_self)
        rw [flush_lineFeed, List.cons_prefix_cons, List.cons_prefix_cons]
        simp [hne]
      · rw [flush_kept hn (.inl rfl), List.cons_prefix_cons, List.cons_prefix_cons,
          ih fun d hd => hm d (List.mem_cons_of_mem _ hd)]

/-- The search for a mark without blanks goes past a blank. -/
theorem splitFirst_blank (hne : mark ≠ []) (hm : ∀ c ∈ mark, isBlank c = false) (hc : isBlank c)
    (s : List Char) :
    splitFirst mark (c :: s) = (splitFirst mark s).map fun p => (c :: p.1, p.2) := by
  have ha : ∀ x ∈ [c], mark.head? ≠ some x := by
    intro x hx h
    obtain rfl := List.mem_singleton.1 hx
    exact absurd (hm x (List.mem_of_mem_head? h)) (by simp [hc])
  exact splitFirst_skip ha hne

/-- A mark without blanks is found at the same place. -/
theorem splitFirst_flush (hne : mark ≠ []) (hm : ∀ c ∈ mark, isBlank c = false) (b : Bool)
    (s : List Char) : splitFirst mark (flush b s) =
      (splitFirst mark s).map fun p => (flush b p.1, flush false p.2) := by
  induction b, s using flush_induction with
  | nil b => simp [splitFirst, hne]
  | lineFeed b s ih =>
    have hblank : isBlank '\n' := by decide
    rw [flush_lineFeed, splitFirst_blank hne hm hblank, splitFirst_blank hne hm hblank, ih,
      Option.map_map, Option.map_map]
    simp [Function.comp_def]
  | indent d s hd ih =>
    rw [flush_indent hd, ih, splitFirst_blank hne hm (isBlank_of_isIndent hd), Option.map_map]
    simp [Function.comp_def, flush_indent hd]
  | kept b d s hn hb ih =>
    have hp : mark <+: d :: flush false s ↔ mark <+: d :: s := by
      rw [← flush_kept hn (.inl rfl), isPrefix_flush hm]
    rw [flush_kept hn hb]
    by_cases h : mark <+: d :: s
    · obtain ⟨t, ht⟩ := h
      rw [← flush_kept hn (.inl rfl), ← ht, flush_mark hm, splitFirst_mark, splitFirst_mark]
      rfl
    · rw [splitFirst_cons (mt hp.1 h), splitFirst_cons h, ih, Option.map_map, Option.map_map]
      simp [Function.comp_def, flush_kept hn hb]

end StubProxy.Text

namespace StubProxy

open Text

variable {s : List Char}

theorem trim_dropWhile_isIndent (l : List Char) :
    trim isBlank (l.dropWhile isIndent) = trim isBlank l := by
  have hb : ∀ c ∈ l.takeWhile isIndent, isBlank c := fun c hc =>
    isBlank_of_isIndent (List.all_eq_true.1 List.all_takeWhile c hc)
  conv => rhs; rw [← List.takeWhile_append_dropWhile (p := isIndent) (l := l)]
  rw [trim_blank_append hb]

/-- The arrow is visible. -/
theorem not_blank_of_mem_arrow : ∀ c ∈ arrow, isBlank c = false :=
  List.forall_mem_cons.2 ⟨by decide, List.forall_mem_singleton.2 (by decide)⟩

/-- **With its lines flush left, a rule says the same** as far as it is not its body. -/
theorem Script.carries_flush : textScript.Carries textScript (flush false) where
  split s := splitFirst_flush (List.cons_ne_nil _ _) not_blank_of_mem_arrow false s
  splitAtColon s := by
    have hc : ∀ c ∈ [':'], Text.isBlank c = false := List.forall_mem_singleton.2 (by decide)
    have h := splitFirst_flush (List.cons_ne_nil ':' []) hc false s
    unfold Script.splitAtColon splitAtSymbol
    rw [show textScript.colon = ':' from rfl, h]
    cases splitFirst [':'] s <;> rfl
  firstWords s := by
    obtain ⟨p, ps, h⟩ := exists_pieces '\n' s
    simp only [Script.firstWords, show textScript.lineFeed = '\n' from rfl, pieces_flush h, h]
    rfl
  declared s := by
    obtain ⟨p, ps, h⟩ := exists_pieces '\n' s
    have hr : ∀ l, textScript.readHeader (l.dropWhile isIndent) = textScript.readHeader l := by
      intro l
      have ht : textScript.trim (l.dropWhile isIndent) = textScript.trim l :=
        trim_dropWhile_isIndent l
      simp only [Script.readHeader, ht]
    simp only [Script.declared, show textScript.lineFeed = '\n' from rfl, pieces_flush h, h,
      List.tail_cons, List.filterMap_map, Function.comp_def, hr]

/-! ## The status -/

theorem flush_of_not_mem (hn : '\n' ∉ s) : flush false s = s := by
  induction s with
  | nil => rfl
  | cons c s ih =>
    rw [List.mem_cons, not_or] at hn
    rw [flush_kept (Ne.symm hn.1) (.inl rfl), ih hn.2]

/-- A line break ends a number, with whatever indentation behind it. -/
theorem readWord16_flush (s : List Char) : readWord16 (flush false s) = readWord16 s := by
  by_cases hn : '\n' ∈ s
  · obtain ⟨a, b, rfl, ha⟩ := List.eq_append_cons_of_mem hn
    obtain ⟨b', hb'⟩ := exists_flush_append false a
    rw [hb', flush_of_not_mem ha, flush_lineFeed]
    exact readWord16_stop (by decide) (by decide) (by decide) (by decide) a _ _
  · rw [flush_of_not_mem hn]

end StubProxy
