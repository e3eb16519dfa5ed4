import StubProxy.Proofs.FlushLeft

/-!
# The longest margin

Dedenting takes one margin off all the lines with visible text, the longest that they share. The
lines without visible text come out empty, and none is lost or added.

* `Outdented`: a line and what is left of it without a margin.
* `LoseMargin`: lines that lose a margin which could not be longer.
* `margin_maximal`: no space or tab is left that all the visible lines start with.
* `dedent_longest`: dedenting is losing the longest margin, and once is enough.
-/

namespace StubProxy.Text

variable {m l o : List Char} {ls os : List (List Char)}

/-- A line, and what is left of it without the margin `m`. -/
inductive Outdented (m : List Char) : List Char → List Char → Prop
  | bare {l : List Char} : isBare l → Outdented m l []
  | visible {l : List Char} : isBare (m ++ l) = false → Outdented m (m ++ l) l

/-- The lines `ls` lose the margin `m`, and no longer one would come off all those with visible
text. -/
structure LoseMargin (m : List Char) (ls os : List (List Char)) : Prop where
  bare : isBare m
  lines : List.Forall₂ (Outdented m) ls os
  maximal : ∀ c, isIndent c → (∃ l ∈ ls, isBare l = false) →
    ∃ p ∈ ls.zip os, isBare p.1 = false ∧ p.2.head? ≠ some c

/-- Without a visible line there is no margin. -/
theorem margin_of_bare (h : ∀ l ∈ ls, isBare l) : margin ls = [] := by
  have hnone : (ls.filter fun l => !isBare l) = [] := by
    apply List.filter_eq_nil_iff.2
    intro l hl
    simp [h l hl]
  unfold margin
  rw [hnone]
  rfl

/-- The margin holds spaces and tabs only. -/
theorem isBare_margin (ls : List (List Char)) : isBare (margin ls) := by
  by_cases hall : ∀ l ∈ ls, isBare l
  · rw [margin_of_bare hall]
    rfl
  · push Not at hall
    obtain ⟨l, hl, hb⟩ := hall
    have hm := margin_isPrefix hl (eq_false_of_ne_true hb)
    exact List.all_eq_true.2 (isIndent_of_isPrefix hm)

/-- The margin comes off every line; no line is kept as it is because it does not fit. -/
theorem outdented_stripMargin (hl : l ∈ ls) : Outdented (margin ls) l (stripMargin (margin ls) l) := by
  cases hv : isBare l with
  | true =>
    rw [stripMargin_bare hv]
    exact .bare hv
  | false =>
    have hm : margin ls <+: l := margin_isPrefix_line hl hv
    rw [stripMargin_visible hv hm]
    obtain ⟨t, ht⟩ := hm
    rw [← ht] at hv
    rw [← ht, List.drop_left]
    exact .visible hv

/-- Nothing is left of a line without visible text. -/
theorem Outdented.eq_nil (h : Outdented m l o) (hb : isBare l) : o = [] := by
  cases h with
  | bare _ => rfl
  | visible hv =>
    rw [hb] at hv
    cases hv

/-- A visible line keeps its indentation behind the margin. -/
theorem Outdented.isPrefix_indentOf (h : Outdented m l o) (hm : isBare m) (hv : isBare l = false) :
    m ++ indentOf o = indentOf l := by
  cases h with
  | bare hb =>
    rw [hb] at hv
    cases hv
  | visible _ => exact (indentOf_append hm o).symm

/-- **The margin is maximal**: no space or tab starts all that is left of the visible lines. -/
theorem margin_maximal {c : Char} (hc : isIndent c) (hv : ∃ l ∈ ls, isBare l = false) :
    ∃ l ∈ ls, isBare l = false ∧ (stripMargin (margin ls) l).head? ≠ some c := by
  by_contra hall
  push Not at hall
  obtain ⟨l, hl, hb⟩ := hv
  -- otherwise the margin could be longer by `c`
  have hlonger : margin ls ++ [c] <+: margin ls := by
    refine (isPrefix_margin_iff hl hb).2 ?_
    intro k hk hkb
    obtain ⟨t, ht⟩ := List.head?_eq_some_iff.1 (hall k hk hkb)
    have hindent := (outdented_stripMargin hk).isPrefix_indentOf (isBare_margin ls) hkb
    have hstart : indentOf (c :: t) = c :: indentOf t := List.takeWhile_cons_of_pos hc
    rw [ht, hstart] at hindent
    exact ⟨indentOf t, by rw [← hindent, List.append_assoc]; rfl⟩
  have hlen := hlonger.length_le
  rw [List.length_append, List.length_singleton] at hlen
  omega

/-- The lines of a text lose their margin, and these are the lines that come out. -/
theorem loseMargin_dedent (s : List Char) :
    LoseMargin (margin (pieces '\n' s)) (pieces '\n' s) (pieces '\n' (dedent s)) := by
  rw [pieces_dedent]
  refine ⟨isBare_margin _, ?_, ?_⟩
  · rw [List.forall₂_map_right_iff, List.forall₂_same]
    intro l hl
    exact outdented_stripMargin hl
  · intro c hc hv
    obtain ⟨l, hl, hb, hne⟩ := margin_maximal hc hv
    rw [← List.map_prod_left_eq_zip]
    exact ⟨_, List.mem_map_of_mem hl, hb, hne⟩

/-- Read from right to left, losing a margin is being indented by it. -/
theorem Outdented.indented (h : Outdented m l o) (hm : isBare m) : Indented m o l := by
  cases h with
  | bare hb => exact .bare rfl hb
  | visible hv =>
    rw [isBare_append hm] at hv
    exact .visible hv

/-- **Dedenting twice** is dedenting once. -/
theorem LoseMargin.dedent_eq {s t : List Char} (h : LoseMargin m (pieces '\n' s) (pieces '\n' t)) :
    dedent s = dedent t := by
  apply dedent_indented h.bare
  exact h.lines.flip.imp fun l o hlo => hlo.indented h.bare

/-- **Dedenting takes off the longest common margin.** The text keeps its number of lines. There is a
margin of spaces and tabs such that each line of spaces and tabs only comes out empty, each other line
is the margin followed by what comes out of it, and no space or tab starts all of the latter. Hence
dedenting a second time changes nothing. -/
theorem dedent_longest (s : List Char) :
    (pieces '\n' (dedent s)).length = (pieces '\n' s).length ∧
      (∃ m, LoseMargin m (pieces '\n' s) (pieces '\n' (dedent s))) ∧
      dedent (dedent s) = dedent s := by
  have hlose := loseMargin_dedent s
  exact ⟨hlose.lines.length_eq.symm, ⟨_, hlose⟩, hlose.dedent_eq.symm⟩

/-- Tabs and spaces mixed, a bare line longer than the margin, and an unindented end. -/
example : dedent "\t  a\n \n\t \t\n\t\n\t  \tb\n\t x\n".toList = " a\n\n\n\n \tb\nx\n".toList := by
  decide +kernel

end StubProxy.Text
