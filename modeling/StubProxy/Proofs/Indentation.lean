import Mathlib.Data.List.Forall2
import StubProxy.Proofs.Blank
import StubProxy.Rule.Basic

/-!
# Indenting a block

A block may stand further to the right without saying anything else: all its lines with visible text
move by the same spaces and tabs, and the margin grows by them.

* `margin_indented`: the margin of an indented block.
* `dedent_indented`: without its margin it is the block that it was.
* `Rule.parse_indented`: so an indented rule is read as the rule that it was.
-/

namespace StubProxy.Text

variable {p l l' s t : List Char} {ls ls' : List (List Char)}

/-- A line and the same line moved by `p`. A line without visible text may become any other one. -/
inductive Indented (p : List Char) : List Char → List Char → Prop
  | bare {l l' : List Char} : isBare l → isBare l' → Indented p l l'
  | visible {l : List Char} : isBare l = false → Indented p l (p ++ l)

theorem isBare_append (hp : isBare p) (l : List Char) : isBare (p ++ l) = isBare l := by
  unfold isBare at hp ⊢
  rw [List.all_append, hp, Bool.true_and]

theorem indentOf_append (hp : isBare p) (l : List Char) : indentOf (p ++ l) = p ++ indentOf l :=
  List.takeWhile_append_of_pos (List.all_eq_true.1 hp)

/-! ## The margin -/

theorem commonStart_append (p i j : List Char) :
    commonStart (p ++ i) (p ++ j) = p ++ commonStart i j := by
  induction p with
  | nil => rfl
  | cons c p ih => rw [List.cons_append, List.cons_append, commonStart, if_pos rfl, ih]; rfl

theorem foldl_commonStart_append (p : List Char) (is : List (List Char)) (i : List Char) :
    (is.map (p ++ ·)).foldl commonStart (p ++ i) = p ++ is.foldl commonStart i := by
  induction is generalizing i with
  | nil => rfl
  | cons j is ih => rw [List.map_cons, List.foldl_cons, List.foldl_cons, commonStart_append, ih]

/-- The indentations that the margin is taken from all grow by `p`. -/
theorem indents_indented (hp : isBare p) (h : List.Forall₂ (Indented p) ls ls') :
    (ls'.filter fun l => !isBare l).map indentOf =
      ((ls.filter fun l => !isBare l).map indentOf).map (p ++ ·) := by
  induction h with
  | nil => rfl
  | cons hl _ ih =>
    cases hl with
    | bare hb hb' =>
      rw [List.filter_cons_of_neg (by simp [hb']), List.filter_cons_of_neg (by simp [hb]), ih]
    | visible hv =>
      have hv' := (isBare_append hp _).trans hv
      rw [List.filter_cons_of_pos (by simp [hv']), List.filter_cons_of_pos (by simp [hv]),
        List.map_cons, List.map_cons, List.map_cons, ih, indentOf_append hp]

/-- **The margin of an indented block** has grown by `p` if some line shows text. -/
theorem margin_indented (hp : isBare p) (h : List.Forall₂ (Indented p) ls ls') (hl : l ∈ ls)
    (hv : isBare l = false) : margin ls' = p ++ margin ls := by
  have hmem : l ∈ ls.filter fun l => !isBare l := List.mem_filter.2 ⟨hl, by simp [hv]⟩
  unfold margin
  rw [indents_indented hp h]
  cases hf : ls.filter fun l => !isBare l with
  | nil => rw [hf] at hmem; exact absurd hmem List.not_mem_nil
  | cons k ks => simp only [List.map_cons, foldl_commonStart_append]

/-! ## The block without it -/

theorem stripMargin_bare (hb : isBare l) (m : List Char) : stripMargin m l = [] := if_pos hb

theorem stripMargin_visible {m : List Char} (hv : isBare l = false) (hm : m <+: l) :
    stripMargin m l = l.drop m.length := by
  rw [stripMargin, if_neg (by simp [hv]), if_pos (List.isPrefixOf_iff_prefix.2 hm)]

/-- The margin starts every visible line, not only its indentation. -/
theorem margin_isPrefix_line (hl : l ∈ ls) (hv : isBare l = false) : margin ls <+: l :=
  (margin_isPrefix hl hv).trans (List.takeWhile_prefix _)

/-- Without their margins, the lines of an indented block are the lines of the block. -/
theorem map_stripMargin_indented (hp : isBare p) (h : List.Forall₂ (Indented p) ls ls') :
    ls'.map (stripMargin (margin ls')) = ls.map (stripMargin (margin ls)) := by
  have hmem : List.Forall₂ (fun k k' => k ∈ ls ∧ Indented p k k') ls ls' :=
    (List.forall₂_and_left ls ls').2 ⟨fun _ hk => hk, h⟩
  rw [eq_comm, ← List.forall₂_eq_eq_eq, List.forall₂_map_left_iff, List.forall₂_map_right_iff]
  refine hmem.imp ?_
  rintro k k' ⟨hk, hi⟩
  cases hi with
  | bare hb hb' => rw [stripMargin_bare hb, stripMargin_bare hb']
  | visible hv =>
    have hm := margin_isPrefix_line hk hv
    rw [margin_indented hp h hk hv, stripMargin_visible hv hm,
      stripMargin_visible ((isBare_append hp k).trans hv) ((List.prefix_append_right_inj p).2 hm),
      List.length_append, ← List.drop_drop, List.drop_left]

/-- **An indented block** is the block that it was without its margin. -/
theorem dedent_indented (hp : isBare p)
    (h : List.Forall₂ (Indented p) (pieces '\n' s) (pieces '\n' t)) : dedent t = dedent s := by
  simp only [dedent, map_stripMargin_indented hp h]

end StubProxy.Text

namespace StubProxy.Rule

open Text

/-- **Indentation does not matter.** A text rule is read as before, down to its body and to what an
error quotes, when all its lines with visible text are moved by the same spaces and tabs, and the
others hold any spaces and tabs. -/
theorem parse_indented (p : List Char) (hp : isBare p) (t t' : String)
    (h : List.Forall₂ (Indented p) (pieces '\n' t.toList) (pieces '\n' t'.toList))
    (ht : t ≠ "") (ht' : t' ≠ "") : (Rule.text t').parse = (Rule.text t).parse := by
  have hn : t.toList ≠ [] := by simpa using ht
  have hn' : t'.toList ≠ [] := by simpa using ht'
  rw [parse, parse, parseText, parseText, if_neg hn, if_neg hn', dedent_indented hp h]

/-- Tabs and spaces mixed, bare lines in front, between and behind, and a body of two lines. -/
theorem parse_indented_tabs :
    let t := "\t\n\tGET http://a.b\n\t X-A: 1\n  \n\t-> 200 :x\n\t  y\n"
    let t' := "\n \t\tGET http://a.b\n \t\t X-A: 1\n\n \t\t-> 200 :x\n \t\t  y\n   "
    (Rule.text t).parse.isOk ∧ (Rule.text t').parse = (Rule.text t).parse := by
  intro t t'
  have hp : pieces '\n' t.toList = ["\t".toList, "\tGET http://a.b".toList, "\t X-A: 1".toList,
      "  ".toList, "\t-> 200 :x".toList, "\t  y".toList, []] := by decide +kernel
  have hp' : pieces '\n' t'.toList = [[], " \t\tGET http://a.b".toList, " \t\t X-A: 1".toList,
      [], " \t\t-> 200 :x".toList, " \t\t  y".toList, "   ".toList] := by decide +kernel
  have h : List.Forall₂ (Indented " \t".toList) (pieces '\n' t.toList) (pieces '\n' t'.toList) := by
    rw [hp, hp']
    exact .cons (.bare rfl rfl) (.cons (.visible rfl) (.cons (.visible rfl) (.cons (.bare rfl rfl)
      (.cons (.visible rfl) (.cons (.visible rfl) (.cons (.bare rfl rfl) .nil))))))
  exact ⟨by decide +kernel, parse_indented _ (by decide) t t' h (by decide) (by decide)⟩

end StubProxy.Rule
