import StubProxy.Proofs.Split
import StubProxy.Text.Margin

/-!
# Blank ends and margins

* `trim_split`, `trim_between`: trimming takes the blanks off both ends and nothing else.
* `trim_stop_end`, `CutAt.dropWhile`: what trimming does on either side of a visible mark.
* `isPrefix_margin_iff`: the margin is the longest indentation that visible lines share.
* `dedent_eq_self`: a block stays as it is when some line with visible text is not indented and no
  line holds only spaces and tabs.
-/

namespace StubProxy.Text

variable {α : Type} {p : α → Bool} {a b m s : List α}

/-! ## Trimming -/

/-- Neither end of the text satisfies `p`. -/
structure Tight (p : α → Bool) (s : List α) : Prop where
  head : ∀ x, s.head? = some x → p x = false
  last : ∀ x, s.getLast? = some x → p x = false

/-- Only the ends count. -/
theorem tight_of_ends (ha : a ≠ []) (hh : ∀ x, a.head? = some x → p x = false) (hb : b ≠ [])
    (hl : ∀ x, b.getLast? = some x → p x = false) : Tight p (a ++ m ++ b) := by
  constructor
  · intro x hx
    apply hh x
    cases a with
    | nil => exact absurd rfl ha
    | cons y a => simpa using hx
  · intro x hx
    apply hl x
    rw [List.getLast?_append] at hx
    cases h : b.getLast? with
    | none => exact absurd (List.getLast?_eq_none_iff.1 h) hb
    | some y => simpa [h] using hx

theorem head_concat {c : α} (hs : ∀ x, s.head? = some x → p x = false) (hc : p c = false) :
    ∀ x, (s ++ [c]).head? = some x → p x = false := by
  intro x hx
  cases s with
  | nil =>
    obtain rfl : c = x := Option.some.inj hx
    exact hc
  | cons y s => exact hs x hx

theorem last_cons {c : α} (hs : ∀ x, s.getLast? = some x → p x = false) (hc : p c = false) :
    ∀ x, (c :: s).getLast? = some x → p x = false := by
  intro x hx
  rw [List.getLast?_cons] at hx
  cases h : s.getLast? with
  | none =>
    obtain rfl : c = x := by simpa [h] using hx
    exact hc
  | some y =>
    obtain rfl : y = x := by simpa [h] using hx
    exact hs y h

theorem dropWhile_of_head (h : ∀ x, s.head? = some x → p x = false) : s.dropWhile p = s := by
  cases s with
  | nil => rfl
  | cons x s => simp [h x rfl]

theorem head_dropWhile {x : α} (h : (s.dropWhile p).head? = some x) : p x = false := by
  have hd := List.head?_dropWhile_not p s
  rw [h] at hd
  simpa using hd

/-- Trimming takes blanks off both ends, until neither end is blank. -/
theorem trim_split (p : α → Bool) (s : List α) :
    ∃ a b, s = a ++ trim p s ++ b ∧ (∀ x ∈ a, p x) ∧ (∀ x ∈ b, p x) ∧ Tight p (trim p s) := by
  -- what trimming drops at the end comes first in the reversed text
  have hb : s.dropWhile p = trim p s ++ ((s.dropWhile p).reverse.takeWhile p).reverse := by
    rw [trim, ← List.reverse_append, List.takeWhile_append_dropWhile, List.reverse_reverse]
  refine ⟨s.takeWhile p, ((s.dropWhile p).reverse.takeWhile p).reverse, ?_, ?_, ?_, ?_, ?_⟩
  · rw [List.append_assoc, ← hb, List.takeWhile_append_dropWhile]
  · exact fun x hx => List.all_eq_true.1 List.all_takeWhile x hx
  · exact fun x hx => List.all_eq_true.1 List.all_takeWhile x (List.mem_reverse.1 hx)
  · intro x hx
    apply head_dropWhile (s := s)
    rw [hb, List.head?_append, hx]
    rfl
  · intro x hx
    rw [trim, List.getLast?_reverse] at hx
    exact head_dropWhile hx

theorem trim_isInfix (p : α → Bool) (s : List α) : trim p s <:+: s := by
  obtain ⟨a, b, hs, -⟩ := trim_split p s
  exact ⟨a, b, hs.symm⟩

theorem tight_trim (p : α → Bool) (s : List α) : Tight p (trim p s) := by
  obtain ⟨-, -, -, -, -, ht⟩ := trim_split p s
  exact ht

/-- A tight text between blanks is what trimming leaves. -/
theorem trim_between (ha : ∀ x ∈ a, p x) (hm : Tight p m) (hb : ∀ x ∈ b, p x) :
    trim p (a ++ m ++ b) = m := by
  unfold trim
  rw [List.append_assoc, List.dropWhile_append_of_pos ha]
  cases m with
  | nil =>
    have hd : b.dropWhile p = [] := by simpa using @List.dropWhile_append_of_pos _ p b [] hb
    simp [hd]
  | cons y m =>
    have hd : (y :: m ++ b).dropWhile p = y :: m ++ b := dropWhile_of_head fun x hx => hm.head x hx
    have hr : (y :: m).reverse.dropWhile p = (y :: m).reverse := by
      apply dropWhile_of_head
      intro x hx
      rw [List.head?_reverse] at hx
      exact hm.last x hx
    rw [hd, List.reverse_append, List.dropWhile_append_of_pos (by simpa using hb), hr,
      List.reverse_reverse]

theorem trim_eq_self : trim p s = s ↔ Tight p s := by
  constructor
  · intro h
    obtain ⟨-, -, -, -, -, ht⟩ := trim_split p s
    rwa [h] at ht
  · intro h
    simpa using trim_between (a := []) (b := []) (by simp) h (by simp)

theorem trim_append (a : List α) (hb : ∀ x ∈ b, p x) : trim p (a ++ b) = trim p a := by
  obtain ⟨u, v, ha, hu, hv, ht⟩ := trim_split p a
  have hvb : ∀ x ∈ v ++ b, p x := by
    rw [List.forall_mem_append]
    exact ⟨hv, hb⟩
  rw [← trim_between hu ht hvb, ← List.append_assoc, ← ha]

theorem trim_blank_append (ha : ∀ x ∈ a, p x) (s : List α) : trim p (a ++ s) = trim p s := by
  rw [trim, List.dropWhile_append_of_pos ha, trim]

/-- What is trimmed first makes no difference to trimming more. -/
theorem trim_trim {q : α → Bool} (hpq : ∀ x, p x → q x) (s : List α) :
    trim q (trim p s) = trim q s := by
  obtain ⟨a, b, hs, ha, hb, -⟩ := trim_split p s
  conv => rhs; rw [hs]
  rw [trim_append _ fun x hx => hpq x (hb x hx), trim_blank_append fun x hx => hpq x (ha x hx)]

/-- A symbol that stays ends what is dropped in front. -/
theorem dropWhile_stop {c : α} (hc : p c = false) (a s : List α) :
    (a ++ c :: s).dropWhile p = a.dropWhile p ++ c :: s := by
  rw [List.dropWhile_append]
  cases a.dropWhile p <;> simp [hc]

/-- Behind a symbol that stays, trimming takes something off the end, and nothing else there. -/
theorem trim_stop_end {c : α} (hc : p c = false) (a s : List α) :
    trim p (a ++ c :: s) = a.dropWhile p ++ c :: trimEnd p s := by
  have hr : (a.dropWhile p ++ c :: s).reverse = s.reverse ++ c :: (a.dropWhile p).reverse := by simp
  rw [trim, dropWhile_stop hc, hr, dropWhile_stop hc, trimEnd]
  simp

theorem trim_stop {c : α} (hc : p c = false) (a s : List α) :
    ∃ t, trim p (a ++ c :: s) = (a ++ c :: t).dropWhile p :=
  ⟨trimEnd p s, by rw [trim_stop_end hc, dropWhile_stop hc]⟩

theorem trimEnd_stop {c : α} (hc : p c = false) (a s : List α) :
    trimEnd p (a ++ c :: s) = a ++ c :: trimEnd p s := by
  have hr : (a ++ c :: s).reverse = s.reverse ++ c :: a.reverse := by simp
  rw [trimEnd, hr, dropWhile_stop hc, trimEnd]
  simp

theorem trimEnd_split (p : α → Bool) (s : List α) :
    ∃ b, s = trimEnd p s ++ b ∧ (∀ x ∈ b, p x) ∧
      ∀ x, (trimEnd p s).getLast? = some x → p x = false := by
  refine ⟨(s.reverse.takeWhile p).reverse, ?_, ?_, ?_⟩
  · rw [trimEnd, ← List.reverse_append, List.takeWhile_append_dropWhile, List.reverse_reverse]
  · exact fun x hx => List.all_eq_true.1 List.all_takeWhile x (List.mem_reverse.1 hx)
  · intro x hx
    rw [trimEnd, List.getLast?_reverse] at hx
    exact head_dropWhile hx

theorem trim_trimEnd (p : α → Bool) (s : List α) : trim p (trimEnd p s) = trim p s := by
  obtain ⟨b, hs, hb, -⟩ := trimEnd_split p s
  conv => rhs; rw [hs]
  exact (trim_append _ hb).symm

theorem trim_dropWhile (p : α → Bool) (s : List α) : trim p (s.dropWhile p) = trim p s := by
  have hd : (s.dropWhile p).dropWhile p = s.dropWhile p := dropWhile_of_head fun _ => head_dropWhile
  rw [trim, hd, trim]

/-- Symbols dropped in front of a mark that starts with another one do not move the cut. -/
theorem CutAt.dropWhile {x : α} {mark before behind : List α} (hx : p x = false)
    (h : CutAt (x :: mark) s before behind) :
    CutAt (x :: mark) (s.dropWhile p) (before.dropWhile p) behind := by
  have hd : s.dropWhile p = before.dropWhile p ++ (x :: mark) ++ behind := by
    rw [h.eq, List.append_assoc, List.cons_append, dropWhile_stop hx, List.append_assoc]
    rfl
  refine ⟨hd, ?_⟩
  intro a b hs
  have htake : s = s.takeWhile p ++ a ++ (x :: mark) ++ b := by
    rw [List.append_assoc, List.append_assoc, ← List.append_assoc a, ← hs,
      List.takeWhile_append_dropWhile]
  have hle := h.first _ _ htake
  have hlen : (s.takeWhile p).length + (s.dropWhile p).length = s.length := by
    rw [← List.length_append, List.takeWhile_append_dropWhile]
  have heq := congrArg List.length h.eq
  rw [hd] at hlen
  simp only [List.length_append] at hle hlen heq
  omega

theorem trim_dropLastIf [DecidableEq α] {c : α} (hc : p c) (s : List α) :
    trim p (dropLastIf c s) = trim p s := by
  by_cases h : s.getLast? = some c
  · obtain ⟨t, rfl⟩ := List.getLast?_eq_some_iff.1 h
    rw [dropLastIf, if_pos h, List.dropLast_concat, trim_append t (by simpa using hc)]
  · rw [dropLastIf, if_neg h]

/-! ## Margins -/

theorem isIndent_of_not_blank {c : Char} (h : isBlank c = false) : isIndent c = false := by
  cases hc : isIndent c with
  | false => rfl
  | true =>
    rw [isIndent, Bool.or_eq_true, decide_eq_true_eq, decide_eq_true_eq] at hc
    rcases hc with rfl | rfl <;> exact absurd h (by decide)

/-- Indentation holds spaces and tabs only. -/
theorem isIndent_of_isPrefix {l m : List Char} (hm : m <+: indentOf l) : ∀ c ∈ m, isIndent c :=
  fun c hc => List.all_eq_true.1 List.all_takeWhile c (hm.subset hc)

/-- A line that starts with a visible character. -/
theorem visible_of_head {c : Char} {l : List Char} (hl : l.head? = some c)
    (hc : isBlank c = false) : isBare l = false ∧ indentOf l = [] := by
  obtain ⟨t, rfl⟩ := List.head?_eq_some_iff.1 hl
  simp [isBare, indentOf, isIndent_of_not_blank hc]

theorem isPrefix_commonStart {p i j : List Char} :
    p <+: commonStart i j ↔ p <+: i ∧ p <+: j := by
  induction p generalizing i j with
  | nil => simp
  | cons c p ih =>
    cases i with
    | nil => simp [commonStart]
    | cons d i =>
      cases j with
      | nil => simp [commonStart]
      | cons e j =>
        rw [commonStart, List.cons_prefix_cons, List.cons_prefix_cons]
        by_cases h : d = e
        · rw [if_pos h, List.cons_prefix_cons, ih, h, and_and_left]
        · rw [if_neg h]
          simp only [List.prefix_nil, List.cons_ne_nil, false_iff]
          exact fun ⟨hd, he⟩ => h (hd.1.symm.trans he.1)

theorem isPrefix_foldl_commonStart {p : List Char} (is : List (List Char)) (i : List Char) :
    p <+: is.foldl commonStart i ↔ p <+: i ∧ ∀ j ∈ is, p <+: j := by
  induction is generalizing i with
  | nil => simp
  | cons k is ih => rw [List.foldl_cons, ih, isPrefix_commonStart, List.forall_mem_cons, and_assoc]

/-- The margin is the longest indentation that the lines with visible text share. -/
theorem isPrefix_margin_iff {ls : List (List Char)} {l p : List Char} (hl : l ∈ ls)
    (hb : isBare l = false) :
    p <+: margin ls ↔ ∀ k ∈ ls, isBare k = false → p <+: indentOf k := by
  have hall : (∀ i ∈ (ls.filter fun l => !isBare l).map indentOf, p <+: i) ↔
      ∀ k ∈ ls, isBare k = false → p <+: indentOf k := by
    simp only [List.forall_mem_map, List.mem_filter, Bool.not_eq_true', and_imp]
  have hm : indentOf l ∈ (ls.filter fun l => !isBare l).map indentOf :=
    List.mem_map_of_mem (List.mem_filter.2 ⟨hl, by simp [hb]⟩)
  unfold margin
  cases h : (ls.filter fun l => !isBare l).map indentOf with
  | nil =>
    rw [h] at hm
    cases hm
  | cons i is => rw [← hall, h, isPrefix_foldl_commonStart, List.forall_mem_cons]

/-- The margin starts every line that has visible text. -/
theorem margin_isPrefix {ls : List (List Char)} {l : List Char} (hl : l ∈ ls)
    (hb : isBare l = false) : margin ls <+: indentOf l :=
  (isPrefix_margin_iff hl hb).1 List.prefix_rfl l hl hb

/-- Lines that are indented as far as the others do not change the margin. -/
theorem margin_eq_of_subset {ks ls : List (List Char)} {l : List Char} (hsub : ∀ k ∈ ks, k ∈ ls)
    (hl : l ∈ ks) (hb : isBare l = false)
    (h : ∀ k ∈ ls, isBare k = false → margin ks <+: indentOf k) : margin ls = margin ks := by
  have hle : margin ls <+: margin ks := (isPrefix_margin_iff hl hb).2 fun k hk hv =>
    margin_isPrefix (hsub k hk) hv
  have hge : margin ks <+: margin ls := (isPrefix_margin_iff (hsub l hl) hb).2 h
  exact hle.eq_of_length_le hge.length_le

/-- Without a margin, and without spaces and tabs on lines of their own, a block is left as it is. -/
theorem dedent_of_margin_nil {s : List Char} (hm : margin (pieces '\n' s) = [])
    (hb : ∀ l ∈ pieces '\n' s, isBare l → l = []) : dedent s = s := by
  have hs : (pieces '\n' s).map (stripMargin (margin (pieces '\n' s))) = pieces '\n' s := by
    conv => rhs; rw [← List.map_id (pieces '\n' s)]
    apply List.map_congr_left
    intro k hk
    unfold stripMargin
    by_cases hkb : isBare k
    · rw [if_pos hkb]
      exact (hb k hk hkb).symm
    · simp [hkb, hm]
  simp only [dedent, hs, joinPieces_pieces]

/-- **A block without margin** is left as it is. -/
theorem dedent_eq_self {s : List Char} {l : List Char} (hl : l ∈ pieces '\n' s)
    (hv : isBare l = false) (hi : indentOf l = []) (hb : ∀ l ∈ pieces '\n' s, isBare l → l = []) :
    dedent s = s := by
  -- the margin starts the indentation of `l`
  have hm : margin (pieces '\n' s) = [] := by simpa [hi] using margin_isPrefix hl hv
  exact dedent_of_margin_nil hm hb

end StubProxy.Text
