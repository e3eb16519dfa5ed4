import Mathlib.Data.List.TakeWhile
import StubProxy.Text.Split

/-!
# Cuts beside a separator

A symbol that a mark does not hold keeps what stands before it and what stands behind it apart: no
occurrence of the mark reaches across.

* `splitFirst_break`, `splitFirst_skip`: the search for a mark goes past what cannot hold it.
* `splitFirst_eq_none`, `splitFirst_eq_some`: when there is a cut, and what it leaves.
* `splitAtSymbol_append`, `splitAtSymbol_cases`: the cut at the first of a symbol.
* `takeWhile_ne_append`, `dropWhile_ne_append`: the text up to a symbol, and from it on.
* `pieces_break`, `pieces_append`: pieces of a concatenation.
* `joinPieces_pieces`, `flatMap_pieces`: joining or ending the pieces gives the text back.
* `lines_ended`, `allLines_ended`: both readings of line breaks agree on ended lines.
* `splitFirst_eq_some_iff`, `splitAtSymbol_eq_iff`: what the cuts are, without a search.
* `filterMap_lines`, `filterMap_allLines`: to a reader that skips what they do differently, both are
  the pieces of the text.
-/

namespace StubProxy.Text

variable {α : Type} {sep c : α} {mark a b s : List α}

/-! ## The first occurrence of a mark -/

theorem prefix_break (hs : sep ∉ mark) : mark <+: a ++ sep :: b ↔ mark <+: a := by
  refine ⟨fun h => ?_, fun h => List.prefix_append_of_prefix h⟩
  obtain ⟨t, ht⟩ := h
  rcases List.append_eq_append_iff.1 ht with ⟨m, rfl, -⟩ | ⟨_ | ⟨x, m⟩, rfl, hm⟩
  · exact List.prefix_append mark m
  · simp
  · obtain rfl : sep = x := (List.cons.inj hm).1
    simp at hs

theorem singleton_isInfix : [c] <:+: s ↔ c ∈ s := by
  rw [List.mem_iff_append]
  constructor
  · rintro ⟨a, b, h⟩
    exact ⟨a, b, by simp [← h]⟩
  · rintro ⟨a, b, h⟩
    exact ⟨a, b, by simp [h]⟩

variable [DecidableEq α]

/-- Cutting takes the mark out and nothing else. -/
theorem splitFirst_eq_some {before behind : List α}
    (h : splitFirst mark s = some (before, behind)) : s = before ++ mark ++ behind := by
  induction s generalizing before with
  | nil =>
    rw [splitFirst] at h
    split at h
    · rename_i hm
      obtain ⟨rfl, rfl⟩ := Prod.mk.inj (Option.some.inj h)
      simp [hm]
    · exact absurd h (by simp)
  | cons x s ih =>
    rw [splitFirst] at h
    split at h
    · rename_i hp
      obtain ⟨rfl, rfl⟩ := Prod.mk.inj (Option.some.inj h)
      exact (List.prefix_iff_eq_append.1 (List.isPrefixOf_iff_prefix.1 hp)).symm
    · obtain ⟨q, hq, hx⟩ := Option.map_eq_some_iff.1 h
      obtain ⟨rfl, rfl⟩ := Prod.mk.inj hx
      rw [ih hq]
      rfl

theorem splitFirst_mark (mark b : List α) : splitFirst mark (mark ++ b) = some ([], b) := by
  cases hs : mark ++ b with
  | nil =>
    obtain ⟨rfl, rfl⟩ := List.append_eq_nil_iff.1 hs
    rfl
  | cons x s =>
    have hp : mark.isPrefixOf (x :: s) := by
      rw [← hs, List.isPrefixOf_iff_prefix]
      exact List.prefix_append mark b
    rw [splitFirst, if_pos hp, ← hs, List.drop_left]

/-- Where the mark does not start, the search goes on behind the next symbol. -/
theorem splitFirst_cons {x : α} (hp : ¬ mark <+: x :: s) :
    splitFirst mark (x :: s) = (splitFirst mark s).map fun p => (x :: p.1, p.2) := by
  rw [splitFirst, if_neg (mt List.isPrefixOf_iff_prefix.1 hp)]

/-- There is no cut exactly when the mark does not occur. -/
theorem splitFirst_eq_none : splitFirst mark s = none ↔ ¬ mark <:+: s := by
  induction s with
  | nil => by_cases hm : mark = [] <;> simp [splitFirst, hm]
  | cons x s ih =>
    rw [splitFirst, List.infix_cons_iff]
    by_cases hp : mark.isPrefixOf (x :: s)
    · simp [hp, List.isPrefixOf_iff_prefix.1 hp]
    · rw [if_neg hp, Option.map_eq_none_iff, ih]
      rw [List.isPrefixOf_iff_prefix] at hp
      simp [hp]

/-- The search goes past symbols that the mark does not start with. -/
theorem splitFirst_skip (ha : ∀ x ∈ a, mark.head? ≠ some x) (hm : mark ≠ []) :
    splitFirst mark (a ++ b) = (splitFirst mark b).map fun p => (a ++ p.1, p.2) := by
  induction a with
  | nil => simp
  | cons x a ih =>
    have hp : ¬ mark.isPrefixOf (x :: (a ++ b)) := by
      rw [List.isPrefixOf_iff_prefix]
      cases mark with
      | nil => exact absurd rfl hm
      | cons m ms =>
        intro h
        obtain ⟨rfl, -⟩ := List.cons_prefix_cons.1 h
        exact ha m List.mem_cons_self rfl
    rw [List.cons_append, splitFirst, if_neg hp, ih fun y hy => ha y (List.mem_cons_of_mem _ hy),
      Option.map_map]
    rfl

/-- The search goes past a part without the mark that ends before a symbol of no mark. -/
theorem splitFirst_break (hs : sep ∉ mark) (ha : ¬ mark <:+: a) :
    splitFirst mark (a ++ sep :: b) =
      (splitFirst mark b).map fun p => (a ++ sep :: p.1, p.2) := by
  induction a with
  | nil =>
    -- the separator itself cannot start the mark
    have hm : mark ≠ [] := by rintro rfl; simp at ha
    have hx : ∀ x ∈ [sep], mark.head? ≠ some x := by
      intro x hx h
      obtain rfl := List.mem_singleton.1 hx
      exact hs (List.mem_of_mem_head? h)
    exact splitFirst_skip hx hm
  | cons x a ih =>
    rw [List.infix_cons_iff, not_or] at ha
    have hp : ¬ mark.isPrefixOf (x :: (a ++ sep :: b)) := by
      rw [List.isPrefixOf_iff_prefix, ← List.cons_append, prefix_break hs]
      exact ha.1
    rw [List.cons_append, splitFirst, if_neg hp, ih ha.2, Option.map_map]
    rfl

/-- A mark does not reach across a symbol that it does not hold. -/
theorem infix_break (hs : sep ∉ mark) : mark <:+: a ++ sep :: b ↔ mark <:+: a ∨ mark <:+: b := by
  by_cases ha : mark <:+: a
  · simp [ha, List.infix_append_of_infix_left ha]
  · rw [← Decidable.not_iff_not, ← splitFirst_eq_none, splitFirst_break hs ha,
      Option.map_eq_none_iff, splitFirst_eq_none]
    simp [ha]

/-- The cut at the first of a symbol. -/
theorem splitAtSymbol_append (hc : c ∉ a) : splitAtSymbol c (a ++ c :: b) = (a, b) := by
  have ha : ∀ x ∈ a, [c].head? ≠ some x := by
    intro x hx h
    obtain rfl : c = x := Option.some.inj h
    exact hc hx
  have hf : splitFirst [c] (c :: b) = some ([], b) := splitFirst_mark [c] b
  rw [splitAtSymbol, splitFirst_skip ha (by simp), hf]
  simp

theorem takeWhile_ne_of_not_mem (hc : c ∉ s) : s.takeWhile (· ≠ c) = s := by
  rw [List.takeWhile_eq_self_iff]
  intro x hx
  simpa using ne_of_mem_of_not_mem hx hc

theorem dropWhile_ne_of_not_mem (hc : c ∉ s) : s.dropWhile (· ≠ c) = [] := by
  rw [List.dropWhile_eq_nil_iff]
  intro x hx
  simpa using ne_of_mem_of_not_mem hx hc

theorem takeWhile_ne_append (hc : c ∉ a) (b : List α) : (a ++ c :: b).takeWhile (· ≠ c) = a := by
  rw [List.takeWhile_append_of_pos (List.takeWhile_eq_self_iff.1 (takeWhile_ne_of_not_mem hc))]
  simp

theorem dropWhile_ne_append (hc : c ∉ a) (b : List α) :
    (a ++ c :: b).dropWhile (· ≠ c) = c :: b := by
  rw [List.dropWhile_append_of_pos (List.dropWhile_eq_nil_iff.1 (dropWhile_ne_of_not_mem hc))]
  simp

/-- The cut at a symbol, or the whole text where there is none. -/
theorem splitAtSymbol_cases (c : α) (s : List α) :
    (∃ a b, c ∉ a ∧ s = a ++ c :: b ∧ splitAtSymbol c s = (a, b)) ∨
    (c ∉ s ∧ splitAtSymbol c s = (s, [])) := by
  by_cases hc : c ∈ s
  · obtain ⟨a, b, hs, ha⟩ := List.eq_append_cons_of_mem hc
    exact .inl ⟨a, b, ha, hs, by rw [hs, splitAtSymbol_append ha]⟩
  · have hn : splitFirst [c] s = none := splitFirst_eq_none.2 fun h => hc (singleton_isInfix.1 h)
    exact .inr ⟨hc, by rw [splitAtSymbol, hn, Option.getD_none]⟩

/-- The first mark behind ended lines without one. -/
theorem splitFirst_ended {lf : α} {ls : List (List α)} (hf : lf ∉ mark)
    (hl : ∀ l ∈ ls, ¬ mark <:+: l) (b : List α) :
    splitFirst mark (ls.flatMap (· ++ [lf]) ++ (mark ++ b)) = some (ls.flatMap (· ++ [lf]), b) := by
  induction ls with
  | nil => exact splitFirst_mark mark b
  | cons l ls ih =>
    rw [List.flatMap_cons, List.append_assoc, List.append_assoc, List.singleton_append,
      splitFirst_break hf (hl l List.mem_cons_self),
      ih fun k hk => hl k (List.mem_cons_of_mem _ hk)]
    simp

/-- A mark of two different symbols does not start within a text that it follows. -/
theorem splitFirst_pair {x y : α} (hxy : x ≠ y) (ha : ¬ [x, y] <:+: a) (b : List α) :
    splitFirst [x, y] (a ++ x :: y :: b) = some (a, b) := by
  induction a with
  | nil => exact splitFirst_mark [x, y] b
  | cons c a ih =>
    rw [List.infix_cons_iff, not_or] at ha
    have hp : ¬ [x, y] <+: c :: (a ++ x :: y :: b) := by
      intro h
      obtain ⟨rfl, hy⟩ := List.cons_prefix_cons.1 h
      cases a with
      | nil => exact hxy (List.cons_prefix_cons.1 hy).1.symm
      | cons d a =>
        obtain ⟨rfl, -⟩ := List.cons_prefix_cons.1 hy
        exact ha.1 (List.prefix_append [x, y] a)
    rw [List.cons_append, splitFirst_cons hp, ih ha.2, Option.map_some]

/-! ## Pieces -/

theorem pieces_ne_nil (sep : α) (s : List α) : pieces sep s ≠ [] := by
  cases s with
  | nil => simp [pieces]
  | cons x s =>
    rw [pieces]
    split
    · simp
    · cases pieces sep s <;> simp [consFirst]

/-- There is always a first piece. -/
theorem exists_pieces (sep : α) (s : List α) : ∃ p ps, pieces sep s = p :: ps :=
  List.exists_cons_of_ne_nil (pieces_ne_nil sep s)

/-- There is always a last piece. -/
theorem exists_last_piece (sep : α) (s : List α) : ∃ ps q, pieces sep s = ps ++ [q] :=
  ⟨_, _, (List.dropLast_concat_getLast (pieces_ne_nil sep s)).symm⟩

/-- A text without separators in front becomes the start of the first piece. -/
theorem pieces_append (ha : sep ∉ a) :
    pieces sep (a ++ b) = (a ++ (pieces sep b).headD []) :: (pieces sep b).tail := by
  induction a with
  | nil =>
    obtain ⟨p, ps, h⟩ := exists_pieces sep b
    simp [h]
  | cons x a ih =>
    simp only [List.mem_cons, not_or] at ha
    rw [List.cons_append, pieces, if_neg (Ne.symm ha.1), ih ha.2]
    rfl

theorem pieces_of_not_mem (hs : sep ∉ s) : pieces sep s = [s] := by
  simpa [pieces] using pieces_append (b := []) hs

/-- Pieces of a text with a separator in it. -/
theorem pieces_break (sep : α) (a b : List α) :
    pieces sep (a ++ sep :: b) = pieces sep a ++ pieces sep b := by
  induction a with
  | nil => simp [pieces]
  | cons x a ih =>
    simp only [List.cons_append, pieces, ih]
    split
    · rfl
    · obtain ⟨p, ps, h⟩ := exists_pieces sep a
      rw [h]
      rfl

/-- One more symbol at the end lengthens the last piece. -/
theorem pieces_concat (hc : c ≠ sep) (s : List α) :
    ∃ ps q, pieces sep s = ps ++ [q] ∧ pieces sep (s ++ [c]) = ps ++ [q ++ [c]] := by
  induction s with
  | nil => exact ⟨[], [], rfl, by simp [pieces, hc, consFirst]⟩
  | cons x s ih =>
    obtain ⟨ps, q, h, h'⟩ := ih
    by_cases hx : x = sep
    · exact ⟨[] :: ps, q, by simp [pieces, hx, h], by simp [pieces, hx, h']⟩
    · cases ps with
      | nil => exact ⟨[], x :: q, by simp [pieces, hx, h, consFirst], by simp [pieces, hx, h', consFirst]⟩
      | cons p ps =>
        refine ⟨(x :: p) :: ps, q, ?_, ?_⟩
        · simp [pieces, hx, h, consFirst]
        · simp [pieces, hx, h', consFirst]

/-- Where two texts meet, the last piece of the one and the first piece of the other become one. -/
theorem exists_pieces_append (sep : α) (a b : List α) :
    ∃ ps p q qs, pieces sep a = ps ++ [p] ∧ pieces sep b = q :: qs ∧
      pieces sep (a ++ b) = ps ++ (p ++ q) :: qs := by
  obtain ⟨q, qs, hb⟩ := exists_pieces sep b
  induction a with
  | nil => exact ⟨[], [], q, qs, rfl, hb, hb⟩
  | cons x a ih =>
    obtain ⟨ps, p, q, qs, ha, hb, hab⟩ := ih
    by_cases hx : x = sep
    · refine ⟨[] :: ps, p, q, qs, ?_, hb, ?_⟩
      · rw [pieces, if_pos hx, ha, List.cons_append]
      · rw [List.cons_append, pieces, if_pos hx, hab, List.cons_append]
    · cases ps with
      | nil =>
        refine ⟨[], x :: p, q, qs, ?_, hb, ?_⟩
        · rw [pieces, if_neg hx, ha]
          rfl
        · rw [List.cons_append, pieces, if_neg hx, hab]
          rfl
      | cons r ps =>
        refine ⟨(x :: r) :: ps, p, q, qs, ?_, hb, ?_⟩
        · rw [pieces, if_neg hx, ha]
          rfl
        · rw [List.cons_append, pieces, if_neg hx, hab]
          rfl

/-- Joining the pieces gives the text back. -/
theorem joinPieces_pieces (sep : α) (s : List α) : joinPieces sep (pieces sep s) = s := by
  induction s with
  | nil => rfl
  | cons x s ih =>
    obtain ⟨p, ps, h⟩ := exists_pieces sep s
    rw [h] at ih
    rw [pieces, h]
    split
    · rename_i hx
      rw [joinPieces, ih, hx]
      rfl
    · cases ps with
      | nil => simpa [consFirst, joinPieces] using ih
      | cons q ps => simpa [consFirst, joinPieces] using ih

omit [DecidableEq α] in
/-- Joining ends every piece but those that come last. -/
theorem joinPieces_append (sep : α) (ps : List (List α)) (q : List α) (qs : List (List α)) :
    joinPieces sep (ps ++ q :: qs) = ps.flatMap (· ++ [sep]) ++ joinPieces sep (q :: qs) := by
  induction ps with
  | nil => rfl
  | cons p ps ih =>
    obtain ⟨r, rs, hr⟩ := List.exists_cons_of_ne_nil (l := ps ++ q :: qs) (by simp)
    rw [hr] at ih
    rw [List.cons_append, hr, joinPieces, ih, List.flatMap_cons, List.append_assoc,
      List.append_assoc, List.singleton_append]

/-- The pieces of a text, all of them ended, are the text with an end. -/
theorem flatMap_pieces (sep : α) (s : List α) :
    (pieces sep s).flatMap (· ++ [sep]) = s ++ [sep] := by
  obtain ⟨ps, q, h⟩ := exists_last_piece sep s
  have hs := joinPieces_pieces sep s
  rw [h, joinPieces_append, joinPieces] at hs
  rw [h, List.flatMap_append, List.flatMap_singleton, ← List.append_assoc, hs]

/-- All pieces of the end of a text, but the first one, are pieces of the text. -/
theorem mem_pieces_append (a : List α) {l b : List α} (hl : l ∈ (pieces sep b).tail) :
    l ∈ pieces sep (a ++ b) := by
  obtain ⟨ps, p, q, qs, -, hb, hab⟩ := exists_pieces_append sep a b
  rw [hb, List.tail_cons] at hl
  rw [hab]
  exact List.mem_append_right ps (List.mem_cons_of_mem _ hl)

/-- A piece of a part of a text, but the first one, is a piece of the text or ends the part. -/
theorem mem_pieces_of_part (a : List α) {l b : List α} (c : List α)
    (hl : l ∈ (pieces sep b).tail) : l ∈ pieces sep (a ++ (b ++ c)) ∨ l <:+ b := by
  obtain ⟨ps, p, q, qs, hb, -, hbc⟩ := exists_pieces_append sep b c
  cases ps with
  | nil => simp [hb] at hl
  | cons x ps =>
    rw [hb, List.cons_append, List.tail_cons] at hl
    rcases List.mem_append.1 hl with hl | hl
    · exact .inl (mem_pieces_append a (by simp [hbc, hl]))
    · obtain rfl := List.mem_singleton.1 hl
      have hj := joinPieces_pieces sep b
      rw [hb, joinPieces_append, joinPieces] at hj
      exact .inr ⟨_, hj⟩

/-- What follows a piece starts with the separator. -/
theorem exists_of_mem_pieces {l : List α} (hl : l ∈ pieces sep s) :
    ∃ a b, s = a ++ l ++ b ∧ ∀ x, b.head? = some x → x = sep := by
  obtain ⟨ps, qs, h⟩ := List.append_of_mem hl
  have hs := joinPieces_pieces sep s
  rw [h, joinPieces_append] at hs
  cases qs with
  | nil => exact ⟨_, [], by rw [← hs, List.append_nil]; rfl, by simp⟩
  | cons q qs =>
    refine ⟨_, sep :: joinPieces sep (q :: qs), by rw [← hs, List.append_assoc]; rfl, ?_⟩
    intro x hx
    exact (Option.some.inj hx).symm

/-- No piece holds the separator. -/
theorem not_mem_of_mem_pieces {l : List α} (hl : l ∈ pieces sep s) : sep ∉ l := by
  induction s generalizing l with
  | nil => simp_all [pieces]
  | cons x s ih =>
    obtain ⟨p, ps, h⟩ := exists_pieces sep s
    rw [h] at ih
    by_cases hx : x = sep
    · rw [pieces, if_pos hx, h] at hl
      rcases List.mem_cons.1 hl with rfl | hl
      · exact List.not_mem_nil
      · exact ih hl
    · rw [pieces, if_neg hx, h] at hl
      rcases List.mem_cons.1 hl with rfl | hl
      · simpa [Ne.symm hx] using ih List.mem_cons_self
      · exact ih (List.mem_cons_of_mem _ hl)

/-- A mark does not reach from one line into the next. -/
theorem not_infix_joinPieces {ls : List (List α)} (hs : sep ∉ mark) (hm : mark ≠ [])
    (hl : ∀ l ∈ ls, ¬ mark <:+: l) : ¬ mark <:+: joinPieces sep ls := by
  induction ls with
  | nil => simpa [joinPieces] using hm
  | cons l ls ih =>
    rw [List.forall_mem_cons] at hl
    cases ls with
    | nil => exact hl.1
    | cons k ls =>
      rw [joinPieces, infix_break hs]
      exact not_or.2 ⟨hl.1, ih hl.2⟩

/-- Lines that are joined are the pieces of what they make. -/
theorem pieces_joinPieces {ls : List (List α)} (hn : ls ≠ []) (hl : ∀ l ∈ ls, sep ∉ l) :
    pieces sep (joinPieces sep ls) = ls := by
  induction ls with
  | nil => exact absurd rfl hn
  | cons l ls ih =>
    have hp := pieces_of_not_mem (hl l List.mem_cons_self)
    cases ls with
    | nil => exact hp
    | cons k ls =>
      rw [joinPieces, pieces_break, hp, ih (List.cons_ne_nil k ls) fun j hj =>
        hl j (List.mem_cons_of_mem _ hj)]
      rfl

theorem mem_of_mem_pieces {l : List α} (hl : l ∈ pieces sep s) : ∀ x ∈ l, x ∈ s := by
  induction s generalizing l with
  | nil => simp_all [pieces]
  | cons y s ih =>
    intro x hx
    rw [pieces] at hl
    split at hl
    · rcases List.mem_cons.1 hl with rfl | hl
      · exact absurd hx List.not_mem_nil
      · exact List.mem_cons_of_mem _ (ih hl x hx)
    · obtain ⟨p, ps, h⟩ := exists_pieces sep s
      rw [h] at hl ih
      rcases List.mem_cons.1 hl with rfl | hl
      · rcases List.mem_cons.1 hx with rfl | hx
        · exact List.mem_cons_self
        · exact List.mem_cons_of_mem _ (ih List.mem_cons_self x hx)
      · exact List.mem_cons_of_mem _ (ih (List.mem_cons_of_mem _ hl) x hx)

/-- A text with a separator has a first piece and a last one. -/
theorem pieces_of_mem (hs : sep ∈ s) : ∃ p ps q, pieces sep s = p :: ps ++ [q] := by
  obtain ⟨a, b, rfl⟩ := List.mem_iff_append.1 hs
  obtain ⟨p, ps, ha⟩ := exists_pieces sep a
  have hb := List.dropLast_concat_getLast (pieces_ne_nil sep b)
  refine ⟨p, ps ++ (pieces sep b).dropLast, (pieces sep b).getLast (pieces_ne_nil sep b), ?_⟩
  rw [pieces_break, ha, ← List.cons_append, List.append_assoc, hb]

/-! ## Ended lines -/

/-- Ended lines are pieces, and what stands behind them is cut on its own. -/
theorem pieces_ended {lf : α} {ls : List (List α)} (hl : ∀ l ∈ ls, lf ∉ l) (b : List α) :
    pieces lf (ls.flatMap (· ++ [lf]) ++ b) = ls ++ pieces lf b := by
  induction ls with
  | nil => rfl
  | cons l ls ih =>
    rw [List.flatMap_cons, List.append_assoc, List.append_assoc, List.singleton_append,
      pieces_break, pieces_of_not_mem (hl l List.mem_cons_self),
      ih fun l' h => hl l' (List.mem_cons_of_mem _ h)]
    rfl

/-- With nothing behind the last line, an empty piece is left. -/
theorem pieces_only_ended {lf : α} {ls : List (List α)} (hl : ∀ l ∈ ls, lf ∉ l) :
    pieces lf (ls.flatMap (· ++ [lf])) = ls ++ [[]] := by
  simpa [pieces] using pieces_ended hl []

/-! ## Lines -/

section Lines

variable {β : Type} {lf cr : α} {p q : List α} {ls ps : List (List α)} {f : List α → Option β}

theorem lines_of_pieces (h : pieces lf s = ps ++ [q]) :
    lines lf cr s = ps.map (dropLastIf cr) ++ if q = [] then [] else [q] := by
  simp [lines, h]

theorem allLines_of_pieces (h : pieces lf s = ps ++ [q]) :
    allLines lf cr s =
      ps.map (dropLastIf cr) ++ if s.getLast? = some lf then [] else [dropLastIf cr q] := by
  by_cases hl : s.getLast? = some lf <;> simp [allLines, h, hl]

/-- Lines on both sides of a line break. -/
theorem lines_break (lf cr : α) (a b : List α) :
    lines lf cr (a ++ lf :: b) = (pieces lf a).map (dropLastIf cr) ++ lines lf cr b := by
  obtain ⟨ps, q, h⟩ := exists_last_piece lf b
  have hab : pieces lf (a ++ lf :: b) = (pieces lf a ++ ps) ++ [q] := by
    rw [pieces_break, h, List.append_assoc]
  rw [lines_of_pieces hab, lines_of_pieces h, List.map_append, List.append_assoc]

theorem map_dropLastIf (hr : ∀ l ∈ ls, l.getLast? ≠ some cr) : ls.map (dropLastIf cr) = ls := by
  conv => rhs; rw [← List.map_id ls]
  exact List.map_congr_left fun l h => if_neg (hr l h)

theorem lines_ended (hl : ∀ l ∈ ls, lf ∉ l) (hr : ∀ l ∈ ls, l.getLast? ≠ some cr) :
    lines lf cr (ls.flatMap (· ++ [lf])) = ls := by
  rw [lines_of_pieces (pieces_only_ended hl), map_dropLastIf hr, if_pos rfl, List.append_nil]

theorem allLines_ended (hn : ls ≠ []) (hl : ∀ l ∈ ls, lf ∉ l)
    (hr : ∀ l ∈ ls, l.getLast? ≠ some cr) : allLines lf cr (ls.flatMap (· ++ [lf])) = ls := by
  have he : (ls.flatMap (· ++ [lf])).getLast? = some lf := by
    rw [← List.dropLast_concat_getLast hn]
    simp
  rw [allLines_of_pieces (pieces_only_ended hl), map_dropLastIf hr, if_pos he, List.append_nil]

/-- Behind a final separator there is only the empty piece. -/
theorem last_piece_eq_nil (h : pieces lf s = ps ++ [q]) (hl : s.getLast? = some lf) : q = [] := by
  obtain ⟨t, rfl⟩ := List.getLast?_eq_some_iff.1 hl
  rw [pieces_break] at h
  exact (List.cons.inj (List.append_inj_right' h rfl)).1.symm

/-! A function that does not see a final `cr` and makes nothing of the empty line does not tell the
two readings of line breaks from the pieces of the text. -/

theorem filterMap_dropLastIf (hf : ∀ l, f (dropLastIf cr l) = f l) (ls : List (List α)) :
    (ls.map (dropLastIf cr)).filterMap f = ls.filterMap f := by
  rw [List.filterMap_map]
  congr 1
  exact funext hf

theorem filterMap_lines (hf : ∀ l, f (dropLastIf cr l) = f l) (hn : f [] = none)
    (h : pieces lf s = p :: ps ++ [q]) :
    ∃ ls, lines lf cr s = dropLastIf cr p :: ls ∧ ls.filterMap f = (ps ++ [q]).filterMap f := by
  refine ⟨ps.map (dropLastIf cr) ++ if q = [] then [] else [q], lines_of_pieces h, ?_⟩
  rw [List.filterMap_append, filterMap_dropLastIf hf, List.filterMap_append]
  by_cases hq : q = []
  · -- an empty last piece is no line
    simp [hq, hn]
  · rw [if_neg hq]

theorem filterMap_allLines (hf : ∀ l, f (dropLastIf cr l) = f l) (hn : f [] = none)
    (h : pieces lf s = p :: ps ++ [q]) :
    ∃ ls, allLines lf cr s = dropLastIf cr p :: ls ∧ ls.filterMap f = (ps ++ [q]).filterMap f := by
  refine ⟨ps.map (dropLastIf cr) ++ if s.getLast? = some lf then [] else [dropLastIf cr q],
    allLines_of_pieces h, ?_⟩
  rw [List.filterMap_append, filterMap_dropLastIf hf, List.filterMap_append]
  by_cases hl : s.getLast? = some lf
  · -- the piece that is dropped is empty
    simp [last_piece_eq_nil h hl, hl, hn]
  · simp [hl, List.filterMap_cons, hf]

end Lines

/-! ## What a cut is -/

section Cut

variable {α : Type} {c : α} {mark s before behind before' behind' : List α}

theorem CutAt.isInfix (h : CutAt mark s before behind) : mark <:+: s :=
  ⟨before, behind, h.eq.symm⟩

/-- A text has one first occurrence of a mark. -/
theorem CutAt.unique (h : CutAt mark s before behind) (h' : CutAt mark s before' behind') :
    before = before' ∧ behind = behind' := by
  have hlen : before.length = before'.length :=
    Nat.le_antisymm (h.first _ _ h'.eq) (h'.first _ _ h.eq)
  have heq : before ++ (mark ++ behind) = before' ++ (mark ++ behind') := by
    rw [← List.append_assoc, ← List.append_assoc, ← h.eq, ← h'.eq]
  obtain ⟨hb, hm⟩ := List.append_inj heq hlen
  exact ⟨hb, List.append_cancel_left hm⟩

/-- The mark does not occur in front of its first occurrence. -/
theorem CutAt.not_isInfix (h : CutAt mark s before behind) (hm : mark ≠ []) :
    ¬ mark <:+: before := by
  rintro ⟨a, b, hab⟩
  have hle := h.first a (b ++ mark ++ behind) (by rw [h.eq, ← hab]; simp)
  have hlen := congrArg List.length hab
  have hpos := List.length_pos_iff.2 hm
  simp only [List.length_append] at hlen
  omega

/-- What follows a text does not move its first mark. -/
theorem CutAt.append (h : CutAt mark s before behind) (t : List α) :
    CutAt mark (s ++ t) before (behind ++ t) := by
  refine ⟨by rw [h.eq, List.append_assoc], ?_⟩
  intro a b hs
  rcases Nat.lt_or_ge a.length before.length with hlt | hge
  · -- an occurrence in front of the first one lies within the text
    have hlen : (a ++ mark).length ≤ s.length := by
      rw [h.eq]
      simp only [List.length_append]
      omega
    obtain ⟨u, hu⟩ := List.prefix_of_prefix_length_le ⟨b, hs.symm⟩ (List.prefix_append s t) hlen
    exact h.first a u hu.symm
  · exact hge

/-- In front of a text, a symbol at which no mark starts moves the cut by one. -/
theorem CutAt.cons {x : α} (hp : ¬ mark <+: x :: s) (h : CutAt mark s before behind) :
    CutAt mark (x :: s) (x :: before) behind := by
  refine ⟨by rw [h.eq]; rfl, ?_⟩
  intro a b hs
  cases a with
  | nil => exact absurd ⟨b, hs.symm⟩ hp
  | cons y a =>
    obtain ⟨-, hs⟩ := List.cons.inj hs
    exact Nat.succ_le_succ (h.first a b hs)

variable [DecidableEq α]

theorem cutAt_splitFirst (h : splitFirst mark s = some (before, behind)) :
    CutAt mark s before behind := by
  induction s generalizing before with
  | nil =>
    have hs := splitFirst_eq_some h
    obtain ⟨hb, hm, rfl⟩ : before = [] ∧ mark = [] ∧ behind = [] := by simpa using hs.symm
    exact ⟨hs, fun a b _ => by simp [hb]⟩
  | cons x s ih =>
    have hs := splitFirst_eq_some h
    rw [splitFirst] at h
    by_cases hp : mark.isPrefixOf (x :: s)
    · rw [if_pos hp] at h
      obtain ⟨rfl, -⟩ := Prod.mk.inj (Option.some.inj h)
      exact ⟨hs, fun a b _ => Nat.zero_le _⟩
    · rw [if_neg hp] at h
      obtain ⟨q, hq, hx⟩ := Option.map_eq_some_iff.1 h
      obtain ⟨rfl, rfl⟩ := Prod.mk.inj hx
      rw [List.isPrefixOf_iff_prefix] at hp
      exact (ih hq).cons hp

/-- **The search finds the first occurrence**, and nothing else. -/
theorem splitFirst_eq_some_iff : splitFirst mark s = some (before, behind) ↔
    CutAt mark s before behind := by
  refine ⟨cutAt_splitFirst, fun h => ?_⟩
  cases hs : splitFirst mark s with
  | none => exact absurd h.isInfix (splitFirst_eq_none.1 hs)
  | some p =>
    obtain ⟨rfl, rfl⟩ := (cutAt_splitFirst hs).unique h
    rfl

theorem splitAtSymbol_eq_iff : splitAtSymbol c s = (before, behind) ↔ UpTo c s before behind := by
  have hcases := splitAtSymbol_cases c s
  constructor
  · intro h
    rcases hcases with ⟨a, b, ha, rfl, hs⟩ | ⟨hc, hs⟩
    · obtain ⟨rfl, rfl⟩ := Prod.mk.inj (hs.symm.trans h)
      exact .found ha
    · obtain ⟨rfl, rfl⟩ := Prod.mk.inj (hs.symm.trans h)
      exact .missing hc
  · intro h
    cases h with
    | found ha => exact splitAtSymbol_append ha
    | missing hc =>
      rcases hcases with ⟨a, b, -, rfl, -⟩ | ⟨-, hs⟩
      · simp at hc
      · exact hs

end Cut

end StubProxy.Text
