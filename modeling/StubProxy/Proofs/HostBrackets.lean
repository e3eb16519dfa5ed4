import StubProxy.Proofs.Lossy
import StubProxy.Url.Host

/-!
# Brackets in hosts

A host of the web that holds a bracket starts with it, as only addresses do. In a domain name a
bracket stays what it is through every stage: undoing the percent-encoding, mapping, normalizing and
reading Punycode. No label of a name may hold one in the end.

* `Domain.mem_normalize`, `Domain.mem_readLabel`: the stages at which characters come and go.
* `Host.not_mem_of_read`: no name with a bracket is a host.
-/

namespace StubProxy.Url

open Text

namespace Domain

variable {c x : Char} {s t : List Char}

/-! ## Normalization -/

theorem mem_insertMark : x ∈ insertMark c s ↔ x = c ∨ x ∈ s := by
  induction s with
  | nil => simp [insertMark]
  | cons d s ih =>
    rw [insertMark]
    split
    · simp only [List.mem_cons, ih]
      tauto
    · exact List.mem_cons

theorem mem_orderMarks : x ∈ orderMarks s ↔ x ∈ s := by
  have hfold : ∀ t, x ∈ s.foldl (fun t c => insertMark c t) t ↔ x ∈ s ∨ x ∈ t := by
    induction s with
    | nil => simp
    | cons c s ih =>
      intro t
      rw [List.foldl_cons, ih, mem_insertMark, List.mem_cons]
      tauto
  rw [orderMarks, List.mem_reverse, hfold]
  simp

theorem composePair_bracket (a b : Char) (h : a = '[' ∨ b = '[') : composePair a b = none := by
  have hn : '['.toNat = 91 := rfl
  have ht : takesMark '[' = false := by decide
  rcases h with rfl | rfl <;> simp [composePair, hn, ht]

theorem mem_composeFrom {starter : Char} {between : List Char}
    (h : '[' ∈ starter :: between.reverse ++ s) : '[' ∈ composeFrom starter between s := by
  induction s generalizing starter between with
  | nil => simpa [composeFrom] using h
  | cons c s ih =>
    unfold composeFrom
    simp only
    split
    · -- what is composed is neither of the two
      rename_i composed hcomposed
      have hne : ¬ (starter = '[' ∨ c = '[') := by
        intro hb
        rw [composePair_bracket starter c hb, ite_self] at hcomposed
        cases hcomposed
      rw [not_or] at hne
      apply ih
      simp only [List.mem_append, List.mem_cons, List.mem_reverse] at h ⊢
      have := Ne.symm hne.1
      have := Ne.symm hne.2
      tauto
    · simp only [List.mem_append, List.mem_cons, List.mem_reverse] at h
      split
      · rw [List.mem_append, List.mem_cons, List.mem_reverse]
        have hrest : '[' = c ∨ '[' ∈ s → '[' ∈ composeFrom c [] s := fun h => ih (by simpa using h)
        tauto
      · apply ih
        simp only [List.mem_append, List.mem_cons, List.mem_reverse]
        tauto

theorem mem_compose (h : '[' ∈ s) : '[' ∈ compose s := by
  induction s with
  | nil => exact h
  | cons c s ih =>
    rw [compose]
    split
    · exact mem_composeFrom (by simpa using h)
    · rw [List.mem_cons] at h ⊢
      exact h.imp_right ih

theorem mem_normalize (h : '[' ∈ s) : '[' ∈ normalize s := by
  unfold normalize
  split
  · exact h
  · have hd : decompose 4 '[' = ['['] := rfl
    apply mem_compose
    rw [mem_orderMarks, List.mem_flatMap]
    exact ⟨'[', h, by simp [hd]⟩

/-! ## Punycode -/

namespace Punycode

variable {r r' : Reading} {out : List Char}

theorem mem_finish {position : Nat} (h : r.finish position = some r') (hx : x ∈ r.out) :
    x ∈ r'.out := by
  unfold Reading.finish at h
  simp only at h
  split at h
  · obtain rfl := Option.some.inj h
    have hparts := List.take_append_drop (position % (r.out.length + 1)) r.out
    rw [← hparts, List.mem_append] at hx
    rw [List.mem_append, List.mem_cons]
    tauto
  · cases h

/-- Digits only are read, and what is decoded stays. -/
theorem mem_readDigits (h : readDigits r s = some out) :
    (∀ c ∈ s, (digit? c).isSome) ∧ ∀ x ∈ r.out, x ∈ out := by
  induction s generalizing r with
  | nil =>
    rw [readDigits] at h
    split at h
    · obtain rfl := Option.some.inj h
      simp
    · cases h
  | cons c s ih =>
    rw [readDigits] at h
    cases hd : digit? c with
    | none =>
      rw [hd] at h
      cases h
    | some d =>
      simp only [hd] at h
      rw [List.forall_mem_cons, hd]
      split at h
      · obtain ⟨r', hr, h⟩ := Option.bind_eq_some_iff.1 h
        obtain ⟨hdigits, hout⟩ := ih h
        exact ⟨⟨rfl, hdigits⟩, fun x hx => hout x (mem_finish hr hx)⟩
      · obtain ⟨hdigits, hout⟩ := ih h
        exact ⟨⟨rfl, hdigits⟩, hout⟩

/-- What is no hyphen, and does not stand in front of the first one, stands behind it. -/
theorem mem_plain (hx : x ∈ s) (hne : x ≠ '-') (htail : x ∉ s.takeWhile (· ≠ '-')) :
    x ∈ s.drop ((s.takeWhile (· ≠ '-')).length + 1) := by
  by_cases hyphen : '-' ∈ s
  · obtain ⟨p, q, rfl, hp⟩ := List.eq_append_cons_of_mem hyphen
    rw [takeWhile_ne_append hp] at htail ⊢
    rw [List.append_cons, List.drop_left' (by simp)]
    simp only [List.mem_append, List.mem_cons] at hx
    tauto
  · rw [takeWhile_ne_of_not_mem hyphen] at htail
    exact absurd hx htail

theorem mem_decode (h : decode s = some out) (hb : '[' ∈ s) : '[' ∈ out := by
  unfold decode at h
  simp only at h
  split at h
  · obtain ⟨hdigits, hout⟩ := mem_readDigits h
    -- behind the last hyphen stand digits only, so the bracket stands in front of it
    have hno : '[' ∉ s.reverse.takeWhile (· ≠ '-') := by
      intro hm
      have hsome := hdigits '[' (List.mem_reverse.2 hm)
      exact absurd hsome (by decide)
    apply hout
    rw [List.mem_reverse]
    exact mem_plain (List.mem_reverse.2 hb) (by decide) hno
  · cases h

end Punycode

/-! ## Names -/

theorem mem_map (h : map s = some t) (hb : '[' ∈ s) : '[' ∈ t := by
  induction s generalizing t with
  | nil => simp at hb
  | cons c s ih =>
    rw [map] at h
    rw [List.mem_cons] at hb
    split at h
    · obtain ⟨u, hu, rfl⟩ := Option.map_eq_some_iff.1 h
      rcases hb with rfl | hb
      · exact List.mem_cons_self
      · exact List.mem_cons_of_mem _ (ih hu hb)
    · rename_i hc
      rcases hb with rfl | hb
      · exact absurd (by decide) hc
      · simp only [Option.pure_def, Option.bind_eq_bind, Option.bind_eq_some_iff] at h
        obtain ⟨v, -, u, hu, hvu⟩ := h
        rw [← Option.some.inj hvu, List.mem_append]
        exact .inr (ih hu hb)

theorem mem_readLabel (h : readLabel s = some t) (hb : '[' ∈ s) : '[' ∈ t := by
  unfold readLabel at h
  split at h
  · rename_i hmark
    obtain ⟨u, rfl⟩ := List.isPrefixOf_iff_prefix.1 hmark
    have hu : '[' ∈ u := by
      rw [List.mem_append] at hb
      exact hb.resolve_left (by decide)
    have hdrop : (punycodeMark ++ u).drop 4 = u := rfl
    simp only [hdrop] at h
    split at h
    · cases h
    · obtain ⟨d, hd, h⟩ := Option.bind_eq_some_iff.1 h
      split at h
      · obtain rfl := Option.some.inj h
        exact Punycode.mem_decode hd hu
      · cases h
  · obtain rfl := Option.some.inj h
    exact hb

theorem exists_mem_pieces {sep : Char} (hx : x ≠ sep) (h : x ∈ s) : ∃ l ∈ pieces sep s, x ∈ l := by
  have hmem : x ∈ (pieces sep s).flatMap (· ++ [sep]) := by
    rw [flatMap_pieces]
    exact List.mem_append_left _ h
  obtain ⟨l, hl, hxl⟩ := List.mem_flatMap.1 hmem
  rw [List.mem_append, List.mem_singleton] at hxl
  exact ⟨l, hl, hxl.resolve_right hx⟩

theorem exists_of_mem_mapM {α β : Type} {f : α → Option β} {xs : List α} {ys : List β} {x : α}
    (h : xs.mapM f = some ys) (hx : x ∈ xs) : ∃ y ∈ ys, f x = some y := by
  induction xs generalizing ys with
  | nil => cases hx
  | cons a xs ih =>
    simp only [List.mapM_cons, Option.pure_def, Option.bind_eq_bind, Option.bind_eq_some_iff,
      Option.some.injEq] at h
    obtain ⟨b, hb, bs, hbs, rfl⟩ := h
    rcases List.mem_cons.1 hx with rfl | hx
    · exact ⟨b, List.mem_cons_self, hb⟩
    · obtain ⟨y, hy, hfy⟩ := ih hbs hx
      exact ⟨y, List.mem_cons_of_mem _ hy, hfy⟩

/-- **No name with a bracket** is a domain. -/
theorem toAscii_bracket (h : '[' ∈ s) : toAscii s = none := by
  unfold toAscii
  cases hm : map s with
  | none => rfl
  | some t =>
    have ht := mem_normalize (mem_map hm h)
    have hdot : '[' ≠ '.' := by decide
    obtain ⟨p, hp, hbp⟩ := exists_mem_pieces hdot ht
    simp only [Option.bind_eq_bind, Option.bind_some]
    cases hl : (pieces '.' (normalize t)).mapM readLabel with
    | none => rfl
    | some labels =>
      have hforbidden : labels.any (·.any isForbidden) = true := by
        obtain ⟨l, hlabel, hread⟩ := exists_of_mem_mapM hl hp
        exact List.any_eq_true.2 ⟨l, hlabel,
          List.any_eq_true.2 ⟨'[', mem_readLabel hread hbp, by decide⟩⟩
      simp only [Option.bind_some, hforbidden, if_true]

end Domain

/-! ## Hosts -/

variable {s : List Char}

/-- Only percent signs are undone, with the two digits behind them. -/
theorem mem_percentDecode {b : List UInt8} (h : 0x5B ∈ b) : 0x5B ∈ percentDecode b := by
  have hdigit : byteDigit? 0x5B = none := by decide
  fun_induction percentDecode b with
  | case1 x y r m n hy hx ih =>
    simp only [List.mem_cons] at h ⊢
    rcases h with h | rfl | rfl | h
    · exact absurd h (by decide)
    · rw [hdigit] at hx
      cases hx
    · rw [hdigit] at hy
      cases hy
    · exact .inr (ih h)
  | case2 x y r hxy ih =>
    rw [List.mem_cons] at h ⊢
    exact h.imp_right ih
  | case3 b r hb ih =>
    rw [List.mem_cons] at h ⊢
    exact h.imp_right ih
  | case4 => exact h

namespace Host

theorem mem_decoded (h : '[' ∈ s) : '[' ∈ decoded s := by
  unfold decoded
  split
  · have hbyte : (0x5B : UInt8) ∈ Utf8.encode s := (Utf8.mem_encode (c := '[') (by decide)).2 h
    obtain ⟨x, y, hxy⟩ := List.append_of_mem (mem_percentDecode hbyte)
    rw [hxy, Utf8.decodeLossy_append (by decide)]
    simp [Utf8.asciiChar]
  · exact h

/-- **Only addresses hold brackets.** -/
theorem not_mem_of_read {h : Host} (hr : read s = some h) (hs : s.head? ≠ some '[') : '[' ∉ s := by
  intro hb
  rw [read, if_neg hs, Domain.toAscii_bracket (mem_decoded hb)] at hr
  cases hr

end Host

end StubProxy.Url
