import StubProxy.Proofs.BodyFrame

/-!
# What dedenting leaves of a body

A text rule loses its margin before it is read. That changes no more of it than the indentation of
its lines, and of the body no more than the indentation of the lines that start in it.

* `dedent_break`: a text without its margin, cut at a visible character.
* `flush_unindent`: lines flush left have nothing to lose.
* `exists_outline_dedent`: what a rule says without its margin, but for indentation.
* `outline_dedent_body`: what its body is.
-/

namespace StubProxy

open Text

namespace Text

variable {a b s m u v x y : List Char} {c : Char}

theorem joinPieces_append_cons (sep : Char) (p q : List Char) (ps : List (List Char)) :
    joinPieces sep ((p ++ q) :: ps) = p ++ joinPieces sep (q :: ps) := by
  cases ps with
  | nil => rfl
  | cons r ps => rw [joinPieces, joinPieces, List.append_assoc]

/-- Indentation in front of a line is in front of its first visible character. -/
theorem isPrefix_of_indent (hc : isBlank c = false) {p q : List Char}
    (hm : m <+: indentOf (p ++ c :: q)) : m <+: p := by
  have hline : m <+: p ++ c :: q := hm.trans (List.takeWhile_prefix _)
  rcases List.prefix_or_prefix_of_prefix hline (List.prefix_append p (c :: q)) with h | ⟨w, rfl⟩
  · exact h
  · cases w with
    | nil => simp
    | cons d w =>
      obtain ⟨rfl, -⟩ := List.cons_prefix_cons.1 ((List.prefix_append_right_inj p).1 hline)
      have hd : isIndent d := isIndent_of_isPrefix hm d (by simp)
      rw [isIndent_of_not_blank hc] at hd
      cases hd

/-- What is taken off a line is taken off in front of its first visible character. -/
theorem exists_stripMargin (hc : isBlank c = false) {p q : List Char}
    (hm : m <+: indentOf (p ++ c :: q)) : ∃ p', stripMargin m (p ++ c :: q) = p' ++ c :: q := by
  obtain ⟨t, rfl⟩ := isPrefix_of_indent hc hm
  have hv : isBare (m ++ t ++ c :: q) = false := by simp [isBare, isIndent_of_not_blank hc]
  refine ⟨t, ?_⟩
  rw [stripMargin_visible hv (hm.trans (List.takeWhile_prefix _)), List.append_assoc,
    List.drop_left]

/-- **A text without its margin, cut at a visible character**: behind it only the lines that start
there have lost anything. -/
theorem dedent_break (hc : isBlank c = false) (a b : List Char) :
    ∃ a', dedent (a ++ c :: b) = a' ++ c :: unindent (margin (pieces '\n' (a ++ c :: b))) b := by
  obtain ⟨ps, p, q, qs, -, hq, hab⟩ := exists_pieces_append '\n' a (c :: b)
  obtain ⟨r, rs, hr⟩ := exists_pieces '\n' b
  rw [pieces, if_neg (ne_lineFeed_of_not_blank hc), hr] at hq
  obtain ⟨rfl, rfl⟩ := List.cons.inj hq
  have hv : isBare (p ++ c :: r) = false := by simp [isBare, isIndent_of_not_blank hc]
  have hmem : p ++ c :: r ∈ pieces '\n' (a ++ c :: b) := by simp [hab]
  obtain ⟨p', hp'⟩ := exists_stripMargin hc (margin_isPrefix hmem hv)
  simp only [dedent, unindent, hr]
  generalize margin (pieces '\n' (a ++ c :: b)) = m at hp' ⊢
  refine ⟨(ps.map (stripMargin m)).flatMap (· ++ ['\n']) ++ p', ?_⟩
  rw [hab, List.map_append, List.map_cons, hp', joinPieces_append, List.append_cons p' c r,
    joinPieces_append_cons]
  simp

/-! ## Flush left -/

/-- What a text that starts within a line loses is indentation. -/
theorem flush_unindent
    (hm : ∀ l ∈ (pieces '\n' s).tail, isBare l = false → m <+: indentOf l) :
    flush false (unindent m s) = flush false s := by
  obtain ⟨p, ps, h⟩ := exists_pieces '\n' s
  have hlf : ∀ l ∈ p :: ps, '\n' ∉ l := h ▸ fun l hl => not_mem_of_mem_pieces hl
  rw [h, List.tail_cons] at hm
  rw [List.forall_mem_cons] at hlf
  have hpieces : pieces '\n' (unindent m s) = p :: ps.map (stripMargin m) := by
    simp only [unindent, h]
    apply pieces_joinPieces (List.cons_ne_nil _ _)
    rw [List.forall_mem_cons, List.forall_mem_map]
    exact ⟨hlf.1, fun l hl hc => hlf.2 l hl (mem_of_mem_stripMargin hc)⟩
  rw [← joinPieces_pieces '\n' (flush false (unindent m s)), ← joinPieces_pieces '\n' (flush false s),
    pieces_flush hpieces, pieces_flush h, List.map_map]
  congr 2
  exact List.map_congr_left fun l hl => dropWhile_stripMargin (hm l hl)

theorem flush_trimEnd (s : List Char) :
    flush false (trimEnd isBlank s) = trimEnd isBlank (flush false s) := by
  -- behind a visible character, trimming is trimming at the end
  have hc : isBlank ':' = false := by decide
  have h := trim_flush false (':' :: s)
  have hs := trim_stop_end hc [] s
  have hf := trim_stop_end hc [] (flush false s)
  simp only [List.nil_append, List.dropWhile_nil] at hs hf
  rw [flush_visible hc, hf, hs, flush_visible hc] at h
  exact (List.cons.inj h).2.symm

theorem eq_nil_of_flush (hs : ∀ c, s.getLast? = some c → isBlank c = false)
    (hf : flush false s = []) : s = [] := by
  rcases List.eq_nil_or_concat s with h | ⟨t, c, rfl⟩
  · exact h
  · rw [List.concat_eq_append] at hs hf
    rw [flush_append (hs c List.getLast?_concat)] at hf
    simp at hf

/-- Behind a visible character, how long the rest is can be told from its lines flush left. -/
theorem eq_of_flush_eq (hc : isBlank c = false) (h : u ++ c :: x = v ++ c :: y)
    (hf : flush false x = flush false y) : x = y := by
  have hcases : ∀ {x y w : List Char}, c :: x = w ++ c :: y → flush false x = flush false y →
      x = y := by
    intro x y w hw hf
    cases w with
    | nil => exact (List.cons.inj hw).2
    | cons d w =>
      obtain rfl : _ = w ++ c :: y := (List.cons.inj hw).2
      rw [flush_append hc] at hf
      have hlen := congrArg List.length hf
      simp only [List.length_append, List.length_cons] at hlen
      omega
  rcases List.append_eq_append_iff.1 h with ⟨w, -, hw⟩ | ⟨w, -, hw⟩
  · exact hcases hw hf
  · exact (hcases hw hf.symm).symm

end Text

/-! ## The outline of a text rule -/

section Outlines

variable {s a b : List Char} {o o' : Outline Char}

/-- Without its margin, a text has the outline that it has with it, but for indentation. -/
theorem exists_outline_dedent (h : textScript.outline s = some o) :
    ∃ o', textScript.outline (dedent s) = some o' ∧ o'.map (flush false) = o.map (flush false) := by
  have hs : textScript.outline (flush true s) = (textScript.outline s).map (.map (flush false)) :=
    Script.carries_flush.outline_eq (trim_flush true s)
  rw [outline_flush, h, Option.map_some] at hs
  exact Option.map_eq_some_iff.1 hs

/-- **The body of a text rule** stands behind the first colon of its response, and has lost the
margin on all lines that start in it. -/
theorem outline_dedent_body (h : textScript.outline (dedent (a ++ ':' :: b)) = some o)
    (hb : flush false o.body = flush false (trimEnd isBlank b)) :
    o.body = trimEnd isBlank (unindent (margin (pieces '\n' (a ++ ':' :: b))) b) := by
  have hc : isBlank ':' = false := by decide
  obtain ⟨a', ha'⟩ := dedent_break hc a b
  have hmargin : ∀ l ∈ (pieces '\n' b).tail, isBare l = false →
      margin (pieces '\n' (a ++ ':' :: b)) <+: indentOf l := by
    intro l hl hv
    have hmem := mem_pieces_append (a ++ [':']) hl
    rw [← List.append_cons] at hmem
    exact margin_isPrefix hmem hv
  generalize margin (pieces '\n' (a ++ ':' :: b)) = m at ha' hmargin ⊢
  have hflush : flush false o.body = flush false (trimEnd isBlank (unindent m b)) := by
    rw [hb, flush_trimEnd, flush_trimEnd, flush_unindent hmargin]
  obtain ⟨hbody, -⟩ := Script.outline_body h
  rcases hbody with hnil | ⟨u, hu⟩
  · rw [hnil] at hflush ⊢
    obtain ⟨-, -, -, hlast⟩ := trimEnd_split isBlank (unindent m b)
    exact (eq_nil_of_flush hlast hflush.symm).symm
  · -- the same text stands behind two colons, and flush left the ends are equal
    have htrim : textScript.trim (dedent (a ++ ':' :: b)) =
        a'.dropWhile isBlank ++ ':' :: trimEnd isBlank (unindent m b) := by
      rw [ha']
      exact trim_stop_end hc a' _
    rw [htrim] at hu
    exact (eq_of_flush_eq hc hu hflush.symm).symm

theorem readStatus_of_flush {t : List Char} {n : Nat} (hf : flush false t = flush false s)
    (h : readStatus s = .ok n) : readStatus t = .ok n := by
  have hread : readWord16 (trim isBlank t) = readWord16 (trim isBlank s) := by
    rw [← readWord16_flush, ← trim_flush, hf, trim_flush, readWord16_flush]
  obtain ⟨hs, hn⟩ := Script.readStatus_eq_ok_iff.1 h
  exact Script.readStatus_eq_ok_iff.2
    ⟨readWord16_eq_ok.1 (hread.trans (readWord16_eq_ok.2 hs)), hn⟩

end Outlines

end StubProxy
