import StubProxy.Proofs.Utf8
import StubProxy.Rule.Script

/-!
# Searching among bytes

A search among bytes compares windows of them and knows nothing of characters. It still finds the
first occurrence of a text in a text, for the bytes of a character tell where it starts.

* `exists_of_lead`: in front of the first byte of a character, bytes are cut between characters.
* `exists_of_occurrence`: the bytes of a text occur only where the text itself does.
* `Script.byte_split_first`: what a cut of bytes is, and that it is the cut of the text.
-/

namespace StubProxy

open Text

namespace Text.Utf8

variable {s mark : List Char} {before behind : List UInt8}

/-- A byte that continues no character has whole characters on its left. -/
theorem exists_of_lead {b : UInt8} (hb : isCont b = false) (h : encode s = before ++ b :: behind) :
    ∃ x y, s = x ++ y ∧ before = encode x ∧ b :: behind = encode y := by
  induction s generalizing before with
  | nil => simp at h
  | cons c s ih =>
    rw [encode_cons] at h
    rcases List.append_eq_append_iff.1 h with ⟨m, rfl, hm⟩ | ⟨m, hm, hr⟩
    · -- the byte is behind the character `c`
      obtain ⟨x, y, rfl, rfl, hy⟩ := ih hm
      exact ⟨c :: x, y, rfl, rfl, hy⟩
    · obtain ⟨lead, rest, hc, -, hrest⟩ := encodeChar_lead c
      rw [hc] at hm
      cases before with
      | nil =>
        refine ⟨[], c :: s, rfl, rfl, ?_⟩
        rw [hr, encode_cons, hc, hm, List.nil_append]
      | cons lead' before =>
        cases m with
        | nil =>
          rw [List.append_nil] at hm
          refine ⟨[c], s, rfl, ?_, hr⟩
          rw [← hm, encode_cons, hc, encode_nil, List.append_nil]
        | cons b' m =>
          -- within `c` there are only continuation bytes
          obtain ⟨rfl, -⟩ := List.cons.inj hr
          rw [List.cons_append] at hm
          have hmem : b ∈ rest := by simp [(List.cons.inj hm).2]
          have hcont := hrest b hmem
          rw [hb] at hcont
          exact absurd hcont (by simp)

/-- **The bytes of a text occur where the text occurs**, and nowhere else. -/
theorem exists_of_occurrence (hm : mark ≠ []) (h : encode s = before ++ encode mark ++ behind) :
    ∃ x y, s = x ++ mark ++ y ∧ before = encode x ∧ behind = encode y := by
  obtain ⟨c, cs, rfl⟩ := List.exists_cons_of_ne_nil hm
  obtain ⟨lead, rest, hc, hlead, -⟩ := encodeChar_lead c
  have hs : encode s = before ++ lead :: (rest ++ encode cs ++ behind) := by
    rw [h, encode_cons, hc]
    simp
  obtain ⟨x, y, rfl, rfl, hy⟩ := exists_of_lead hlead hs
  have hbytes : encode y = encode (c :: cs) ++ behind := by
    rw [← hy, encode_cons, hc]
    simp
  obtain ⟨z, rfl⟩ := encode_isPrefix.1 ⟨behind, hbytes.symm⟩
  rw [encode_append] at hbytes
  exact ⟨x, z, by simp, rfl, (List.append_cancel_left hbytes).symm⟩

end Text.Utf8

namespace Script

/-- **A cut of bytes is at the first occurrence.** There is none exactly if the mark does not occur,
and otherwise no occurrence starts before the one that is taken out. Where mark and bytes write
texts, the cut is that of the text, and no occurrence at all starts or ends within a character. -/
theorem byte_split_first :
    (∀ mark s : List UInt8, mark ≠ [] →
      (splitFirst mark s = none ↔ ¬ mark <:+: s) ∧
        ∀ before behind, splitFirst mark s = some (before, behind) ↔
          CutAt mark s before behind) ∧
    ∀ mark : List Char, mark ≠ [] →
      (∀ s, byteScript.split mark s = splitFirst (Utf8.encode mark) s) ∧
        ∀ text,
          byteScript.split mark (Utf8.encode text) =
              (textScript.split mark text).map (fun p => (Utf8.encode p.1, Utf8.encode p.2)) ∧
            ∀ before behind, Utf8.encode text = before ++ Utf8.encode mark ++ behind →
              ∃ x y, text = x ++ mark ++ y ∧ before = Utf8.encode x ∧ behind = Utf8.encode y := by
  refine ⟨fun mark s _ => ⟨splitFirst_eq_none, fun before behind => splitFirst_eq_some_iff⟩, ?_⟩
  intro mark hm
  refine ⟨fun s => rfl, fun text => ⟨Utf8.splitFirst_encode hm text, ?_⟩⟩
  intro before behind h
  exact Utf8.exists_of_occurrence hm h

/-- An occurrence that starts within a failed attempt, a mark longer than the bytes, and a mark of
two characters that share their first byte with one in front of it. -/
theorem byte_split_first_overlaps :
    ([97, 97, 98] : List UInt8) ≠ [] ∧
      CutAt [97, 97, 98] ([97, 97, 97, 98, 97, 97, 98] : List UInt8) [97] [97, 97, 98] ∧
      ¬ ([97, 97, 98] : List UInt8) <:+: [97, 98] ∧
      ['é', 'è'] ≠ [] ∧
      byteScript.split ['é', 'è'] (Utf8.encode ['é', 'é', 'è', '!']) =
        some (Utf8.encode ['é'], Utf8.encode ['!']) := by
  have hbytes := fun s => byte_split_first.1 [97, 97, 98] s (by decide)
  have htext := (byte_split_first.2 ['é', 'è'] (by decide)).2 ['é', 'é', 'è', '!']
  refine ⟨by decide, ?_, ?_, by decide, ?_⟩
  · exact ((hbytes _).2 _ _).1 (by decide)
  · exact (hbytes _).1.1 (by decide)
  · rw [htext.1]
    decide

end Script

end StubProxy
