import StubProxy.Proofs.Split
import StubProxy.Text.Utf8

/-!
# Reading back UTF-8

The bytes of a character start with a byte that is no continuation byte, and only continuation bytes
follow. So a scan reads characters one by one, and a search among bytes finds whole characters.

* `scan_encodeChar`, `decodeLossy_encode`: what was written is read back.
* `encodeChar_append_inj`: the bytes of one character are never the start of those of another.
* `splitFirst_encode`: searching the bytes of a text is searching the text.
-/

namespace StubProxy.Text.Utf8

/-! ## One character -/

theorem isCont_iff {b : UInt8} : isCont b = true ↔ 128 ≤ b.toNat ∧ b.toNat ≤ 191 := by
  simp [isCont, UInt8.le_iff_toNat_le]

theorem isSecond3_of {a b : UInt8} (hb : isCont b) (hl : a.toNat = 224 → 160 ≤ b.toNat)
    (hs : a.toNat = 237 → b.toNat ≤ 159) : isSecond3 a b := by
  rw [isCont_iff] at hb
  unfold isSecond3
  split
  · rename_i h
    have := hl (by rw [h]; rfl)
    simp [UInt8.le_iff_toNat_le]
    omega
  split
  · rename_i h
    have := hs (by rw [h]; rfl)
    simp [UInt8.le_iff_toNat_le]
    omega
  · exact isCont_iff.2 hb

theorem isSecond4_of {a b : UInt8} (hb : isCont b) (hl : a.toNat = 240 → 144 ≤ b.toNat)
    (hs : a.toNat = 244 → b.toNat ≤ 143) : isSecond4 a b := by
  rw [isCont_iff] at hb
  unfold isSecond4
  split
  · rename_i h
    have := hl (by rw [h]; rfl)
    simp [UInt8.le_iff_toNat_le]
    omega
  split
  · rename_i h
    have := hs (by rw [h]; rfl)
    simp [UInt8.le_iff_toNat_le]
    omega
  · exact isCont_iff.2 hb

theorem scan_one {a : UInt8} {r : List UInt8} (ha : a.toNat < 128) :
    scan (a :: r) = some (Char.ofNat a.toNat) :: scan r := by
  have h1 : a < 0x80 := UInt8.lt_iff_toNat_lt.2 ha
  rw [scan.eq_def]
  simp only [h1, if_true]

theorem scan_two {a b : UInt8} {r : List UInt8} (ha : 194 ≤ a.toNat ∧ a.toNat ≤ 223)
    (hb : isCont b) : scan (a :: b :: r) = some (char2 a b) :: scan r := by
  have h1 : ¬ a < 0x80 := by rw [UInt8.lt_iff_toNat_lt]; exact Nat.not_lt.2 (by simp; omega)
  have h2 : 0xC2 ≤ a ∧ a ≤ 0xDF := ha
  rw [scan.eq_def]
  simp only [h1, h2, hb, if_true, if_false, and_self]

theorem scan_three {a b c : UInt8} {r : List UInt8} (ha : 224 ≤ a.toNat ∧ a.toNat ≤ 239)
    (hb : isSecond3 a b) (hc : isCont c) :
    scan (a :: b :: c :: r) = some (char3 a b c) :: scan r := by
  have h1 : ¬ a < 0x80 := by rw [UInt8.lt_iff_toNat_lt]; exact Nat.not_lt.2 (by simp; omega)
  have h2 : ¬ (0xC2 ≤ a ∧ a ≤ 0xDF) := by simp only [UInt8.le_iff_toNat_le]; simp; omega
  have h3 : 0xE0 ≤ a ∧ a ≤ 0xEF := ha
  rw [scan.eq_def]
  simp only [h1, h2, h3, hb, hc, if_true, if_false, and_self]

theorem scan_four {a b c d : UInt8} {r : List UInt8} (ha : 240 ≤ a.toNat ∧ a.toNat ≤ 244)
    (hb : isSecond4 a b) (hc : isCont c) (hd : isCont d) :
    scan (a :: b :: c :: d :: r) = some (char4 a b c d) :: scan r := by
  have h1 : ¬ a < 0x80 := by rw [UInt8.lt_iff_toNat_lt]; exact Nat.not_lt.2 (by simp; omega)
  have h2 : ¬ (0xC2 ≤ a ∧ a ≤ 0xDF) := by simp only [UInt8.le_iff_toNat_le]; simp; omega
  have h3 : ¬ (0xE0 ≤ a ∧ a ≤ 0xEF) := by simp only [UInt8.le_iff_toNat_le]; simp; omega
  have h4 : 0xF0 ≤ a ∧ a ≤ 0xF4 := ha
  rw [scan.eq_def]
  simp only [h1, h2, h3, h4, hb, hc, hd, if_true, if_false, and_self]

theorem toNat_cases (c : Char) : c.toNat < 55296 ∨ 57343 < c.toNat ∧ c.toNat < 1114112 := c.valid

/-- The bytes of a character, by the range of its code point. -/
theorem encodeChar_cases (c : Char) :
    (∃ a, String.utf8EncodeChar c = [a] ∧ c.toNat < 128 ∧ a.toNat = c.toNat) ∨
    (∃ a b, String.utf8EncodeChar c = [a, b] ∧ 128 ≤ c.toNat ∧ c.toNat < 2048 ∧
      a.toNat = c.toNat / 64 + 192 ∧ b.toNat = c.toNat % 64 + 128) ∨
    (∃ a b d, String.utf8EncodeChar c = [a, b, d] ∧ 2048 ≤ c.toNat ∧ c.toNat < 65536 ∧
      a.toNat = c.toNat / 4096 + 224 ∧ b.toNat = c.toNat / 64 % 64 + 128 ∧
      d.toNat = c.toNat % 64 + 128) ∨
    (∃ a b d e, String.utf8EncodeChar c = [a, b, d, e] ∧ 65536 ≤ c.toNat ∧
      a.toNat = c.toNat / 262144 + 240 ∧ b.toNat = c.toNat / 4096 % 64 + 128 ∧
      d.toNat = c.toNat / 64 % 64 + 128 ∧ e.toNat = c.toNat % 64 + 128) := by
  have hc := toNat_cases c
  have hv : c.val.toNat = c.toNat := rfl
  unfold String.utf8EncodeChar
  simp only [hv]
  split
  · refine .inl ⟨_, rfl, ?_, ?_⟩
    · omega
    · rw [UInt8.toNat_ofNat']; omega
  split
  · refine .inr (.inl ⟨_, _, rfl, ?_, ?_, ?_, ?_⟩)
    · omega
    · omega
    all_goals rw [UInt8.toNat_ofNat']; omega
  split
  · refine .inr (.inr (.inl ⟨_, _, _, rfl, ?_, ?_, ?_, ?_, ?_⟩))
    · omega
    · omega
    all_goals rw [UInt8.toNat_ofNat']; omega
  · refine .inr (.inr (.inr ⟨_, _, _, _, rfl, ?_, ?_, ?_, ?_, ?_⟩))
    · omega
    all_goals rw [UInt8.toNat_ofNat']; omega

theorem ofNat_eq {c : Char} {n : Nat} (h : n = c.toNat) : Char.ofNat n = c := by
  rw [h, Char.ofNat_toNat]

/-- **A scan reads a character** from its bytes, whatever follows. -/
theorem scan_encodeChar (c : Char) (r : List UInt8) :
    scan (String.utf8EncodeChar c ++ r) = some c :: scan r := by
  have hc := toNat_cases c
  rcases encodeChar_cases c with ⟨a, h, hl, ha⟩ | ⟨a, b, h, hl, hu, ha, hb⟩ |
    ⟨a, b, d, h, hl, hu, ha, hb, hd⟩ | ⟨a, b, d, e, h, hl, ha, hb, hd, he⟩
  · have hr : Char.ofNat a.toNat = c := ofNat_eq ha
    rw [h, ← hr]
    exact scan_one (by omega)
  · have hr : char2 a b = c := ofNat_eq (by unfold payload; omega)
    rw [h, ← hr]
    exact scan_two (by omega) (isCont_iff.2 (by omega))
  · -- long forms and surrogates are out, so the second byte lies in its narrower range
    have hr : char3 a b d = c := ofNat_eq (by unfold payload; omega)
    rw [h, ← hr]
    exact scan_three (by omega) (isSecond3_of (isCont_iff.2 (by omega)) (by omega) (by omega))
      (isCont_iff.2 (by omega))
  · have hr : char4 a b d e = c := ofNat_eq (by unfold payload; omega)
    rw [h, ← hr]
    exact scan_four (by omega) (isSecond4_of (isCont_iff.2 (by omega)) (by omega) (by omega))
      (isCont_iff.2 (by omega)) (isCont_iff.2 (by omega))

/-- No continuation byte in front, and only continuation bytes behind. -/
theorem encodeChar_lead (c : Char) : ∃ b bs, String.utf8EncodeChar c = b :: bs ∧
    isCont b = false ∧ ∀ x ∈ bs, isCont x := by
  have hc := toNat_cases c
  rcases encodeChar_cases c with ⟨a, h, hl, ha⟩ | ⟨a, b, h, hl, hu, ha, hb⟩ |
    ⟨a, b, d, h, hl, hu, ha, hb, hd⟩ | ⟨a, b, d, e, h, hl, ha, hb, hd, he⟩
  · refine ⟨a, [], h, ?_, by simp⟩
    rw [← Bool.not_eq_true, isCont_iff]
    omega
  all_goals
    refine ⟨_, _, h, ?_, ?_⟩
    · rw [← Bool.not_eq_true, isCont_iff]
      omega
    · simp only [List.forall_mem_cons, List.not_mem_nil, false_imp_iff, implies_true, and_true,
        isCont_iff]
      omega

/-! ## Texts -/

variable {s t : List Char}

@[simp] theorem encode_nil : encode [] = [] := rfl

@[simp] theorem encode_cons (c : Char) (s : List Char) :
    encode (c :: s) = String.utf8EncodeChar c ++ encode s := rfl

@[simp] theorem encode_append (s t : List Char) : encode (s ++ t) = encode s ++ encode t :=
  List.flatMap_append

theorem scan_encode (s : List Char) (r : List UInt8) :
    scan (encode s ++ r) = s.map some ++ scan r := by
  induction s with
  | nil => rfl
  | cons c s ih => rw [encode_cons, List.append_assoc, scan_encodeChar, ih]; rfl

/-- **What was written is read back.** -/
theorem decodeLossy_encode (s : List Char) : decodeLossy (encode s) = s := by
  have h := scan_encode s []
  rw [List.append_nil] at h
  simp [decodeLossy, h, scan, Function.comp_def]

theorem decode?_encode (s : List Char) : decode? (encode s) = some s := by
  have h := scan_encode s []
  rw [List.append_nil, scan, List.append_nil] at h
  have hm : ∀ t : List Char, (t.map some).mapM id = some t := by
    intro t
    induction t with
    | nil => rfl
    | cons c t ih =>
      rw [List.map_cons, List.mapM_cons, ih]
      rfl
  rw [decode?, h, hm]

theorem encode_inj : encode s = encode t ↔ s = t := by
  refine ⟨fun h => ?_, fun h => by rw [h]⟩
  rw [← decodeLossy_encode s, h, decodeLossy_encode]

theorem encode_eq_nil : encode s = [] ↔ s = [] := encode_inj (t := [])

/-- The bytes of one character are never the start of those of another. -/
theorem encodeChar_append_inj {c d : Char} {x y : List UInt8}
    (h : String.utf8EncodeChar c ++ x = String.utf8EncodeChar d ++ y) : c = d ∧ x = y := by
  -- scans of the two sides start with the two characters
  have hs := congrArg scan h
  rw [scan_encodeChar, scan_encodeChar] at hs
  obtain rfl : c = d := Option.some.inj (List.cons.inj hs).1
  exact ⟨rfl, List.append_cancel_left h⟩

theorem encode_isPrefix : encode s <+: encode t ↔ s <+: t := by
  constructor
  · intro h
    induction s generalizing t with
    | nil => simp
    | cons c s ih =>
      obtain ⟨r, hr⟩ := h
      cases t with
      | nil =>
        have hnil : encode (c :: s) = [] := (List.append_eq_nil_iff.1 hr).1
        exact absurd (encode_eq_nil.1 hnil) (by simp)
      | cons d t =>
        rw [encode_cons, encode_cons, List.append_assoc] at hr
        obtain ⟨rfl, hst⟩ := encodeChar_append_inj hr
        exact List.cons_prefix_cons.2 ⟨rfl, ih ⟨r, hst⟩⟩
  · rintro ⟨r, rfl⟩
    rw [encode_append]
    exact List.prefix_append _ _

/-- **Searching bytes is searching text**: no occurrence starts within a character. -/
theorem splitFirst_encode {mark : List Char} (hm : mark ≠ []) (s : List Char) :
    splitFirst (encode mark) (encode s) =
      (splitFirst mark s).map fun p => (encode p.1, encode p.2) := by
  have hme : encode mark ≠ [] := fun h => hm (encode_eq_nil.1 h)
  induction s with
  | nil => simp [splitFirst, hm, hme]
  | cons c s ih =>
    by_cases hp : mark <+: c :: s
    · obtain ⟨r, hr⟩ := hp
      rw [← hr, encode_append, splitFirst_mark, splitFirst_mark]
      rfl
    · have hpe : ¬ encode mark <+: encode (c :: s) := fun h => hp (encode_isPrefix.1 h)
      obtain ⟨b, bs, hc, -, hbs⟩ := encodeChar_lead c
      -- the mark starts with a byte that is no continuation byte, so the rest of `c` is passed over
      have hskip : ∀ x ∈ bs, (encode mark).head? ≠ some x := by
        intro x hx hx'
        cases mark with
        | nil => exact hm rfl
        | cons d mark =>
          obtain ⟨b', bs', hd, hb', -⟩ := encodeChar_lead d
          rw [encode_cons, hd] at hx'
          obtain rfl : b' = x := by simpa using hx'
          rw [hbs b' hx] at hb'
          exact absurd hb' (by simp)
      rw [encode_cons, hc, List.cons_append] at hpe ⊢
      rw [splitFirst, splitFirst, if_neg (by rwa [List.isPrefixOf_iff_prefix]),
        if_neg (by rwa [List.isPrefixOf_iff_prefix]), splitFirst_skip hskip hme, ih, Option.map_map,
        Option.map_map, Option.map_map]
      cases splitFirst mark s with
      | none => rfl
      | some p => simp [hc]

theorem infix_encode {mark : List Char} (hm : mark ≠ []) :
    encode mark <:+: encode s ↔ mark <:+: s := by
  rw [← Decidable.not_iff_not, ← splitFirst_eq_none, ← splitFirst_eq_none, splitFirst_encode hm,
    Option.map_eq_none_iff]

theorem head_encode {b : UInt8} (h : (encode s).head? = some b) :
    ∃ c, s.head? = some c ∧ b ∈ String.utf8EncodeChar c := by
  cases s with
  | nil => simp at h
  | cons c s =>
    obtain ⟨x, xs, hx, -⟩ := encodeChar_lead c
    rw [encode_cons, hx] at h
    exact ⟨c, rfl, by simp_all⟩

theorem last_encode {b : UInt8} (h : (encode s).getLast? = some b) :
    ∃ c, s.getLast? = some c ∧ b ∈ String.utf8EncodeChar c := by
  cases hs : s.getLast? with
  | none =>
    rw [List.getLast?_eq_none_iff.1 hs] at h
    simp at h
  | some c =>
    obtain ⟨t, rfl⟩ := List.getLast?_eq_some_iff.1 hs
    obtain ⟨x, xs, hx, -⟩ := encodeChar_lead c
    have hc : (String.utf8EncodeChar c).getLast? = some b := by
      simpa [hx, List.getLast?_append, List.getLast?_cons] using h
    exact ⟨c, rfl, List.mem_of_getLast? hc⟩

/-! ## ASCII -/

/-- A character of ASCII is one byte. -/
theorem encodeChar_ascii {c : Char} (hc : c.toNat < 128) :
    String.utf8EncodeChar c = [UInt8.ofNat c.toNat] := by
  have hv : c.val.toNat = c.toNat := rfl
  unfold String.utf8EncodeChar
  simp only [hv]
  rw [if_pos (by omega)]

/-- Characters of ASCII are one byte each. -/
theorem encode_ascii (hs : ∀ c ∈ s, c.toNat < 128) :
    encode s = s.map fun c => UInt8.ofNat c.toNat := by
  induction s with
  | nil => rfl
  | cons c s ih =>
    rw [List.forall_mem_cons] at hs
    rw [encode_cons, encodeChar_ascii hs.1, ih hs.2]
    rfl

/-- A byte below 128 is the only byte of an ASCII character. -/
theorem toNat_of_mem_encodeChar {c : Char} {b : UInt8} (hb : b ∈ String.utf8EncodeChar c)
    (h : b.toNat < 128) : b.toNat = c.toNat := by
  rcases encodeChar_cases c with ⟨a, hc, hl, ha⟩ | ⟨a, x, hc, hl, hu, ha, hx⟩ |
    ⟨a, x, y, hc, hl, hu, ha, hx, hy⟩ | ⟨a, x, y, z, hc, hl, ha, hx, hy, hz⟩
  all_goals
    rw [hc] at hb
    simp only [List.mem_cons, List.not_mem_nil, or_false] at hb
  · rw [hb, ha]
  · rcases hb with rfl | rfl <;> omega
  · rcases hb with rfl | rfl | rfl <;> omega
  · rcases hb with rfl | rfl | rfl | rfl <;> omega

/-- The byte of an ASCII character stands for this character only. -/
theorem mem_encode {c : Char} (hc : c.toNat < 128) : UInt8.ofNat c.toNat ∈ encode s ↔ c ∈ s := by
  have h : encode [c] = [UInt8.ofNat c.toNat] := by simp [encodeChar_ascii hc]
  rw [← singleton_isInfix, ← h, infix_encode (by simp), singleton_isInfix]

/-- Cutting bytes at an ASCII character cuts the text there. -/
theorem pieces_encode {c : Char} (hc : c.toNat < 128) (s : List Char) :
    pieces (UInt8.ofNat c.toNat) (encode s) = (pieces c s).map encode := by
  induction s with
  | nil => rfl
  | cons d s ih =>
    rw [encode_cons, pieces]
    by_cases hd : d = c
    · rw [if_pos hd, hd, encodeChar_ascii hc, List.singleton_append, pieces, if_pos rfl, ih]
      rfl
    · have hn : UInt8.ofNat c.toNat ∉ String.utf8EncodeChar d := by
        intro h
        have he := (mem_encode hc (s := [d])).1 (by simpa using h)
        exact hd (List.mem_singleton.1 he).symm
      rw [if_neg hd, pieces_append hn, ih]
      obtain ⟨p, ps, h⟩ := exists_pieces c s
      rw [h]
      rfl

end StubProxy.Text.Utf8
