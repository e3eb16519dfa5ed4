import StubProxy.Proofs.Outline

/-!
# Rules of bytes that are no text

Bytes that no character writes are read as U+FFFD, and only they: a byte of ASCII ends whatever
broken part stands in front of it and is read as itself. So cuts at ASCII bytes may be made before
decoding or after.

* `scan_ascii`: bytes are decoded apart on both sides of a byte of ASCII.
* `scan_beyond`, `Beyond.not_mem_decodeLossy`: other bytes never decode to ASCII.
* `splitFirst_decodeLossy`, `pieces_decodeLossy`, `trim_decodeLossy`: cutting and decoding commute.
* `Rule.parse_decoded`: a byte rule is read as the bytes of the text that it is decoded to.
-/

namespace StubProxy.Text.Utf8

/-! ## One byte of ASCII -/

theorem isCont_ascii {a : UInt8} (ha : a.toNat < 128) : isCont a = false := by
  rw [← Bool.not_eq_true, isCont_iff]
  omega

/-- The second byte of a longer sequence is a continuation byte, behind two leads a narrower one. -/
theorem second_bounds {l p q lo hi b : UInt8} (hlo : 128 ≤ lo.toNat) (hhi : hi.toNat ≤ 191)
    (hpq : p ≠ q) (h : (if l = p then lo ≤ b && b ≤ 0xBF else if l = q then 0x80 ≤ b && b ≤ hi
      else isCont b) = true) :
    isCont b ∧ (l = p → lo.toNat ≤ b.toNat) ∧ (l = q → b.toNat ≤ hi.toNat) := by
  rw [isCont_iff]
  by_cases hp : l = p
  · rw [if_pos hp, Bool.and_eq_true, decide_eq_true_eq, decide_eq_true_eq] at h
    have h1 : lo.toNat ≤ b.toNat := h.1
    have h2 : b.toNat ≤ 191 := h.2
    exact ⟨by omega, fun _ => h1, fun hq => absurd (hp.symm.trans hq) hpq⟩
  · rw [if_neg hp] at h
    by_cases hq : l = q
    · rw [if_pos hq, Bool.and_eq_true, decide_eq_true_eq, decide_eq_true_eq] at h
      have h1 : 128 ≤ b.toNat := h.1
      have h2 : b.toNat ≤ hi.toNat := h.2
      exact ⟨by omega, fun h => absurd h hp, fun _ => h2⟩
    · rw [if_neg hq, isCont_iff] at h
      exact ⟨h, fun h => absurd h hp, fun h => absurd h hq⟩

theorem isSecond3_bounds {l b : UInt8} (h : isSecond3 l b) :
    isCont b ∧ (l = 0xE0 → 160 ≤ b.toNat) ∧ (l = 0xED → b.toNat ≤ 159) :=
  second_bounds (by decide) (by decide) (by decide) h

theorem isSecond4_bounds {l b : UInt8} (h : isSecond4 l b) :
    isCont b ∧ (l = 0xF0 → 144 ≤ b.toNat) ∧ (l = 0xF4 → b.toNat ≤ 143) :=
  second_bounds (by decide) (by decide) (by decide) h

theorem isSecond3_ascii {l a : UInt8} (ha : a.toNat < 128) : isSecond3 l a = false := by
  rw [← Bool.not_eq_true]
  intro h
  have hc := (isSecond3_bounds h).1
  rw [isCont_ascii ha] at hc
  exact absurd hc (by simp)

theorem isSecond4_ascii {l a : UInt8} (ha : a.toNat < 128) : isSecond4 l a = false := by
  rw [← Bool.not_eq_true]
  intro h
  have hc := (isSecond4_bounds h).1
  rw [isCont_ascii ha] at hc
  exact absurd hc (by simp)

/-- **A byte of ASCII keeps its two sides apart**: no sequence reaches across, whole or broken. -/
theorem scan_ascii {a : UInt8} (ha : a.toNat < 128) (x y : List UInt8) :
    scan (x ++ a :: y) = scan x ++ some (Char.ofNat a.toNat) :: scan y := by
  fun_induction scan x with
  | case1 => exact scan_one ha
  | _ =>
    simp only [List.cons_append, List.nil_append] at *
    rw [scan.eq_def]
    simp only [*, if_true, if_false, isCont_ascii ha, isSecond3_ascii ha, isSecond4_ascii ha,
      scan_one ha, Bool.false_eq_true, and_self]

/-! ## Bytes beyond ASCII -/

/-- A valid code point is that of its character. -/
theorem toNat_ofNat {n : Nat} (hn : n.isValidChar) : (Char.ofNat n).toNat = n := by
  unfold Char.ofNat
  rw [dif_pos hn]
  rfl

theorem char2_beyond {a b : UInt8} (ha : 0xC2 ≤ a ∧ a ≤ 0xDF) : 128 ≤ (char2 a b).toNat := by
  have h1 : 194 ≤ a.toNat := ha.1
  have h2 : a.toNat ≤ 223 := ha.2
  unfold char2 payload
  rw [toNat_ofNat (.inl (by omega))]
  omega

/-- Neither a long form nor a surrogate, which would be no valid code point. -/
theorem char3_beyond {a b c : UInt8} (ha : 0xE0 ≤ a ∧ a ≤ 0xEF) (hb : isSecond3 a b) :
    128 ≤ (char3 a b c).toNat := by
  have h1 : 224 ≤ a.toNat := ha.1
  have h2 : a.toNat ≤ 239 := ha.2
  obtain ⟨hc, hlong, hsurrogate⟩ := isSecond3_bounds hb
  rw [isCont_iff] at hc
  have hlong' : a.toNat = 224 → 160 ≤ b.toNat := fun h => hlong (UInt8.toNat_inj.1 h)
  have hsurrogate' : a.toNat = 237 → b.toNat ≤ 159 := fun h => hsurrogate (UInt8.toNat_inj.1 h)
  have hvalid : (a.toNat % 16 * 4096 + payload b * 64 + payload c).isValidChar := by
    unfold payload Nat.isValidChar
    omega
  unfold char3
  rw [toNat_ofNat hvalid]
  unfold payload
  omega

theorem char4_beyond {a b c d : UInt8} (ha : 0xF0 ≤ a ∧ a ≤ 0xF4) (hb : isSecond4 a b) :
    128 ≤ (char4 a b c d).toNat := by
  have h1 : 240 ≤ a.toNat := ha.1
  have h2 : a.toNat ≤ 244 := ha.2
  obtain ⟨hc, hlong, hlarge⟩ := isSecond4_bounds hb
  rw [isCont_iff] at hc
  have hlong' : a.toNat = 240 → 144 ≤ b.toNat := fun h => hlong (UInt8.toNat_inj.1 h)
  have hlarge' : a.toNat = 244 → b.toNat ≤ 143 := fun h => hlarge (UInt8.toNat_inj.1 h)
  have hvalid :
      (a.toNat % 8 * 262144 + payload b * 4096 + payload c * 64 + payload d).isValidChar := by
    unfold payload Nat.isValidChar
    omega
  unfold char4
  rw [toNat_ofNat hvalid]
  unfold payload
  omega

theorem beyond_cons {v : Char} {os : List (Option Char)} (hv : 128 ≤ v.toNat)
    (h : ∀ o ∈ os, 128 ≤ (o.getD replacement).toNat) :
    ∀ o ∈ some v :: os, 128 ≤ (o.getD replacement).toNat :=
  List.forall_mem_cons.2 ⟨hv, h⟩

/-- **Bytes beyond ASCII never decode to ASCII.** -/
theorem scan_beyond {x : List UInt8} (hx : ∀ b ∈ x, 128 ≤ b.toNat) :
    ∀ o ∈ scan x, 128 ≤ (o.getD replacement).toNat := by
  have hgap : 128 ≤ ((none : Option Char).getD replacement).toNat := by decide
  fun_induction scan x with
  | case1 => simp
  | case2 a r h =>
    have ha : a.toNat < 128 := h
    exact absurd (hx a List.mem_cons_self) (Nat.not_le.2 ha)
  | case3 a _ h b r _ ih =>
    simp only [List.forall_mem_cons] at hx
    exact beyond_cons (char2_beyond h) (ih hx.2.2)
  | case6 a _ _ h b hb c r _ ih =>
    simp only [List.forall_mem_cons] at hx
    exact beyond_cons (char3_beyond h hb) (ih hx.2.2.2)
  | case11 a _ _ _ h b hb c hc d r _ ih =>
    simp only [List.forall_mem_cons] at hx
    exact beyond_cons (char4_beyond h hb) (ih hx.2.2.2.2)
  | _ =>
    -- a gap, and what is behind it
    simp_all only [List.forall_mem_cons, List.not_mem_nil, false_imp_iff, implies_true, and_true]

/-! ## Decoding in parts -/

/-- The character of a byte of ASCII. -/
def asciiChar (a : UInt8) : Char := Char.ofNat a.toNat

theorem toNat_asciiChar {a : UInt8} (ha : a.toNat < 128) : (asciiChar a).toNat = a.toNat :=
  toNat_ofNat (.inl (by omega))

theorem asciiChar_inj {a b : UInt8} (ha : a.toNat < 128) (hb : b.toNat < 128) :
    asciiChar a = asciiChar b ↔ a = b := by
  refine ⟨fun h => ?_, fun h => by rw [h]⟩
  rw [← UInt8.toNat_inj, ← toNat_asciiChar ha, ← toNat_asciiChar hb, h]

variable {a c : UInt8} {x y s mark : List UInt8}

/-- Bytes beyond ASCII only. -/
def Beyond (x : List UInt8) : Prop := ∀ b ∈ x, 128 ≤ b.toNat

theorem Beyond.not_mem (hx : Beyond x) (ha : a.toNat < 128) : a ∉ x :=
  fun h => absurd (hx a h) (Nat.not_le.2 ha)

@[simp] theorem decodeLossy_nil : decodeLossy [] = [] := rfl

theorem decodeLossy_append (ha : a.toNat < 128) (x y : List UInt8) :
    decodeLossy (x ++ a :: y) = decodeLossy x ++ asciiChar a :: decodeLossy y := by
  unfold decodeLossy
  rw [scan_ascii ha, List.map_append, List.map_cons]
  rfl

theorem decodeLossy_cons (ha : a.toNat < 128) (y : List UInt8) :
    decodeLossy (a :: y) = asciiChar a :: decodeLossy y :=
  decodeLossy_append ha [] y

/-- Two parts are decoded apart if the second starts with a byte of ASCII. -/
theorem decodeLossy_beside (x : List UInt8) (hy : ∀ b ∈ y.head?, b.toNat < 128) :
    decodeLossy (x ++ y) = decodeLossy x ++ decodeLossy y := by
  cases y with
  | nil => simp
  | cons a y =>
    have ha : a.toNat < 128 := hy a rfl
    rw [decodeLossy_append ha, decodeLossy_cons ha]

/-- A part beyond ASCII holds no character of ASCII. -/
theorem Beyond.not_mem_decodeLossy (hx : Beyond x) (ha : a.toNat < 128) :
    asciiChar a ∉ decodeLossy x := by
  intro h
  obtain ⟨o, ho, hoa⟩ := List.mem_map.1 h
  have hle := scan_beyond hx o ho
  rw [hoa, toNat_asciiChar ha] at hle
  omega

theorem decodeLossy_eq_nil : decodeLossy x = [] ↔ x = [] := by
  unfold decodeLossy
  rw [List.map_eq_nil_iff]
  fun_cases scan x <;> simp

/-- Byte strings are parts beyond ASCII with single bytes of ASCII between them. -/
theorem ascii_induction {P : List UInt8 → Prop} (beyond : ∀ x, Beyond x → P x)
    (ascii : ∀ x a y, Beyond x → a.toNat < 128 → P y → P (x ++ a :: y)) (s : List UInt8) : P s := by
  -- `x` is the part beyond ASCII that has been passed
  have hpass : ∀ x, Beyond x → P (x ++ s) := by
    induction s with
    | nil =>
      intro x hx
      rw [List.append_nil]
      exact beyond x hx
    | cons b s ih =>
      intro x hx
      by_cases hb : b.toNat < 128
      · exact ascii x b s hx hb (ih [] (by simp [Beyond]))
      · rw [← List.singleton_append, ← List.append_assoc]
        apply ih
        simp only [Beyond, List.forall_mem_append, List.forall_mem_singleton]
        exact ⟨hx, Nat.not_lt.1 hb⟩
  exact hpass [] (by simp [Beyond])

/-! ## Cuts before decoding and after -/

theorem head_decodeLossy (ha : a.toNat < 128) (s : List UInt8) :
    (decodeLossy s).head? = some (asciiChar a) ↔ s.head? = some a := by
  induction s using ascii_induction with
  | beyond x hx =>
    exact iff_of_false (fun h => hx.not_mem_decodeLossy ha (List.mem_of_mem_head? h))
      fun h => hx.not_mem ha (List.mem_of_mem_head? h)
  | ascii x b y hx hb _ =>
    rw [decodeLossy_append hb]
    cases x with
    | nil => simp [asciiChar_inj hb ha]
    | cons d x =>
      -- the first character comes from the part beyond ASCII
      obtain ⟨e, z, he⟩ :=
        List.exists_cons_of_ne_nil (mt decodeLossy_eq_nil.1 (List.cons_ne_nil d x))
      have hne : e ≠ asciiChar a := by
        rintro rfl
        exact hx.not_mem_decodeLossy ha (by simp [he])
      have hnd : d ≠ a := by
        rintro rfl
        exact hx.not_mem ha List.mem_cons_self
      simp [he, hne, hnd]

theorem getLast_decodeLossy (ha : a.toNat < 128) (s : List UInt8) :
    (decodeLossy s).getLast? = some (asciiChar a) ↔ s.getLast? = some a := by
  induction s using ascii_induction with
  | beyond x hx =>
    exact iff_of_false (fun h => hx.not_mem_decodeLossy ha (List.mem_of_getLast? h))
      fun h => hx.not_mem ha (List.mem_of_getLast? h)
  | ascii x b y hx hb ih =>
    rw [decodeLossy_append hb, List.append_cons, List.append_cons x]
    by_cases hy : y = []
    · simp [hy, asciiChar_inj hb ha]
    · rw [List.getLast?_append_of_ne_nil _ hy,
        List.getLast?_append_of_ne_nil _ (mt decodeLossy_eq_nil.1 hy), ih]

/-- A mark of ASCII in front is decoded on its own. -/
theorem decodeLossy_mark (hm : ∀ a ∈ mark, a.toNat < 128) (s : List UInt8) :
    decodeLossy (mark ++ s) = mark.map asciiChar ++ decodeLossy s := by
  induction mark with
  | nil => rfl
  | cons a mark ih =>
    rw [List.forall_mem_cons] at hm
    rw [List.cons_append, decodeLossy_cons hm.1, ih hm.2]
    rfl

/-- Decoding neither makes nor hides a mark of ASCII at the start. -/
theorem isPrefix_decodeLossy (hm : ∀ a ∈ mark, a.toNat < 128) (s : List UInt8) :
    mark.map asciiChar <+: decodeLossy s ↔ mark <+: s := by
  induction mark generalizing s with
  | nil => simp
  | cons a mark ih =>
    rw [List.forall_mem_cons] at hm
    by_cases hs : s.head? = some a
    · obtain ⟨t, rfl⟩ := List.head?_eq_some_iff.1 hs
      rw [decodeLossy_cons hm.1, List.map_cons, List.cons_prefix_cons, List.cons_prefix_cons,
        ih hm.2]
      simp
    · have hd : (decodeLossy s).head? ≠ some (asciiChar a) := mt (head_decodeLossy hm.1 s).1 hs
      refine iff_of_false ?_ ?_
      · rintro ⟨t, ht⟩
        rw [← ht] at hd
        exact hd rfl
      · rintro ⟨t, ht⟩
        rw [← ht] at hs
        exact hs rfl

/-- The search at a byte of ASCII, if it goes before decoding or after behind this byte. -/
theorem splitFirst_decodeLossy_cons (hm : ∀ b ∈ mark, b.toNat < 128) (ha : a.toNat < 128)
    (ih : splitFirst (mark.map asciiChar) (decodeLossy y) =
      (splitFirst mark y).map fun p => (decodeLossy p.1, decodeLossy p.2)) :
    splitFirst (mark.map asciiChar) (decodeLossy (a :: y)) =
      (splitFirst mark (a :: y)).map fun p => (decodeLossy p.1, decodeLossy p.2) := by
  by_cases hp : mark <+: a :: y
  · obtain ⟨t, ht⟩ := hp
    rw [← ht, decodeLossy_mark hm, splitFirst_mark, splitFirst_mark]
    rfl
  · have hp' : ¬ mark.map asciiChar <+: decodeLossy (a :: y) :=
      mt (isPrefix_decodeLossy hm _).1 hp
    rw [decodeLossy_cons ha] at hp' ⊢
    rw [splitFirst_cons hp', splitFirst_cons hp, ih, Option.map_map, Option.map_map]
    congr 1
    funext p
    simp [decodeLossy_cons ha]

/-- **The search for a mark of ASCII** goes before decoding or after. -/
theorem splitFirst_decodeLossy (hn : mark ≠ []) (hm : ∀ a ∈ mark, a.toNat < 128) (s : List UInt8) :
    splitFirst (mark.map asciiChar) (decodeLossy s) =
      (splitFirst mark s).map fun p => (decodeLossy p.1, decodeLossy p.2) := by
  obtain ⟨m, ms, rfl⟩ := List.exists_cons_of_ne_nil hn
  have hm0 : m.toNat < 128 := hm m List.mem_cons_self
  -- a part beyond ASCII is passed over
  have hskip : ∀ {x}, Beyond x → ∀ b ∈ x, (m :: ms).head? ≠ some b := by
    rintro x hx b hb h
    obtain rfl : m = b := Option.some.inj h
    exact hx.not_mem hm0 hb
  have hskip' : ∀ {x}, Beyond x →
      ∀ c ∈ decodeLossy x, ((m :: ms).map asciiChar).head? ≠ some c := by
    rintro x hx c hc h
    obtain rfl : asciiChar m = c := Option.some.inj h
    exact hx.not_mem_decodeLossy hm0 hc
  induction s using ascii_induction with
  | beyond x hx =>
    have h := splitFirst_skip (b := []) (hskip hx) hn
    have h' := splitFirst_skip (b := []) (hskip' hx) (by simp)
    simp only [List.append_nil] at h h'
    rw [h, h']
    rfl
  | ascii x a y hx ha ih =>
    rw [decodeLossy_append ha, splitFirst_skip (hskip hx) hn, splitFirst_skip (hskip' hx) (by simp)]
    rw [← decodeLossy_cons ha, splitFirst_decodeLossy_cons hm ha ih]
    cases hs : splitFirst (m :: ms) (a :: y) with
    | none => rfl
    | some p =>
      -- what stands before the cut starts with `a`, if anything does
      have hhead : ∀ b ∈ p.1.head?, b.toNat < 128 := by
        intro b hb
        have h := splitFirst_eq_some hs
        cases hp : p.1 with
        | nil => simp [hp] at hb
        | cons d q =>
          rw [hp] at h hb
          obtain rfl : a = d := (List.cons.inj h).1
          obtain rfl : a = b := Option.some.inj hb
          exact ha
      simp only [Option.map_some, decodeLossy_beside x hhead]

/-- Cutting at a byte of ASCII goes before decoding or after. -/
theorem pieces_decodeLossy (hc : c.toNat < 128) (s : List UInt8) :
    pieces (asciiChar c) (decodeLossy s) = (pieces c s).map decodeLossy := by
  induction s using ascii_induction with
  | beyond x hx =>
    rw [pieces_of_not_mem (hx.not_mem hc), pieces_of_not_mem (hx.not_mem_decodeLossy hc)]
    rfl
  | ascii x a y hx ha ih =>
    rw [decodeLossy_append ha, pieces_append (hx.not_mem hc),
      pieces_append (hx.not_mem_decodeLossy hc), pieces, pieces, ih]
    by_cases hac : a = c
    · simp [hac]
    · obtain ⟨p, ps, hp⟩ := exists_pieces c y
      have hac' : asciiChar a ≠ asciiChar c := mt (asciiChar_inj ha hc).1 hac
      simp [hac, hac', hp, consFirst, decodeLossy_append ha]

/-- The blanks of ASCII as characters. -/
def isAsciiBlank (c : Char) : Bool := c = '\t' || c = '\n' || c = '\x0C' || c = '\r' || c = ' '

theorem isBlank_of_isAsciiBlank {c : Char} (hc : isAsciiBlank c) : isBlank c := by
  simp only [isAsciiBlank, Bool.or_eq_true, decide_eq_true_eq] at hc
  rcases hc with (((rfl | rfl) | rfl) | rfl) | rfl <;> decide

theorem isAsciiBlank_asciiChar (ha : isBlankByte a) :
    a.toNat < 128 ∧ isAsciiBlank (asciiChar a) := by
  simp only [isBlankByte, Bool.or_eq_true, decide_eq_true_eq] at ha
  rcases ha with (((rfl | rfl) | rfl) | rfl) | rfl <;> decide

theorem exists_blankByte {c : Char} (hc : isAsciiBlank c) :
    ∃ a, isBlankByte a ∧ asciiChar a = c := by
  simp only [isAsciiBlank, Bool.or_eq_true, decide_eq_true_eq] at hc
  rcases hc with (((rfl | rfl) | rfl) | rfl) | rfl
  · exact ⟨9, rfl, rfl⟩
  · exact ⟨10, rfl, rfl⟩
  · exact ⟨12, rfl, rfl⟩
  · exact ⟨13, rfl, rfl⟩
  · exact ⟨32, rfl, rfl⟩

theorem tight_decodeLossy (hs : Tight isBlankByte s) : Tight isAsciiBlank (decodeLossy s) := by
  constructor
  · intro c hc
    rw [← Bool.not_eq_true]
    intro hb
    obtain ⟨a, ha, rfl⟩ := exists_blankByte hb
    have h := hs.head a ((head_decodeLossy (isAsciiBlank_asciiChar ha).1 s).1 hc)
    rw [ha] at h
    exact absurd h (by simp)
  · intro c hc
    rw [← Bool.not_eq_true]
    intro hb
    obtain ⟨a, ha, rfl⟩ := exists_blankByte hb
    have h := hs.last a ((getLast_decodeLossy (isAsciiBlank_asciiChar ha).1 s).1 hc)
    rw [ha] at h
    exact absurd h (by simp)

/-- Trimming goes before decoding or after. -/
theorem trim_decodeLossy (s : List UInt8) :
    trim isAsciiBlank (decodeLossy s) = decodeLossy (trim isBlankByte s) := by
  obtain ⟨u, v, hs, hu, hv, ht⟩ := trim_split isBlankByte s
  have hascii : ∀ {t : List UInt8}, (∀ a ∈ t, isBlankByte a) →
      (∀ a ∈ t, a.toNat < 128) ∧ ∀ c ∈ t.map asciiChar, isAsciiBlank c := by
    intro t ht
    refine ⟨fun a ha => (isAsciiBlank_asciiChar (ht a ha)).1, ?_⟩
    rw [List.forall_mem_map]
    exact fun a ha => (isAsciiBlank_asciiChar (ht a ha)).2
  have hd : decodeLossy s =
      u.map asciiChar ++ decodeLossy (trim isBlankByte s) ++ v.map asciiChar := by
    have hv' := decodeLossy_mark (hascii hv).1 []
    rw [List.append_nil, decodeLossy_nil, List.append_nil] at hv'
    conv => lhs; rw [hs]
    rw [List.append_assoc, decodeLossy_mark (hascii hu).1, decodeLossy_beside, hv',
      List.append_assoc]
    exact fun b hb => (hascii hv).1 b (List.mem_of_mem_head? hb)
  rw [hd, trim_between (hascii hu).2 (tight_decodeLossy ht) (hascii hv).2]

end StubProxy.Text.Utf8

namespace StubProxy

open Text Utf8

/-! ## The steps of the grammar -/

/-- Rules in the text that bytes are decoded to: its blanks are those of ASCII. -/
def decodedScript : Script Char where
  write s := s
  lineFeed := '\n'
  space := ' '
  colon := ':'
  isBlank := isAsciiBlank
  lines := allLines '\n' '\r'
  read s := s
  body s := .text (String.ofList s)

namespace Script

/-- Cutting at the first colon goes before decoding or after. -/
theorem splitAtColon_decodeLossy (s : List UInt8) : decodedScript.splitAtColon (decodeLossy s) =
    (decodeLossy (byteScript.splitAtColon s).1, decodeLossy (byteScript.splitAtColon s).2) := by
  have h : splitFirst [':'] (decodeLossy s) =
      (splitFirst [58] s).map fun p => (decodeLossy p.1, decodeLossy p.2) :=
    splitFirst_decodeLossy (List.cons_ne_nil 58 []) (by simp) s
  change (splitFirst [':'] (decodeLossy s)).getD _ = _
  rw [h]
  change _ = (decodeLossy ((splitFirst [58] s).getD (s, [])).1,
    decodeLossy ((splitFirst [58] s).getD (s, [])).2)
  cases splitFirst [58] s <;> rfl

theorem words_decodeLossy (s : List UInt8) :
    decodedScript.words (decodeLossy s) = (byteScript.words s).map decodeLossy := by
  have hp : pieces ' ' (decodeLossy s) = (pieces 32 s).map decodeLossy :=
    pieces_decodeLossy (c := 32) (by decide) s
  have ht : decodedScript.trim ∘ decodeLossy = decodeLossy ∘ byteScript.trim :=
    funext trim_decodeLossy
  change ((pieces ' ' (decodeLossy s)).map decodedScript.trim).filter (· ≠ []) =
    (((pieces 32 s).map byteScript.trim).filter (· ≠ [])).map decodeLossy
  rw [hp, List.map_map, ht, ← List.map_map, List.filter_map]
  congr 1
  apply List.filter_congr
  intro p _
  simp [decodeLossy_eq_nil]

theorem readHeader_decodeLossy (l : List UInt8) :
    decodedScript.readHeader (decodeLossy l) = byteScript.readHeader l := by
  have htrim : ∀ t, decodedScript.trim (decodeLossy t) = decodeLossy (byteScript.trim t) :=
    trim_decodeLossy
  have hread : ∀ t, decodedScript.toString (decodeLossy t) = byteScript.toString t := fun _ => rfl
  unfold readHeader
  rw [htrim, splitAtColon_decodeLossy]
  simp only [htrim, decodeLossy_eq_nil, hread]

/-- **Decoding keeps what the grammar looks for.** -/
theorem carries_decodeLossy : byteScript.Carries decodedScript decodeLossy where
  split := splitFirst_decodeLossy (List.cons_ne_nil 45 [62]) (by simp)
  splitAtColon := splitAtColon_decodeLossy
  firstWords s := by
    have hp : pieces '\n' (decodeLossy s) = (pieces 10 s).map decodeLossy :=
      pieces_decodeLossy (c := 10) (by decide) s
    have hread : decodedScript.toString ∘ decodeLossy = byteScript.toString := rfl
    obtain ⟨p, ps, h⟩ := exists_pieces 10 s
    change (decodedScript.words ((pieces '\n' (decodeLossy s)).headD [])).map _ =
      (byteScript.words ((pieces 10 s).headD [])).map _
    rw [hp, h, List.map_cons, List.headD_cons, List.headD_cons, words_decodeLossy, List.map_map,
      hread]
  declared s := by
    have hp : pieces '\n' (decodeLossy s) = (pieces 10 s).map decodeLossy :=
      pieces_decodeLossy (c := 10) (by decide) s
    have hread : decodedScript.readHeader ∘ decodeLossy = byteScript.readHeader :=
      funext readHeader_decodeLossy
    change (pieces '\n' (decodeLossy s)).tail.filterMap _ = (pieces 10 s).tail.filterMap _
    rw [hp, ← List.map_tail, List.filterMap_map, hread]

end Script

/-! ## Whole rules -/

/-- The directive with its body as the text that its bytes are decoded to. -/
def Directive.decoded (d : Directive) : Directive :=
  d.withBody (.text (String.ofList (decodeLossy d.body.bytes)))

namespace Script

/-- What an outline of bytes makes is told by its decoded parts. -/
theorem judge_decodeLossy (o : Outline UInt8) : (byteScript.judge o).map Directive.decoded =
    decodedScript.judge (o.map decodeLossy) := by
  have hread : decodedScript.read (decodeLossy o.status) = byteScript.read o.status := rfl
  unfold judge
  simp only [Outline.map, hread]
  split
  · cases readStatus (byteScript.read o.status) with
    | error e => rfl
    | ok n =>
      simp only [Except.map, Directive.decoded, Directive.withBody_foldl_declare,
        Directive.body_foldl_declare]
      rfl
  · rfl

/-- **Reading a byte rule** is reading the text that it is decoded to. -/
theorem parse_decodeLossy (b : List UInt8) : (byteScript.parse b).map Directive.decoded =
    match decodedScript.outline (decodeLossy b) with
    | none => .error (.missingArrow (String.ofList (Text.trim isAsciiBlank (decodeLossy b))))
    | some o => decodedScript.judge o := by
  rw [parse_eq_outline byteScript_readsLines, carries_decodeLossy.outline_eq (trim_decodeLossy b),
    trim_decodeLossy]
  cases byteScript.outline b with
  | none => rfl
  | some o => exact judge_decodeLossy o

end Script

/-- **Invalid bytes stand for U+FFFD** wherever they are in a rule. A byte rule is read as the bytes
of the text that it is decoded to: with the same error, or as the same directive but for its body,
which decodes to the same text. -/
theorem Rule.parse_decoded (b : List UInt8) :
    (Rule.binary (encode (decodeLossy b))).parse.map (Option.map Directive.decoded) =
      (Rule.binary b).parse.map (Option.map Directive.decoded) := by
  by_cases hb : b = []
  · rw [hb]
    rfl
  · have hn : encode (decodeLossy b) ≠ [] := by
      rwa [Ne, encode_eq_nil, decodeLossy_eq_nil]
    have hparse : ∀ c : List UInt8, c ≠ [] →
        (Rule.binary c).parse.map (Option.map Directive.decoded) =
          ((byteScript.parse c).map Directive.decoded).map some := by
      intro c hc
      rw [Rule.parse, parseBytes, if_neg hc]
      cases byteScript.parse c <;> rfl
    rw [hparse _ hn, hparse b hb, Script.parse_decodeLossy, Script.parse_decodeLossy,
      decodeLossy_encode]

/-- Broken bytes in the method, in the name of a header, at the end of its value and in the body. -/
example : (Rule.binary ([0xC3] ++ encode "G http://a.b\nX-".toList ++ [0xFF] ++
    encode ": 1".toList ++ [0xE2, 0x82] ++ encode "\n-> 200 :".toList ++ [0xF0, 0x9F])).parse.map
      (Option.map Directive.decoded) =
    .ok (some ⟨"\uFFFDG", "http://a.b", 200, .text "\uFFFD", [("X-\uFFFD", "1\uFFFD")], none⟩) := by
  decide +kernel

end StubProxy
