import StubProxy.Proofs.Blank
import StubProxy.Text.Numeral

/-!
# Reading decimals

* `readWordDigits_eq_ok`: which digits are read, and as what.
* `readWord16_eq_ok`, `readWord16_eq_error`: which texts are read as numbers of 16 bits, and for
  which reason all others are refused.
* `readWord16_stop`: a number ends at any symbol that is no digit.
* `readWord16_decimal`: a number of 16 bits is read back from its decimal digits.
-/

namespace StubProxy.Text

variable {m n : Nat} {s text : List Char}

theorem digit?_of_isDigit {c : Char} (hc : c.isDigit) : digit? c = some (c.toNat - '0'.toNat) := by
  unfold digit?
  unfold Char.isDigit at hc
  rw [Bool.and_eq_true, decide_eq_true_eq, decide_eq_true_eq] at hc
  exact if_pos hc

theorem digit?_of_not_isDigit {c : Char} (hc : c.isDigit = false) : digit? c = none := by
  unfold digit?
  unfold Char.isDigit at hc
  rw [Bool.and_eq_false_imp, decide_eq_true_eq, decide_eq_false_iff_not] at hc
  exact if_neg fun h => hc h.1 h.2

/-- More digits make a number no smaller. -/
theorem le_ofDigitChars (m : Nat) (s : List Char) : m ≤ Nat.ofDigitChars 10 s m := by
  rw [Nat.ofDigitChars_eq_ofDigitChars_zero]
  have : m ≤ 10 ^ s.length * m := Nat.le_mul_of_pos_left m (Nat.pow_pos (by decide))
  omega

/-- Digits are read when they stay within 16 bits, and nothing else is. -/
theorem readWordDigits_eq_ok (hm : m ≤ 65535) :
    readWordDigits m s = .ok n ↔
      (∀ c ∈ s, c.isDigit) ∧ Nat.ofDigitChars 10 s m = n ∧ n ≤ 65535 := by
  induction s generalizing m with
  | nil =>
    simp only [readWordDigits, Nat.ofDigitChars_nil, Except.ok.injEq, List.not_mem_nil,
      false_imp_iff, implies_true, true_and]
    omega
  | cons c s ih =>
    rw [readWordDigits, List.forall_mem_cons, Nat.ofDigitChars_cons]
    cases hc : c.isDigit with
    | false => simp [digit?_of_not_isDigit hc]
    | true =>
      rw [digit?_of_isDigit hc]
      have hle := le_ofDigitChars (10 * m + (c.toNat - '0'.toNat)) s
      -- no further digit brings a number that is too large back
      by_cases hd : 65535 < 10 * m + (c.toNat - '0'.toNat)
      · simp only [hd, if_true, reduceCtorEq, true_and, false_iff, not_and]
        omega
      · simp only [hd, if_false, ih (Nat.not_lt.1 hd), true_and]

/-! ## Which texts are read -/

variable {P : List Char → Prop}

/-- Digits overflow at the first of them that leaves 16 bits. -/
theorem readWordDigits_eq_tooLarge (hm : m ≤ 65535) :
    readWordDigits m s = .error .tooLarge ↔
      ∃ digits rest, s = digits ++ rest ∧ (∀ c ∈ digits, c.isDigit) ∧
        65535 < Nat.ofDigitChars 10 digits m := by
  induction s generalizing m with
  | nil =>
    simp only [readWordDigits, reduceCtorEq, false_iff]
    rintro ⟨digits, rest, hs, -, hlt⟩
    obtain ⟨rfl, -⟩ := List.append_eq_nil_iff.1 hs.symm
    rw [Nat.ofDigitChars_nil] at hlt
    omega
  | cons c s ih =>
    rw [readWordDigits]
    -- the empty prefix stays within 16 bits, so an overflow takes at least the digit `c`
    have hsplit : (∃ digits rest, c :: s = digits ++ rest ∧ (∀ x ∈ digits, x.isDigit) ∧
        65535 < Nat.ofDigitChars 10 digits m) ↔
        c.isDigit ∧ ∃ digits rest, s = digits ++ rest ∧ (∀ x ∈ digits, x.isDigit) ∧
          65535 < Nat.ofDigitChars 10 digits (10 * m + (c.toNat - '0'.toNat)) := by
      constructor
      · rintro ⟨_ | ⟨x, digits⟩, rest, hs, hd, hlt⟩
        · rw [Nat.ofDigitChars_nil] at hlt
          omega
        · obtain ⟨rfl, rfl⟩ := List.cons.inj hs
          rw [List.forall_mem_cons] at hd
          exact ⟨hd.1, digits, rest, rfl, hd.2, by rwa [Nat.ofDigitChars_cons] at hlt⟩
      · rintro ⟨hc, digits, rest, rfl, hd, hlt⟩
        exact ⟨c :: digits, rest, rfl, List.forall_mem_cons.2 ⟨hc, hd⟩,
          by rwa [Nat.ofDigitChars_cons]⟩
    rw [hsplit]
    cases hc : c.isDigit with
    | false => simp [digit?_of_not_isDigit hc]
    | true =>
      rw [digit?_of_isDigit hc]
      by_cases hd : 65535 < 10 * m + (c.toNat - '0'.toNat)
      · simp only [hd, if_true, true_and, true_iff]
        exact ⟨[], s, rfl, by simp, by rwa [Nat.ofDigitChars_nil]⟩
      · simp only [hd, if_false, true_and, ih (Nat.not_lt.1 hd)]

theorem readWordDigits_ne_empty : readWordDigits m s ≠ .error .empty := by
  induction s generalizing m with
  | nil => simp [readWordDigits]
  | cons c s ih =>
    rw [readWordDigits]
    cases digit? c with
    | none => simp
    | some d =>
      simp only
      split
      · simp
      · exact ih

/-- A number ends at any symbol that is no digit, whatever that symbol is and whatever follows. -/
theorem readWordDigits_stop {c d : Char} (hc : digit? c = none) (hd : digit? d = none)
    (m : Nat) (s u v : List Char) : readWordDigits m (s ++ c :: u) = readWordDigits m (s ++ d :: v) := by
  induction s generalizing m with
  | nil => simp only [List.nil_append, readWordDigits, hc, hd]
  | cons x s ih => simp only [List.cons_append, readWordDigits, ih]

theorem readWord16_plain {c : Char} (hc : c ≠ '+') (s : List Char) :
    readWord16 (c :: s) = readWordDigits 0 (c :: s) := by
  unfold readWord16
  split <;> simp_all

/-- Behind a sign and without one. -/
theorem readWord16_stop {c d : Char} (hc : digit? c = none) (hd : digit? d = none) (hc' : c ≠ '+')
    (hd' : d ≠ '+') (s u v : List Char) : readWord16 (s ++ c :: u) = readWord16 (s ++ d :: v) := by
  have hstop := readWordDigits_stop hc hd 0
  cases s with
  | nil =>
    rw [List.nil_append, List.nil_append, readWord16_plain hc', readWord16_plain hd']
    exact hstop [] u v
  | cons x s =>
    by_cases hx : x = '+'
    · subst hx
      have hsign : ∀ y t, readWord16 ('+' :: y :: t) = readWordDigits 0 (y :: t) := fun _ _ => rfl
      cases s with
      | nil => exact (hsign c u).trans ((hstop [] u v).trans (hsign d v).symm)
      | cons y s =>
        exact (hsign y (s ++ c :: u)).trans ((hstop (y :: s) u v).trans (hsign y _).symm)
    · rw [List.cons_append, List.cons_append, readWord16_plain hx, readWord16_plain hx]
      exact hstop (x :: s) u v

theorem signed_plus (h : ¬ P ('+' :: s)) : (∃ u, Signed ('+' :: s) u ∧ P u) ↔ P s := by
  constructor
  · rintro ⟨u, rfl | hu, hp⟩
    · exact absurd hp h
    · rwa [(List.cons.inj hu).2]
  · exact fun hp => ⟨s, .inr rfl, hp⟩

theorem signed_plain (h : ∀ u, text = '+' :: u → False) :
    (∃ u, Signed text u ∧ P u) ↔ P text := by
  constructor
  · rintro ⟨u, rfl | hu, hp⟩
    · exact hp
    · exact (h u hu).elim
  · exact fun hp => ⟨text, .inl rfl, hp⟩

/-- **What is read is what the text writes.** -/
theorem readWord16_eq_ok : readWord16 text = .ok n ↔ Writes16 text n := by
  have hplus : ('+' : Char).isDigit = false := by decide
  unfold Writes16 readWord16
  split
  · rw [signed_plain (by simp)]
    simp
  · rw [signed_plus (by simp [hplus])]
    simp
  · rename_i hs
    rw [signed_plus (by simp [hplus]), readWordDigits_eq_ok (by decide)]
    exact (and_iff_right hs).symm
  · rename_i hn _ hp
    rw [signed_plain hp, readWordDigits_eq_ok (by decide)]
    exact (and_iff_right hn).symm

theorem readWord16_eq_tooLarge : readWord16 text = .error .tooLarge ↔ Overflows16 text := by
  -- the sign is no digit, so that only what stands behind it can overflow
  have hplus : ∀ s, ¬ ∃ digits rest, '+' :: s = digits ++ rest ∧ (∀ c ∈ digits, c.isDigit) ∧
      65535 < Nat.ofDigitChars 10 digits 0 := by
    rintro s ⟨_ | ⟨x, digits⟩, rest, hs, hd, hlt⟩
    · rw [Nat.ofDigitChars_nil] at hlt
      omega
    · obtain ⟨rfl, -⟩ := List.cons.inj hs
      exact absurd (hd '+' List.mem_cons_self) (by decide)
  have hrest : Overflows16 text ↔ ∃ u, Signed text u ∧ ∃ digits rest, u = digits ++ rest ∧
      (∀ c ∈ digits, c.isDigit) ∧ 65535 < Nat.ofDigitChars 10 digits 0 := by
    constructor
    · rintro ⟨digits, rest, hu, h⟩
      exact ⟨_, hu, digits, rest, rfl, h⟩
    · rintro ⟨_, hu, digits, rest, rfl, h⟩
      exact ⟨digits, rest, hu, h⟩
  have hnil := readWordDigits_eq_tooLarge (m := 0) (s := []) (by decide)
  rw [hrest]
  unfold readWord16
  split
  · rw [signed_plain (by simp), ← hnil]
    simp [readWordDigits]
  · rw [signed_plus (hplus _), ← hnil]
    simp [readWordDigits]
  · rw [signed_plus (hplus _), readWordDigits_eq_tooLarge (by decide)]
  · rename_i hp
    rw [signed_plain hp, readWordDigits_eq_tooLarge (by decide)]

theorem readWord16_eq_empty : readWord16 text = .error .empty ↔ text = [] := by
  unfold readWord16
  split
  · simp
  · simp
  · simp [readWordDigits_ne_empty]
  · rename_i hn _ _
    simp only [readWordDigits_ne_empty, false_iff]
    exact hn

/-- **A text is refused for the reason that explains it.** -/
theorem readWord16_eq_error {fault : NumeralFault} :
    readWord16 text = .error fault ↔ fault.Explains text := by
  cases fault with
  | empty => exact readWord16_eq_empty
  | tooLarge => exact readWord16_eq_tooLarge
  | invalidDigit =>
    simp only [NumeralFault.Explains, ← readWord16_eq_ok, ← readWord16_eq_tooLarge,
      ← readWord16_eq_empty, ne_eq]
    cases readWord16 text with
    | ok n => simp
    | error f => cases f <;> simp

/-! ## Decimals -/

theorem isDigit_of_mem_decimal {c : Char} (hc : c ∈ decimal n) : c.isDigit :=
  Nat.isDigit_of_mem_toDigits (by decide) (by decide) hc

theorem isBlank_of_isDigit {c : Char} (hc : c.isDigit) : isBlank c = false := by
  unfold Char.isDigit at hc
  rw [Bool.and_eq_true, decide_eq_true_eq, decide_eq_true_eq] at hc
  have hl : 48 ≤ c.toNat := UInt32.le_iff_toNat_le.1 hc.1
  have hu : c.toNat ≤ 57 := UInt32.le_iff_toNat_le.1 hc.2
  simp [isBlank]
  omega

theorem tight_decimal (n : Nat) : Tight isBlank (decimal n) :=
  ⟨fun _ h => isBlank_of_isDigit (isDigit_of_mem_decimal (List.mem_of_mem_head? h)),
    fun _ h => isBlank_of_isDigit (isDigit_of_mem_decimal (List.mem_of_getLast? h))⟩

theorem decimal_ne_nil (n : Nat) : decimal n ≠ [] := Nat.toDigits_ne_nil

/-- **A number of 16 bits is read back** from its decimal digits. -/
theorem readWord16_decimal (hn : n ≤ 65535) : readWord16 (decimal n) = .ok n :=
  readWord16_eq_ok.2 ⟨decimal n, .inl rfl, decimal_ne_nil n, fun _ => isDigit_of_mem_decimal,
    Nat.ofDigitChars_ten_toDigits, hn⟩

end StubProxy.Text
