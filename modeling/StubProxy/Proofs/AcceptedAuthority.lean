import StubProxy.Proofs.Utf8
import StubProxy.Proxy.Message

/-!
# Accepted authorities

What a text holds that is accepted as the authority of a request target, read off one step of the
scan that accepts it.

* `Uri.Scan.step_visible`: only visible ASCII passes, and nothing that ends an authority.
* `Uri.IsAuthority.closes`, `Uri.IsAuthority.opens_once`: a bracket that opens is closed behind it,
  and no other opens.
* `Uri.isAuthority_of_read`: the authority of a target is an accepted one.
* `Uri.read_http`: an accepted authority and an accepted path make an accepted target.
* `Field.text?_authority`: an authority can be read back from a header.
-/

namespace StubProxy

open Text

namespace Uri

/-- The text is accepted as an authority. -/
def IsAuthority (a : List Char) : Prop := a ≠ [] ∧ checkAuthority a = .ok ()

/-- Visible ASCII that does not end an authority, in a request target or in a URL. -/
def Visible (c : Char) : Prop :=
  0x21 ≤ c.toNat ∧ c.toNat ≤ 0x7E ∧ c ≠ '/' ∧ c ≠ '?' ∧ c ≠ '#' ∧ c ≠ '\\'

instance (c : Char) : Decidable (Visible c) :=
  inferInstanceAs (Decidable (_ ∧ _ ∧ _ ∧ _ ∧ _ ∧ _))

variable {c : Char} {a p x y : List Char} {s m : Scan}

theorem visible_of_isAlphanum (h : c.isAlphanum) : Visible c := by
  have hrange : (48 ≤ c.toNat ∧ c.toNat ≤ 57) ∨ (65 ≤ c.toNat ∧ c.toNat ≤ 90) ∨
      (97 ≤ c.toNat ∧ c.toNat ≤ 122) := by
    unfold Char.isAlphanum Char.isAlpha Char.isUpper Char.isLower Char.isDigit at h
    simp only [Bool.or_eq_true, Bool.and_eq_true, decide_eq_true_eq, ge_iff_le,
      UInt32.le_iff_toNat_le] at h
    rcases h with (h | h) | h
    · exact .inr (.inl h)
    · exact .inr (.inr h)
    · exact .inl h
  -- what ends an authority stands between the letters and digits
  refine ⟨by omega, by omega, ?_, ?_, ?_, ?_⟩ <;> rintro rfl <;> revert hrange <;> decide

theorem visible_of_isAuthorityChar (h : isAuthorityChar c) : Visible c := by
  rw [isAuthorityChar, Bool.or_eq_true] at h
  rcases h with h | h
  · exact visible_of_isAlphanum h
  · have hall : ['!', '$', '&', '\'', '(', ')', '*', '+', ',', '-', '.', ';', '=', '_', '~'].all
        fun d => Visible d := by decide
    exact of_decide_eq_true (List.all_eq_true.1 hall c (of_decide_eq_true h))

/-! ## The scan -/

/-- What one more character can do to a scan, as far as brackets go. -/
theorem Scan.step_cases (h : s.step c = .ok m) :
    Visible c ∧
    ((c = '[' ∧ s.opened = false ∧ m.opened = true ∧ m.closed = s.closed) ∨
      (c = ']' ∧ s.opened = true ∧ m.opened = true ∧ m.closed = true) ∨
      (c ≠ '[' ∧ c ≠ ']' ∧ m.opened = s.opened ∧ m.closed = s.closed)) := by
  unfold step at h
  by_cases hcolon : c = ':'
  · subst hcolon
    simp only [if_true] at h
    split at h
    · cases h
    · cases h
      exact ⟨by decide, .inr (.inr ⟨by decide, by decide, rfl, rfl⟩)⟩
  rw [if_neg hcolon] at h
  by_cases hopen : c = '['
  · subst hopen
    simp only [if_true, Bool.or_eq_true] at h
    split at h
    · cases h
    · rename_i hfree
      cases h
      exact ⟨by decide, .inl ⟨rfl, by simpa using fun ho => hfree (.inr ho), rfl, rfl⟩⟩
  rw [if_neg hopen] at h
  by_cases hclose : c = ']'
  · subst hclose
    simp only [if_true] at h
    split at h
    · cases h
    · rename_i hbound
      cases h
      have ho : s.opened = true := by
        cases ho : s.opened with
        | true => rfl
        | false => simp [ho] at hbound
      exact ⟨by decide, .inr (.inl ⟨rfl, ho, ho, rfl⟩)⟩
  rw [if_neg hclose] at h
  by_cases hat : c = '@'
  · subst hat
    cases h
    exact ⟨by decide, .inr (.inr ⟨hopen, hclose, rfl, rfl⟩)⟩
  rw [if_neg hat] at h
  by_cases hpercent : c = '%'
  · subst hpercent
    cases h
    exact ⟨by decide, .inr (.inr ⟨hopen, hclose, rfl, rfl⟩)⟩
  rw [if_neg hpercent] at h
  split at h
  · rename_i hc
    cases h
    exact ⟨visible_of_isAuthorityChar hc, .inr (.inr ⟨hopen, hclose, rfl, rfl⟩)⟩
  · cases h

theorem scanAll_cons : scanAll s (c :: x) = .ok m ↔
    ∃ n, s.step c = .ok n ∧ scanAll n x = .ok m := by
  rw [scanAll]
  cases s.step c with
  | error e => simp
  | ok n => simp

theorem scanAll_append : scanAll s (x ++ y) = .ok m ↔
    ∃ n, scanAll s x = .ok n ∧ scanAll n y = .ok m := by
  induction x generalizing s with
  | nil => simp [scanAll]
  | cons c x ih =>
    simp only [List.cons_append, scanAll_cons, ih]
    constructor
    · rintro ⟨n, hc, o, hx, hy⟩
      exact ⟨o, ⟨n, hc, hx⟩, hy⟩
    · rintro ⟨o, ⟨n, hc, hx⟩, hy⟩
      exact ⟨n, hc, o, hx, hy⟩

theorem scanAll_visible (h : scanAll s x = .ok m) : ∀ c ∈ x, Visible c := by
  induction x generalizing s with
  | nil => simp
  | cons d x ih =>
    obtain ⟨n, hd, hx⟩ := scanAll_cons.1 h
    exact List.forall_mem_cons.2 ⟨(Scan.step_cases hd).1, ih hx⟩

/-- Only what was opened is closed. -/
theorem scanAll_closed (h : scanAll s x = .ok m) (hs : s.closed → s.opened) :
    m.closed → m.opened := by
  induction x generalizing s with
  | nil =>
    obtain rfl := Except.ok.inj h
    exact hs
  | cons c x ih =>
    obtain ⟨n, hc, hx⟩ := scanAll_cons.1 h
    apply ih hx
    rcases (Scan.step_cases hc).2 with ⟨-, -, ho, -⟩ | ⟨-, -, ho, -⟩ | ⟨-, -, ho, hcl⟩
    · exact fun _ => ho
    · exact fun _ => ho
    · rwa [ho, hcl]

/-- Where nothing closes, what is open stays so. -/
theorem scanAll_open (h : scanAll s x = .ok m) (hx : ']' ∉ x) (ho : s.opened = true)
    (hc : s.closed = false) : m.opened = true ∧ m.closed = false := by
  induction x generalizing s with
  | nil =>
    obtain rfl := Except.ok.inj h
    exact ⟨ho, hc⟩
  | cons c x ih =>
    obtain ⟨n, hstep, hrest⟩ := scanAll_cons.1 h
    rw [List.mem_cons, not_or] at hx
    rcases (Scan.step_cases hstep).2 with ⟨-, hs, -⟩ | ⟨rfl, -⟩ | ⟨-, -, ho', hc'⟩
    · exact absurd ho (by simp [hs])
    · exact absurd rfl hx.1
    · exact ih hrest hx.2 (ho'.trans ho) (hc'.trans hc)

/-- What is open stays so, and no other bracket opens. -/
theorem scanAll_opens_once (h : scanAll s x = .ok m) (ho : s.opened = true) : '[' ∉ x := by
  induction x generalizing s with
  | nil => exact List.not_mem_nil
  | cons c x ih =>
    obtain ⟨n, hstep, hrest⟩ := scanAll_cons.1 h
    rw [List.mem_cons, not_or]
    rcases (Scan.step_cases hstep).2 with ⟨-, hs, -⟩ | ⟨rfl, -, hn, -⟩ | ⟨hc, -, hn, -⟩
    · rw [ho] at hs
      cases hs
    · exact ⟨by decide, ih hrest hn⟩
    · exact ⟨Ne.symm hc, ih hrest (hn.trans ho)⟩

/-! ## Accepted texts -/

theorem IsAuthority.scan (h : IsAuthority a) :
    ∃ m, scanAll ⟨0, false, false, false, false⟩ a = .ok m ∧ m.opened = m.closed := by
  have hcheck := h.2
  unfold checkAuthority at hcheck
  split at hcheck
  · cases hcheck
  · rename_i m hm
    split at hcheck
    · rename_i hall
      simp only [Bool.and_eq_true, beq_iff_eq] at hall
      exact ⟨m, hm, hall.1.1.1⟩
    · cases hcheck

theorem IsAuthority.visible (h : IsAuthority a) : ∀ c ∈ a, Visible c := by
  obtain ⟨m, hm, -⟩ := h.scan
  exact scanAll_visible hm

/-- **A bracket that opens is closed** behind it. -/
theorem IsAuthority.closes (h : IsAuthority (x ++ '[' :: y)) : ']' ∈ y := by
  obtain ⟨m, hm, heq⟩ := h.scan
  obtain ⟨n, hx, hrest⟩ := scanAll_append.1 hm
  obtain ⟨o, hbracket, hy⟩ := scanAll_cons.1 hrest
  apply Decidable.byContradiction
  intro hnone
  rcases (Scan.step_cases hbracket).2 with ⟨-, hfree, hopen, hclosed⟩ | ⟨h, -⟩ | ⟨h, -⟩
  · -- nothing was open before, so nothing was closed
    have hn : n.closed = false := by
      cases hn : n.closed with
      | false => rfl
      | true => exact absurd (scanAll_closed hx (by simp) hn) (by simp [hfree])
    obtain ⟨ho, hc⟩ := scanAll_open hy hnone hopen (hclosed.trans hn)
    simp [ho, hc] at heq
  · exact absurd h (by decide)
  · exact h rfl

/-- **One bracket opens** at most. -/
theorem IsAuthority.opens_once (h : IsAuthority (x ++ '[' :: y)) : '[' ∉ y := by
  obtain ⟨m, hm, -⟩ := h.scan
  obtain ⟨n, -, hrest⟩ := scanAll_append.1 hm
  obtain ⟨o, hbracket, hy⟩ := scanAll_cons.1 hrest
  rcases (Scan.step_cases hbracket).2 with ⟨-, -, hopen, -⟩ | ⟨h, -⟩ | ⟨h, -⟩
  · exact scanAll_opens_once hy hopen
  · exact absurd h (by decide)
  · exact absurd rfl h

/-! ## Targets -/

theorem isAuthority_of_readAuthority {t : Uri} (h : readAuthority x = .ok t)
    (ha : t.authority? = some a) (hx : x ≠ []) : IsAuthority a := by
  unfold readAuthority at h
  simp only at h
  split at h
  · cases h
  · rename_i hcheck
    split at h
    · rename_i hall
      rw [hall] at hcheck
      obtain rfl := Except.ok.inj h
      obtain rfl := Option.some.inj ha
      exact ⟨hx, hcheck⟩
    · cases h

theorem isAuthority_of_readAbsolute {scheme : List Char} {t : Uri}
    (h : readAbsolute scheme x = .ok t) (ha : t.authority? = some a) : IsAuthority a := by
  unfold readAbsolute at h
  simp only at h
  split at h
  · cases h
  split at h
  · cases h
  · rename_i hcheck
    split at h
    · cases h
    · rename_i hne
      cases hp : readPath (x.drop (x.takeWhile (!endsAuthority ·)).length) with
      | error e =>
        rw [hp] at h
        cases h
      | ok p =>
        rw [hp] at h
        obtain rfl := Except.ok.inj h
        obtain rfl := Option.some.inj ha
        exact ⟨hne, hcheck⟩

/-- **The authority of a target** is accepted as one. -/
theorem isAuthority_of_read {t : Uri} (h : read x = .ok t) (ha : t.authority? = some a) :
    IsAuthority a := by
  unfold read at h
  split at h
  · cases h
  split at h
  · cases h
  · obtain rfl := Except.ok.inj h
    cases ha
  · rename_i r _
    cases hp : readPath ('/' :: r) with
    | error e =>
      rw [hp] at h
      cases h
    | ok p =>
      rw [hp] at h
      obtain rfl := Except.ok.inj h
      cases ha
  · rename_i hne _ _
    split at h
    · exact isAuthority_of_readAbsolute h ha
    · exact isAuthority_of_readAuthority h ha hne

/-- A path without a fragment is read as it stands. -/
theorem readPath_eq (hf : '#' ∉ p) (h : readPath p = .ok x) : x = p := by
  have htake := takeWhile_ne_of_not_mem hf
  simp only [readPath, htake] at h
  split at h
  · exact (Except.ok.inj h).symm
  · cases h

/-- A target that starts with a slash is a path. -/
theorem read_rooted {t : Uri} (hp : p.head? = some '/') (hf : '#' ∉ p) (h : read p = .ok t) :
    t = .path p ∧ readPath p = .ok p := by
  obtain ⟨q, rfl⟩ := List.head?_eq_some_iff.1 hp
  unfold read at h
  split at h
  · cases h
  · cases hr : readPath ('/' :: q) with
    | error e =>
      rw [hr] at h
      cases h
    | ok x =>
      obtain rfl := readPath_eq hf hr
      rw [hr] at h
      exact ⟨(Except.ok.inj h).symm, rfl⟩

/-- **An accepted authority with an accepted path** is an accepted target, unless it is too long. -/
theorem read_http (ha : IsAuthority a) (hp : p.head? = some '/') (hr : readPath p = .ok p) :
    read ("http://".toList ++ (a ++ p)) =
      if maxLength < (Utf8.encode ("http://".toList ++ (a ++ p))).length then .error .tooLong
      else .ok (.absolute "http".toList a p) := by
  have htake : (a ++ p).takeWhile (!endsAuthority ·) = a := by
    obtain ⟨q, rfl⟩ := List.head?_eq_some_iff.1 hp
    rw [List.takeWhile_append_of_pos]
    · simp [endsAuthority]
    · intro c hc
      obtain ⟨-, -, hslash, hquestion, hhash, -⟩ := ha.visible c hc
      simp [endsAuthority, hslash, hquestion, hhash]
  have habsolute : readAbsolute "http".toList (a ++ p) = .ok (.absolute "http".toList a p) := by
    unfold readAbsolute
    simp only [htake, ha.2, if_neg ha.1, List.drop_left, hr]
    rfl
  have hread : read ("http://".toList ++ (a ++ p)) =
      if maxLength < (Utf8.encode ("http://".toList ++ (a ++ p))).length then .error .tooLong
      else readAbsolute "http".toList (a ++ p) := rfl
  rw [hread, habsolute]

end Uri

/-- **An authority is read back** from the value of a header. -/
theorem Field.text?_authority {a : List Char} (ha : Uri.IsAuthority a) :
    Field.text? (Utf8.encode a) = some (String.ofList a) := by
  have hbyte : ∀ c ∈ a,
      (UInt8.ofNat c.toNat).toNat = c.toNat ∧ 0x21 ≤ c.toNat ∧ c.toNat < 0x7F := by
    intro c hc
    obtain ⟨hl, hu, -⟩ := ha.visible c hc
    rw [UInt8.toNat_ofNat']
    omega
  rw [Utf8.encode_ascii fun c hc => by have := hbyte c hc; omega]
  unfold text?
  rw [if_pos, List.map_map]
  · congr 2
    calc a.map _ = a.map id := by
          apply List.map_congr_left
          intro c hc
          exact Utf8.ofNat_eq (hbyte c hc).1
      _ = a := List.map_id a
  · rw [List.all_map, List.all_eq_true]
    intro c hc
    obtain ⟨heq, hl, hu⟩ := hbyte c hc
    simp only [Function.comp_apply, Bool.or_eq_true, Bool.and_eq_true, decide_eq_true_eq,
      UInt8.le_iff_toNat_le, UInt8.lt_iff_toNat_lt, heq]
    exact .inr ⟨Nat.le_of_succ_le hl, hu⟩

end StubProxy
