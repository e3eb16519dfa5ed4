import Mathlib.Data.List.DropRight
import Mathlib.Data.List.TakeDrop
import StubProxy.Json.Grammar
import StubProxy.Json.Reader

/-!
# JSON texts are read

The reader against the grammar: a text that writes a value is read as this value (`IsText.parse_eq`),
so that no text writes two values (`IsText.unique`).

* `Spells.read`: the characters of a string.
* `WritesNumber.read`: a number, up to what cannot belong to it (`Delimited`).
* `Denotes.read`, `Items.read`, `Members.read`: values within each other. Each symbol costs two steps,
  one for a value and one for the items or members that it is among.
-/

namespace StubProxy.Json

open Text

variable {a b r s t : List Char} {c : Char} {n fuel depth : Nat}

/-! ## Blanks -/

theorem isBlank_of_blanks (h : Blanks s) : ∀ c ∈ s, isBlank c := by
  intro c hc
  rcases h c hc with rfl | rfl | rfl | rfl <;> decide

theorem skip_blanks (h : Blanks a) (s : List Char) : skip (a ++ s) = skip s :=
  List.dropWhile_append_of_pos (isBlank_of_blanks h)

theorem skip_visible (hc : isBlank c = false) (s : List Char) : skip (c :: s) = c :: s :=
  List.dropWhile_cons_of_neg (by simp [hc])

theorem skip_skip (s : List Char) : skip (skip s) = skip s :=
  List.dropWhile_idempotent isBlank s

theorem skip_mark (ha : Blanks a) (hc : isBlank c = false) (s : List Char) :
    skip (a ++ c :: s) = c :: s :=
  (skip_blanks ha _).trans (skip_visible hc s)

/-! ## Strings -/

theorem Hex4.read (h : Hex4 s n) (r : List Char) : readHex4 (s ++ r) = some (n, r) := by
  obtain ⟨hlen, hread⟩ := h
  match s, hlen with
  | [x, y, z, w], _ => simp [readHex4, hread]

theorem Symbol.ne_nil (h : Symbol c s) : s ≠ [] := by
  cases h <;> simp

/-- One character of a string is read as itself. -/
theorem Symbol.read (h : Symbol c s) (fuel : Nat) (done r : List Char) :
    readString (fuel + 1) done (s ++ r) = readString fuel (c :: done) r := by
  -- all but the plain characters stand behind a backslash
  have hescape : ∀ x y, readEscape x = some (c, y) →
      readString (fuel + 1) done ('\\' :: x) = readString fuel (c :: done) y := by
    intro x y hx
    simp [readString, hx]
  cases h with
  | plain hq hb hl => simp [readString, hq, hb, Nat.not_lt.2 hl]
  | letter he =>
    apply hescape
    simp only [letterEscapes, List.mem_cons, Prod.mk.injEq, List.not_mem_nil, or_false] at he
    rcases he with ⟨rfl, rfl⟩ | ⟨rfl, rfl⟩ | ⟨rfl, rfl⟩ | ⟨rfl, rfl⟩ | ⟨rfl, rfl⟩ | ⟨rfl, rfl⟩ |
      ⟨rfl, rfl⟩ | ⟨rfl, rfl⟩ <;> rfl
  | @code s n hs hn =>
    apply hescape
    have hfirst : ¬ (0xD800 ≤ n ∧ n < 0xDC00) := by omega
    have hsecond : ¬ (0xDC00 ≤ n ∧ n < 0xE000) := by omega
    simp [readEscape, hs.read, hfirst, hsecond]
  | @pair s t n m hs hn hn' ht hm hm' =>
    apply hescape
    simp [readEscape, hs.read, ht.read, hn, hn', hm, hm']

/-- Characters up to the closing quote are read one after the other. -/
theorem Spells.read (h : Spells t s) (hfuel : s.length < fuel) (done r : List Char) :
    readString fuel done (s ++ '"' :: r) = some (String.ofList (done.reverse ++ t), r) := by
  induction h generalizing fuel done with
  | nil =>
    obtain ⟨fuel, rfl⟩ := Nat.exists_eq_succ_of_ne_zero (Nat.ne_of_gt hfuel)
    simp [readString]
  | @cons c s t r' hs _ ih =>
    -- a character takes one step of fuel and one symbol of the text at least
    have hpos := List.length_pos_iff.2 hs.ne_nil
    rw [List.length_append] at hfuel
    obtain ⟨fuel, rfl⟩ : ∃ k, fuel = k + 1 := ⟨fuel - 1, by omega⟩
    rw [List.append_assoc, hs.read, ih (by omega)]
    simp

theorem Quotes.read {t : String} (h : Quotes t s) (r : List Char) :
    ∃ x, s ++ r = '"' :: x ∧ readString (x.length + 1) [] x = some (t, r) := by
  cases h with
  | @mk s hs =>
    have hlen : s.length < (s ++ '"' :: r).length + 1 := by
      rw [List.length_append]
      omega
    refine ⟨s ++ '"' :: r, by simp, ?_⟩
    rw [hs.read hlen]
    simp

/-! ## Numbers -/

/-- What may follow a value: nothing, a blank, or a mark that goes on with what holds the value. -/
def Delimited (r : List Char) : Prop :=
  ∀ c, r.head? = some c → isBlank c ∨ c = ',' ∨ c = ']' ∨ c = '}'

theorem spanDigits_append (hs : ∀ c ∈ s, c.isDigit) (hr : ∀ c, r.head? = some c → c.isDigit = false) :
    spanDigits (s ++ r) = (s, r) := by
  have hstop : r.takeWhile Char.isDigit = [] ∧ r.dropWhile Char.isDigit = r := by
    cases r with
    | nil => exact ⟨rfl, rfl⟩
    | cons c r => simp [hr c rfl]
  unfold spanDigits
  rw [List.span_eq_takeWhile_dropWhile, List.takeWhile_append_of_pos hs,
    List.dropWhile_append_of_pos hs, hstop.1, hstop.2, List.append_nil]

theorem Delimited.head (h : Delimited r) :
    ∀ c, r.head? = some c → c.isDigit = false ∧ c ≠ '.' ∧ c ≠ 'e' ∧ c ≠ 'E' := by
  intro c hc
  have hmark := h c hc
  simp only [isBlank, Bool.or_eq_true, decide_eq_true_eq] at hmark
  rcases hmark with (((rfl | rfl) | rfl) | rfl) | rfl | rfl | rfl <;> decide

theorem readSign_append (signs : List Char) (hs : s = [] ∨ ∃ c ∈ signs, s = [c]) (ht : Digits t)
    (hd : ∀ c ∈ signs, c.isDigit = false) (r : List Char) :
    readSign signs (s ++ (t ++ r)) = (s, t ++ r) := by
  rcases hs with rfl | ⟨c, hc, rfl⟩
  · obtain ⟨d, t, rfl⟩ := List.exists_cons_of_ne_nil ht.1
    have hdigit := ht.2 d List.mem_cons_self
    have hmem : d ∉ signs := fun h => by simp [hd d h] at hdigit
    simp [readSign, hmem]
  · simp [readSign, hc]

theorem Fraction.read (h : Fraction s) (ht : ∀ c, t.head? = some c → c.isDigit = false ∧ c ≠ '.') :
    readFraction (s ++ t) = some (s, t) := by
  cases h with
  | absent =>
    rw [List.nil_append]
    unfold readFraction
    split
    · exact absurd rfl (ht _ rfl).2
    · rfl
  | present hs =>
    have hspan := spanDigits_append hs.2 fun c hc => (ht c hc).1
    simp [readFraction, hspan, hs.1]

theorem Exponent.read (h : Exponent s t) (hr : Delimited r) : readExponent (s ++ r) = some (t, r) := by
  cases h with
  | absent =>
    rw [List.nil_append]
    unfold readExponent
    split
    · exact absurd rfl (hr.head _ rfl).2.2.1
    · exact absurd rfl (hr.head _ rfl).2.2.2
    · rfl
  | @present e sign s he hsign hs =>
    have hsigns := readSign_append ['+', '-'] (by simpa using hsign) hs (by simp) r
    have hspan := spanDigits_append hs.2 fun c hc => (hr.head c hc).1
    rcases he with rfl | rfl <;> simp [readExponent, hsigns, hspan, hs.1]

theorem Exponent.head (h : Exponent s t) (hr : Delimited r) :
    ∀ c, (s ++ r).head? = some c → c.isDigit = false ∧ c ≠ '.' := by
  cases h with
  | absent => exact fun c hc => ⟨(hr.head c hc).1, (hr.head c hc).2.1⟩
  | present he =>
    rintro c ⟨⟩
    rcases he with rfl | rfl <;> decide

theorem Fraction.head (h : Fraction s) (ht : ∀ c, t.head? = some c → c.isDigit = false) :
    ∀ c, (s ++ t).head? = some c → c.isDigit = false := by
  cases h with
  | absent => exact ht
  | present =>
    rintro c ⟨⟩
    rfl

theorem WritesNumber.read {n : String} (h : WritesNumber s n) (hr : Delimited r) :
    readNumber (s ++ r) = some (n, r) := by
  obtain @⟨sign, s, fraction, exponent, exponent', hsign, hs, hzero, hf, he⟩ := h
  have hsigns := readSign_append ['-'] (by simpa using hsign) hs (by simp)
    (fraction ++ (exponent ++ r))
  have hspan := spanDigits_append hs.2 (hf.head fun c hc => (he.head hr c hc).1)
  have hdigits : ¬ (s = [] ∨ (s.head? = some '0' ∧ s ≠ ['0'])) := by
    rintro (h | ⟨h, h'⟩)
    · exact hs.1 h
    · exact h' (hzero h)
  simp [readNumber, hsigns, hspan, hdigits, hf.read (he.head hr), he.read hr]

/-! ## Values -/

theorem Delimited.of_blanks (ha : Blanks a) {x : Char} (hx : x = ',' ∨ x = ']' ∨ x = '}') :
    Delimited (a ++ x :: r) := by
  intro c hc
  cases a with
  | nil =>
    obtain rfl : x = c := by simpa using hc
    exact .inr hx
  | cons y a =>
    obtain rfl : y = c := by simpa using hc
    exact .inl (isBlank_of_blanks ha y List.mem_cons_self)

theorem WritesNumber.head {n : String} (h : WritesNumber s n) :
    ∃ c t, s = c :: t ∧ (c = '-' ∨ c.isDigit) := by
  obtain @⟨sign, s, fraction, exponent, exponent', hsign, hs, hzero, hf, he⟩ := h
  rcases hsign with rfl | rfl
  · obtain ⟨d, s, rfl⟩ := List.exists_cons_of_ne_nil hs.1
    exact ⟨d, _, rfl, .inr (hs.2 d List.mem_cons_self)⟩
  · exact ⟨'-', _, rfl, .inl rfl⟩

/-- Neither a blank nor a mark nor the first letter of a word starts a number. -/
theorem number_head (hc : c = '-' ∨ c.isDigit) :
    c ∉ [' ', '\n', '\t', '\r', 'n', 't', 'f', '"', '[', ']', '{', '}'] := by
  intro h
  simp only [List.mem_cons, List.not_mem_nil, or_false] at h
  rcases h with rfl | rfl | rfl | rfl | rfl | rfl | rfl | rfl | rfl | rfl | rfl | rfl <;>
    exact absurd hc (by decide)

/-- How a value starts: with a symbol that is no blank and closes nothing. -/
theorem Denotes.head {v : Json} (h : Denotes v s) :
    ∃ c t, s = c :: t ∧ isBlank c = false ∧ c ≠ ']' ∧ c ≠ '}' := by
  cases h with
  | number h =>
    obtain ⟨c, t, rfl, hc⟩ := h.head
    have := number_head hc
    refine ⟨c, t, rfl, ?_⟩
    simp_all [isBlank]
  | string h =>
    obtain ⟨h⟩ := h
    exact ⟨_, _, rfl, by decide⟩
  | _ => exact ⟨_, _, rfl, by decide⟩

theorem readValue_skip : readValue fuel depth (skip s) = readValue fuel depth s := by
  cases fuel with
  | zero => simp [readValue]
  | succ fuel => simp only [readValue, skip_skip]

theorem readValue_blanks (ha : Blanks a) :
    readValue fuel depth (a ++ s) = readValue fuel depth s := by
  rw [← readValue_skip, skip_blanks ha, readValue_skip]

theorem readItems_skip : readItems fuel depth (skip s) = readItems fuel depth s := by
  cases fuel with
  | zero => simp [readItems]
  | succ fuel => simp only [readItems, readValue_skip]

theorem readMembers_skip : readMembers fuel depth (skip s) = readMembers fuel depth s := by
  cases fuel with
  | zero => simp [readMembers]
  | succ fuel => simp only [readMembers, skip_skip]

theorem readValue_number {n : String} (h : WritesNumber s n) (hr : Delimited r) :
    readValue (fuel + 1) depth (s ++ r) = some (.number n, r) := by
  have hread := h.read hr
  obtain ⟨c, t, rfl, hc⟩ := h.head
  have hnot := number_head hc
  have hskip : skip (c :: t ++ r) = c :: t ++ r := skip_visible (by simp_all [isBlank]) _
  unfold readValue
  rw [hskip]
  -- what starts a number starts nothing else
  split <;> simp_all

theorem readValue_string {t : String} (h : Quotes t s) :
    readValue (fuel + 1) depth (s ++ r) = some (.string t, r) := by
  obtain ⟨x, hx, hread⟩ := h.read r
  have hskip : skip ('"' :: x) = '"' :: x := skip_visible (by decide) x
  simp [readValue, hx, hskip, hread]

theorem readValue_items {vs : List Json} (hdepth : 1 < depth) (hs : skip s = c :: t) (hc : c ≠ ']')
    (h : readItems fuel (depth - 1) s = some (vs, r)) :
    readValue (fuel + 1) depth ('[' :: s) = some (.array vs, r) := by
  have hskip : skip ('[' :: s) = '[' :: s := skip_visible (by decide) s
  rw [← readItems_skip, hs] at h
  simp [readValue, hskip, Nat.not_le.2 hdepth, hs, h, hc]

theorem readValue_members {ms : List (String × Json)} (hdepth : 1 < depth) (hs : skip s = c :: t)
    (hc : c ≠ '}') (h : readMembers fuel (depth - 1) s = some (ms, r)) :
    readValue (fuel + 1) depth ('{' :: s) = some (.object ms, r) := by
  have hskip : skip ('{' :: s) = '{' :: s := skip_visible (by decide) s
  rw [← readMembers_skip, hs] at h
  simp [readValue, hskip, Nat.not_le.2 hdepth, hs, h, hc]

theorem readValue_noItems (hdepth : 1 < depth) (ha : Blanks a) :
    readValue (fuel + 1) depth ('[' :: (a ++ ']' :: r)) = some (.array [], r) := by
  have hskip : skip ('[' :: (a ++ ']' :: r)) = '[' :: (a ++ ']' :: r) := skip_visible (by decide) _
  have hclose : skip (a ++ ']' :: r) = ']' :: r := skip_mark ha (by decide) r
  simp [readValue, hskip, Nat.not_le.2 hdepth, hclose]

theorem readValue_noMembers (hdepth : 1 < depth) (ha : Blanks a) :
    readValue (fuel + 1) depth ('{' :: (a ++ '}' :: r)) = some (.object [], r) := by
  have hskip : skip ('{' :: (a ++ '}' :: r)) = '{' :: (a ++ '}' :: r) := skip_visible (by decide) _
  have hclose : skip (a ++ '}' :: r) = '}' :: r := skip_mark ha (by decide) r
  simp [readValue, hskip, Nat.not_le.2 hdepth, hclose]

theorem readItems_last {v : Json} (ha : Blanks a) (hb : Blanks b)
    (h : readValue fuel depth s = some (v, b ++ ']' :: r)) :
    readItems (fuel + 1) depth (a ++ s) = some ([v], r) := by
  have hskip : skip (b ++ ']' :: r) = ']' :: r := skip_mark hb (by decide) r
  simp [readItems, readValue_blanks ha, h, hskip]

theorem readItems_cons {v : Json} {vs : List Json} (ha : Blanks a) (hb : Blanks b)
    (h : readValue fuel depth s = some (v, b ++ ',' :: t))
    (ht : readItems fuel depth t = some (vs, r)) :
    readItems (fuel + 1) depth (a ++ s) = some (v :: vs, r) := by
  have hskip : skip (b ++ ',' :: t) = ',' :: t := skip_mark hb (by decide) t
  simp [readItems, readValue_blanks ha, h, hskip, ht]

/-- A member's name and its colon are read; its value is next. -/
theorem readMembers_name {n : String} {q e : List Char} (ha : Blanks a) (hq : Quotes n q)
    (hb : Blanks b) (he : Blanks e) :
    readMembers (fuel + 1) depth (a ++ (q ++ (b ++ ':' :: (e ++ s)))) =
      (readValue fuel depth s).bind fun (v, s) =>
        match skip s with
        | '}' :: s => some ([(n, v)], s)
        | ',' :: s => (readMembers fuel depth s).map fun (ms, s) => ((n, v) :: ms, s)
        | _ => none := by
  obtain ⟨x, hx, hread⟩ := hq.read (b ++ ':' :: (e ++ s))
  have hname : skip (a ++ '"' :: x) = '"' :: x := skip_mark ha (by decide) x
  have hcolon : skip (b ++ ':' :: (e ++ s)) = ':' :: (e ++ s) := skip_mark hb (by decide) _
  rw [hx, readMembers]
  simp only [hname, hread, hcolon, readValue_blanks he]
  cases readValue fuel depth s with
  | none => rfl
  | some p => rfl

theorem readMembers_last {n : String} {v : Json} {q d e : List Char} (ha : Blanks a)
    (hq : Quotes n q) (hb : Blanks b) (he : Blanks e) (hd : Blanks d)
    (h : readValue fuel depth s = some (v, d ++ '}' :: r)) :
    readMembers (fuel + 1) depth (a ++ (q ++ (b ++ ':' :: (e ++ s)))) = some ([(n, v)], r) := by
  have hskip : skip (d ++ '}' :: r) = '}' :: r := skip_mark hd (by decide) r
  simp [readMembers_name ha hq hb he, h, hskip]

theorem readMembers_cons {n : String} {v : Json} {ms : List (String × Json)} {q d e : List Char}
    (ha : Blanks a) (hq : Quotes n q) (hb : Blanks b) (he : Blanks e) (hd : Blanks d)
    (h : readValue fuel depth s = some (v, d ++ ',' :: t))
    (ht : readMembers fuel depth t = some (ms, r)) :
    readMembers (fuel + 1) depth (a ++ (q ++ (b ++ ':' :: (e ++ s)))) =
      some ((n, v) :: ms, r) := by
  have hskip : skip (d ++ ',' :: t) = ',' :: t := skip_mark hd (by decide) t
  simp [readMembers_name ha hq hb he, h, hskip, ht]

/-! ## Whole values -/

theorem Items.head {vs : List Json} (h : Items vs s) (r : List Char) :
    ∃ x t, skip (s ++ r) = x :: t ∧ x ≠ ']' := by
  have hfirst : ∃ a v u t, Blanks a ∧ Denotes v u ∧ s ++ r = a ++ (u ++ t) := by
    cases h with
    | last ha hs => exact ⟨_, _, _, _, ha, hs, by simp only [List.append_assoc]; rfl⟩
    | cons ha hs => exact ⟨_, _, _, _, ha, hs, by simp only [List.append_assoc]; rfl⟩
  obtain ⟨a, v, u, t, ha, hu, hs⟩ := hfirst
  obtain ⟨x, u, rfl, hx, hne, -⟩ := hu.head
  exact ⟨x, u ++ t, by rw [hs, List.cons_append, skip_mark ha hx], hne⟩

theorem Members.head {ms : List (String × Json)} (h : Members ms s) (r : List Char) :
    ∃ t, skip (s ++ r) = '"' :: t := by
  have hfirst : ∃ a n q t, Blanks a ∧ Quotes n q ∧ s ++ r = a ++ (q ++ t) := by
    cases h with
    | last ha hq => exact ⟨_, _, _, _, ha, hq, by simp only [List.append_assoc]; rfl⟩
    | cons ha hq => exact ⟨_, _, _, _, ha, hq, by simp only [List.append_assoc]; rfl⟩
  obtain ⟨a, n, q, t, ha, hq, hs⟩ := hfirst
  obtain ⟨x, hx, -⟩ := hq.read t
  exact ⟨x, by rw [hs, hx, skip_mark ha (by decide)]⟩

mutual

/-- A value is read off the front of a text when what follows cannot belong to it. -/
theorem Denotes.read {v : Json} {s : List Char} (h : Denotes v s) (fuel depth : Nat) (r : List Char)
    (hfuel : 2 * (s.length + r.length) ≤ fuel) (hdepth : nesting v < depth) (hr : Delimited r) :
    readValue fuel depth (s ++ r) = some (v, r) := by
  have hpos : 0 < s.length := by
    obtain ⟨x, t, rfl, -⟩ := h.head
    exact Nat.succ_pos _
  obtain ⟨fuel, rfl⟩ : ∃ k, fuel = k + 1 := ⟨fuel - 1, by omega⟩
  cases h with
  | null => rfl
  | yes => rfl
  | no => rfl
  | number h => exact readValue_number h hr
  | string h => exact readValue_string h
  | emptyArray ha =>
    rw [nesting] at hdepth
    simpa using readValue_noItems (by omega) ha
  | @array vs s hs =>
    -- the bracket pays for the two steps, into the array and to its items
    rw [nesting] at hdepth
    simp only [List.length_append, List.length_cons, List.length_nil] at hfuel
    obtain ⟨x, t, hskip, hne⟩ := hs.head (']' :: r)
    have hitems := hs.read fuel (depth - 1) r (by omega) (by omega)
    simpa using readValue_items (by omega) hskip hne hitems
  | emptyObject ha =>
    rw [nesting] at hdepth
    simpa using readValue_noMembers (by omega) ha
  | @object ms s hs =>
    rw [nesting] at hdepth
    simp only [List.length_append, List.length_cons, List.length_nil] at hfuel
    obtain ⟨t, hskip⟩ := hs.head ('}' :: r)
    have hmembers := hs.read fuel (depth - 1) r (by omega) (by omega)
    simpa using readValue_members (by omega) hskip (by decide) hmembers

theorem Items.read {vs : List Json} {s : List Char} (h : Items vs s) (fuel depth : Nat)
    (r : List Char) (hfuel : 2 * (s.length + r.length) + 3 ≤ fuel)
    (hdepth : nestingOfItems vs < depth) :
    readItems fuel depth (s ++ ']' :: r) = some (vs, r) := by
  obtain ⟨fuel, rfl⟩ : ∃ k, fuel = k + 1 := ⟨fuel - 1, by omega⟩
  cases h with
  | @last v a s b ha hs hb =>
    simp only [List.length_append] at hfuel
    simp only [nestingOfItems] at hdepth
    have hvalue := hs.read fuel depth (b ++ ']' :: r)
      (by simp only [List.length_append, List.length_cons]; omega) (by omega)
      (.of_blanks hb (by simp))
    simpa using readItems_last ha hb hvalue
  | @cons v vs a s b t ha hs hb ht =>
    -- the comma pays for the two steps, to the further items and to the first of them
    simp only [List.length_append, List.length_cons] at hfuel
    simp only [nestingOfItems] at hdepth
    have hvalue := hs.read fuel depth (b ++ ',' :: (t ++ ']' :: r))
      (by simp only [List.length_append, List.length_cons]; omega) (by omega)
      (.of_blanks hb (by simp))
    have hrest := ht.read fuel depth r (by omega) (by omega)
    simpa using readItems_cons ha hb hvalue hrest

theorem Members.read {ms : List (String × Json)} {s : List Char} (h : Members ms s)
    (fuel depth : Nat) (r : List Char) (hfuel : 2 * (s.length + r.length) + 3 ≤ fuel)
    (hdepth : nestingOfMembers ms < depth) :
    readMembers fuel depth (s ++ '}' :: r) = some (ms, r) := by
  obtain ⟨fuel, rfl⟩ : ∃ k, fuel = k + 1 := ⟨fuel - 1, by omega⟩
  cases h with
  | @last n v a q b c s d ha hq hb hc hs hd =>
    simp only [List.length_append, List.length_cons] at hfuel
    simp only [nestingOfMembers] at hdepth
    have hvalue := hs.read fuel depth (d ++ '}' :: r)
      (by simp only [List.length_append, List.length_cons]; omega) (by omega)
      (.of_blanks hd (by simp))
    simpa using readMembers_last ha hq hb hc hd hvalue
  | @cons n v ms a q b c s d t ha hq hb hc hs hd ht =>
    simp only [List.length_append, List.length_cons] at hfuel
    simp only [nestingOfMembers] at hdepth
    have hvalue := hs.read fuel depth (d ++ ',' :: (t ++ '}' :: r))
      (by simp only [List.length_append, List.length_cons]; omega) (by omega)
      (.of_blanks hd (by simp))
    have hrest := ht.read fuel depth r (by omega) (by omega)
    simpa using readMembers_cons ha hq hb hc hd hvalue hrest

end

/-! ## Whole texts -/

theorem IsText.read {v : Json} (h : IsText s v) (hfuel : 2 * s.length ≤ fuel)
    (hdepth : nesting v < depth) :
    ∃ b, Blanks b ∧ readValue fuel depth s = some (v, b) := by
  obtain ⟨a, t, b, ha, ht, hb, rfl⟩ := h
  simp only [List.length_append] at hfuel
  have hend : Delimited b := fun c hc => .inl (isBlank_of_blanks hb c (List.mem_of_mem_head? hc))
  refine ⟨b, hb, ?_⟩
  rw [List.append_assoc, readValue_blanks ha]
  exact ht.read fuel depth b (by omega) hdepth hend

/-- **A text of JSON is read** as its value if that is nested no deeper than the reader goes. -/
theorem IsText.parse_eq {v : Json} (h : IsText s v) (hdepth : nesting v ≤ 127) :
    parse s = some v := by
  obtain ⟨b, hb, hread⟩ := h.read (Nat.le_add_right _ 2) (Nat.lt_succ_of_le hdepth)
  have hskip : skip b = [] := by simpa [skip] using isBlank_of_blanks hb
  simp [parse, hread, hskip]

/-- **No text writes two values**: at any depth one reader reads both. -/
theorem IsText.unique {v w : Json} (hv : IsText s v) (hw : IsText s w) : v = w := by
  have hlt : nesting v < nesting v + nesting w + 1 := by omega
  have hlt' : nesting w < nesting v + nesting w + 1 := by omega
  obtain ⟨b, -, hb⟩ := hv.read le_rfl hlt
  obtain ⟨b', -, hb'⟩ := hw.read le_rfl hlt'
  rw [hb] at hb'
  exact congrArg Prod.fst (Option.some.inj hb')

end StubProxy.Json
