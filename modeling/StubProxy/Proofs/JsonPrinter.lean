import Mathlib.Tactic.SplitIfs
import StubProxy.Json.Grammar
import StubProxy.Json.Printer
import StubProxy.Proofs.Numeral

/-!
# Printed JSON is JSON

The printer against the grammar: a value whose numbers are numerals is what its printed text writes,
whatever blanks the layout puts between the parts (`isText_write`).

* `symbol_escape`, `escape_eq_self`: how a character is escaped, and which ones are.
* `writesNumber_decimal`: a decimal is a numeral.
* `denotes_write`: values within each other.
-/

namespace StubProxy.Json

open Text

variable {l : Layout} {f : Json → List Char} {depth : Nat}

/-- A value whose numbers are kept as they may stand in a text. -/
inductive WellFormed : Json → Prop
  | null : WellFormed .null
  | bool {b : Bool} : WellFormed (.bool b)
  | number {n : String} : WritesNumber n.toList n → WellFormed (.number n)
  | string {t : String} : WellFormed (.string t)
  | array {vs : List Json} : (∀ v ∈ vs, WellFormed v) → WellFormed (.array vs)
  | object {ms : List (String × Json)} : (∀ m ∈ ms, WellFormed m.2) → WellFormed (.object ms)

/-- A layout that adds blanks only. -/
structure Layout.Blank (l : Layout) : Prop where
  newline : ∀ depth, Blanks (l.newline depth)
  colon : ∃ a, Blanks a ∧ l.colon = ':' :: a

theorem blanks_nil : Blanks [] := by simp [Blanks]

theorem Layout.blank_compact : Layout.compact.Blank where
  newline _ := blanks_nil
  colon := ⟨[], blanks_nil, rfl⟩

theorem Layout.blank_pretty : Layout.pretty.Blank where
  newline depth := by simp [Layout.pretty, Blanks]
  colon := ⟨[' '], by simp [Blanks], rfl⟩

/-! ## Strings -/

theorem hex4_of_control : ∀ n < 0x20, Hex4 (hex4 n) n := by
  unfold Hex4
  decide

/-- A character is escaped as it may be. -/
theorem symbol_escape (c : Char) : Symbol c (escape c) := by
  unfold escape
  split
  · exact .letter (by decide)
  · exact .letter (by decide)
  · exact .letter (by decide)
  · exact .letter (by decide)
  · exact .letter (by decide)
  · rename_i hquote hback _ _ _
    split_ifs with hb hf hlow
    · rw [← Char.ofNat_toNat c, hb]
      exact .letter (by decide)
    · rw [← Char.ofNat_toNat c, hf]
      exact .letter (by decide)
    · have hcode := Symbol.code (hex4_of_control _ hlow) (.inl (by omega))
      rwa [Char.ofNat_toNat] at hcode
    · exact .plain hquote hback (Nat.not_lt.1 hlow)

/-- Only quotes, backslashes and control characters are escaped. -/
theorem escape_eq_self {c : Char} : escape c = [c] ↔ c ≠ '"' ∧ c ≠ '\\' ∧ 0x20 ≤ c.toNat := by
  unfold escape
  split
  · decide
  · decide
  · decide
  · decide
  · decide
  · rename_i hquote hback _ _ _
    split_ifs with hb hf hlow
    · simp [hb]
    · simp [hf]
    · simp [hlow]
    · simpa using ⟨hquote, hback, Nat.not_lt.1 hlow⟩

theorem spells_escape (s : List Char) : Spells s (s.flatMap escape) := by
  induction s with
  | nil => exact .nil
  | cons c s ih => exact .cons (symbol_escape c) ih

theorem quotes_writeString (t : String) : Quotes t (writeString t) := .mk (spells_escape t.toList)

/-! ## Numbers -/

/-- A decimal starts with a zero only if it is zero. -/
theorem decimal_zero {n : Nat} (h : (decimal n).head? = some '0') : decimal n = ['0'] := by
  induction n using Nat.strongRecOn with
  | ind n ih =>
    unfold decimal at h ih ⊢
    by_cases hn : n < 10
    · rw [Nat.toDigits_of_lt_base hn] at h ⊢
      rw [Option.some.inj h]
    · -- a zero in front would stand in front of the digits of `n / 10` already
      obtain ⟨c, s, hs⟩ := List.exists_cons_of_ne_nil (decimal_ne_nil (n / 10))
      unfold decimal at hs
      rw [Nat.toDigits_of_base_le (by decide) (Nat.not_lt.1 hn), hs] at h
      have hzero : Nat.ofDigitChars 10 (Nat.toDigits 10 (n / 10)) 0 = 0 := by
        rw [ih (n / 10) (by omega) (by rwa [hs])]
        decide
      rw [Nat.ofDigitChars_ten_toDigits] at hzero
      omega

theorem writesNumber_decimal (n : Nat) : WritesNumber (decimal n) (String.ofList (decimal n)) := by
  have hd : Digits (decimal n) := ⟨decimal_ne_nil n, fun _ => isDigit_of_mem_decimal⟩
  simpa using WritesNumber.mk (.inl rfl) hd decimal_zero .absent .absent

/-! ## Values -/

theorem writeItems_eq_map (vs : List Json) : writeItems l depth vs = vs.map (write l depth) := by
  induction vs with
  | nil => rfl
  | cons v vs ih => rw [writeItems, ih, List.map_cons]

theorem writeMembers_eq_map (ms : List (String × Json)) : writeMembers l depth ms =
    ms.map fun m => writeString m.1 ++ l.colon ++ write l depth m.2 := by
  induction ms with
  | nil => rfl
  | cons m ms ih => rw [writeMembers, ih, List.map_cons]

/-- What stands between the brackets. -/
def between (l : Layout) (depth : Nat) : List (List Char) → List Char
  | [] => []
  | [p] => l.newline (depth + 1) ++ p ++ l.newline depth
  | p :: q :: ps => l.newline (depth + 1) ++ p ++ ',' :: between l depth (q :: ps)

theorem enclose_eq (first last : Char) (parts : List (List Char)) :
    enclose l depth first last parts = first :: between l depth parts ++ [last] := by
  cases parts with
  | nil => rfl
  | cons p ps =>
    -- `enclose` puts a comma in front of every part but the first, `between` behind all but the last
    rw [enclose]
    induction ps generalizing p with
    | nil => simp [between]
    | cons q ps ih =>
      simpa [between] using ih q

theorem items_between (hl : l.Blank) {v : Json} {vs : List Json} (h : ∀ x ∈ v :: vs, Denotes x (f x)) :
    Items (v :: vs) (between l depth ((v :: vs).map f)) := by
  induction vs generalizing v with
  | nil => exact .last (hl.newline _) (h v List.mem_cons_self) (hl.newline _)
  | cons w vs ih =>
    have hv := h v List.mem_cons_self
    have hvs := ih fun x hx => h x (List.mem_cons_of_mem _ hx)
    simpa [between] using Items.cons (hl.newline (depth + 1)) hv blanks_nil hvs

theorem members_between (hl : l.Blank) {m : String × Json} {ms : List (String × Json)}
    (h : ∀ x ∈ m :: ms, Denotes x.2 (f x.2)) :
    Members (m :: ms)
      (between l depth ((m :: ms).map fun x => writeString x.1 ++ l.colon ++ f x.2)) := by
  obtain ⟨a, ha, hcolon⟩ := hl.colon
  rw [hcolon]
  induction ms generalizing m with
  | nil =>
    have hm := h m List.mem_cons_self
    simpa [between] using Members.last (hl.newline (depth + 1)) (quotes_writeString m.1) blanks_nil
      ha hm (hl.newline depth)
  | cons w ms ih =>
    have hm := h m List.mem_cons_self
    have hms := ih fun x hx => h x (List.mem_cons_of_mem _ hx)
    simpa [between] using Members.cons (hl.newline (depth + 1)) (quotes_writeString m.1) blanks_nil
      ha hm blanks_nil hms

/-- A value is denoted by what is written for it. -/
theorem denotes_write (hl : l.Blank) {v : Json} (hv : WellFormed v) (depth : Nat) :
    Denotes v (write l depth v) := by
  induction hv generalizing depth with
  | null => exact .null
  | @bool b =>
    cases b with
    | false => exact .no
    | true => exact .yes
  | number h => exact .number h
  | string => exact .string (quotes_writeString _)
  | @array vs _ ih =>
    rw [write, enclose_eq, writeItems_eq_map]
    cases vs with
    | nil => exact .emptyArray blanks_nil
    | cons v vs => exact .array (items_between hl fun x hx => ih x hx (depth + 1))
  | @object ms _ ih =>
    rw [write, enclose_eq, writeMembers_eq_map]
    cases ms with
    | nil => exact .emptyObject blanks_nil
    | cons m ms => exact .object (members_between hl fun x hx => ih x hx (depth + 1))

/-- **What is printed is JSON** for the value, in every layout that adds blanks only. -/
theorem isText_write (hl : l.Blank) {v : Json} (hv : WellFormed v) : IsText (write l 0 v) v :=
  ⟨[], write l 0 v, [], blanks_nil, denotes_write hl hv 0, blanks_nil, by simp⟩

end StubProxy.Json
