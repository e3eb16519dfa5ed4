import StubProxy.Directive.Json
import StubProxy.Proofs.JsonPrinter
import StubProxy.Proofs.JsonReader

/-!
# Directives are printed without loss

`Directive.printed_lossless`: what is printed for a list of directives is JSON, in both layouts for
one value, and the list is read back from this value (`Directive.listOfJson?_listToJson`).

A body of bytes and one of text never have one value, as one is an array and the other a string;
neither do headers and none, even if there are no names in the headers, as an object is never `null`.
This is what `Body.ofJson?` and `Json.option?` go by.
-/

namespace StubProxy

open Text

/-! ## Reading values back -/

theorem readDigits_of_isDigit {s : List Char} (hs : ∀ c ∈ s, c.isDigit) (m : Nat) :
    readDigits 10 digit? m s = some (Nat.ofDigitChars 10 s m) := by
  induction s generalizing m with
  | nil => rfl
  | cons c s ih =>
    rw [List.forall_mem_cons] at hs
    rw [readDigits, digit?_of_isDigit hs.1, Option.bind_some, ih hs.2, Nat.ofDigitChars_cons]

/-- What is read back item by item is read back as a whole. -/
theorem mapM_map_of_inverse {α β : Type} (f : α → β) (g : β → Option α) (h : ∀ x, g (f x) = some x)
    (xs : List α) : (xs.map f).mapM g = some xs := by
  induction xs with
  | nil => rfl
  | cons x xs ih => rw [List.map_cons, List.mapM_cons, h, ih]; rfl

theorem Json.nat?_nat (n : Nat) : (Json.nat n).nat? = some n := by
  have hne : String.ofList (decimal n) ≠ "" := by simp [decimal_ne_nil]
  rw [Json.nat, Json.nat?, if_neg hne, String.toList_ofList,
    readDigits_of_isDigit fun _ => isDigit_of_mem_decimal]
  exact congrArg some Nat.ofDigitChars_ten_toDigits

/-- What may be missing is read back if its value is, and is never `null`. -/
theorem Json.option?_ofOption {α : Type} {f : α → Json} {g : Json → Option α}
    (hread : ∀ x, g (f x) = some x) (hnull : ∀ x, f x ≠ .null) (o : Option α) :
    (Json.ofOption f o).option? g = some o := by
  cases o with
  | none => rfl
  | some x =>
    have hvalue : (f x).option? g = (g (f x)).map some := by
      unfold option?
      split
      · rename_i h
        exact absurd h (hnull x)
      · rfl
    rw [ofOption, hvalue, hread]
    rfl

theorem Body.ofJson?_toJson (b : Body) : Body.ofJson? b.toJson = some b := by
  cases b with
  | text s => rfl
  | binary b =>
    -- a byte is read as a number first, and no number of a byte is cut off
    have hread := mapM_map_of_inverse (fun x : UInt8 => Json.nat x.toNat)
      (fun j => j.nat?.map UInt8.ofNat) (fun x => by simp [Json.nat?_nat]) b
    rw [toJson, ofJson?, hread]
    rfl

theorem Headers.ofJson?_toJson (h : Headers) : Headers.ofJson? (Headers.toJson h) = some h :=
  mapM_map_of_inverse (fun p : String × String => (p.1, Json.string p.2))
    (fun m => m.2.string?.map (m.1, ·)) (fun _ => rfl) h

namespace Directive

theorem ofJson?_toJson (d : Directive) : ofJson? d.toJson = some d := by
  have hheaders := Json.option?_ofOption Headers.ofJson?_toJson
    (fun h => by simp [Headers.toJson]) d.headers
  have htype := Json.option?_ofOption (f := Json.string) (g := Json.string?) (fun _ => rfl)
    (fun t => by simp) d.contentType
  simp [toJson, ofJson?, Json.string?, Json.nat?_nat, Body.ofJson?_toJson, hheaders, htype]

/-- Directives are read back from their value. -/
theorem listOfJson?_listToJson (ds : List Directive) : listOfJson? (listToJson ds) = some ds :=
  mapM_map_of_inverse toJson ofJson? ofJson?_toJson ds

end Directive

/-! ## Values that can be printed -/

namespace Json

variable {n : Nat}

/-- A value that is printed as JSON, nested at most `n` deep. -/
structure Within (n : Nat) (v : Json) : Prop where
  wellFormed : WellFormed v
  nesting_le : nesting v ≤ n

theorem within_null : Within n .null := ⟨.null, Nat.zero_le n⟩

theorem within_string (t : String) : Within n (.string t) := ⟨.string, Nat.zero_le n⟩

theorem within_nat (k : Nat) : Within n (.nat k) := by
  refine ⟨.number ?_, Nat.zero_le n⟩
  rw [String.toList_ofList]
  exact writesNumber_decimal k

theorem within_ofOption {α : Type} {f : α → Json} (h : ∀ x, Within n (f x)) (o : Option α) :
    Within n (ofOption f o) := by
  cases o with
  | none => exact within_null
  | some x => exact h x

theorem Within.array {vs : List Json} (h : ∀ v ∈ vs, Within n v) : Within (n + 1) (.array vs) := by
  refine ⟨.array fun v hv => (h v hv).wellFormed, ?_⟩
  rw [nesting]
  apply Nat.succ_le_succ
  induction vs with
  | nil => exact Nat.zero_le n
  | cons v vs ih =>
    rw [List.forall_mem_cons] at h
    exact Nat.max_le.2 ⟨h.1.nesting_le, ih h.2⟩

theorem Within.object {ms : List (String × Json)} (h : ∀ m ∈ ms, Within n m.2) :
    Within (n + 1) (.object ms) := by
  refine ⟨.object fun m hm => (h m hm).wellFormed, ?_⟩
  rw [nesting]
  apply Nat.succ_le_succ
  induction ms with
  | nil => exact Nat.zero_le n
  | cons m ms ih =>
    rw [List.forall_mem_cons] at h
    exact Nat.max_le.2 ⟨h.1.nesting_le, ih h.2⟩

end Json

theorem Body.within_toJson (b : Body) : Json.Within 1 b.toJson := by
  cases b with
  | text s => exact Json.within_string s
  | binary b =>
    apply Json.Within.array
    intro v hv
    obtain ⟨x, -, rfl⟩ := List.mem_map.1 hv
    exact Json.within_nat x.toNat

theorem Headers.within_toJson (h : Headers) : Json.Within 1 (Headers.toJson h) := by
  apply Json.Within.object
  intro m hm
  obtain ⟨p, -, rfl⟩ := List.mem_map.1 hm
  exact Json.within_string p.2

namespace Directive

theorem within_toJson (d : Directive) : Json.Within 2 d.toJson := by
  apply Json.Within.object
  simp [Json.within_string, Json.within_nat, Body.within_toJson,
    Json.within_ofOption Headers.within_toJson, Json.within_ofOption Json.within_string]

theorem within_listToJson (ds : List Directive) : Json.Within 3 (listToJson ds) := by
  apply Json.Within.array
  intro v hv
  obtain ⟨d, -, rfl⟩ := List.mem_map.1 hv
  exact d.within_toJson

/-! ## What is printed -/

/-- The texts that directives are printed as. -/
def printed (ds : List Directive) : List String := [(listToJson ds).compact, (listToJson ds).pretty]

/-- A text of JSON for directives: for their value and no other, and this value is read back as
them. -/
structure Carries (text : String) (ds : List Directive) : Prop where
  isText : ∀ v, Json.IsText text.toList v ↔ v = listToJson ds
  parse : Json.parse text.toList = some (listToJson ds)
  read : listOfJson? (listToJson ds) = some ds

theorem Carries.unique {text : String} {ds ds' : List Directive} (h : Carries text ds)
    (h' : Carries text ds') : ds = ds' := by
  have hvalue : listToJson ds = listToJson ds' := Option.some.inj (h.parse.symm.trans h'.parse)
  have hread := h.read
  rw [hvalue, h'.read] at hread
  exact (Option.some.inj hread).symm

theorem carries_write {l : Json.Layout} (hl : l.Blank) (ds : List Directive) :
    Carries (String.ofList (Json.write l 0 (listToJson ds))) ds := by
  have hwithin := within_listToJson ds
  have htext := Json.isText_write hl hwithin.wellFormed
  rw [← String.toList_ofList (l := Json.write l 0 (listToJson ds))] at htext
  refine ⟨fun v => ⟨fun hv => hv.unique htext, ?_⟩, ?_, listOfJson?_listToJson ds⟩
  · rintro rfl
    exact htext
  · -- an array, its objects, and in these an array of bytes or an object of headers
    exact htext.parse_eq (hwithin.nesting_le.trans (by decide))

/-- **Printed directives lose nothing.** Both layouts are texts of JSON for the same value, and the
directives are read back from it; so no text is printed for two lists. Of a string only quotes,
backslashes and control characters are escaped. -/
theorem printed_lossless :
    (∀ ds, Carries (listToJson ds).compact ds ∧ Carries (listToJson ds).pretty ds) ∧
    (∀ ds ds', (∃ text ∈ printed ds, text ∈ printed ds') ↔ ds = ds') ∧
    ∀ c, Json.escape c = [c] ↔ c ≠ '"' ∧ c ≠ '\\' ∧ 0x20 ≤ c.toNat := by
  have hcompact : ∀ ds, Carries (listToJson ds).compact ds := carries_write Json.Layout.blank_compact
  have hpretty : ∀ ds, Carries (listToJson ds).pretty ds := carries_write Json.Layout.blank_pretty
  have hprinted : ∀ ds, ∀ text ∈ printed ds, Carries text ds := by
    intro ds text htext
    simp only [printed, List.mem_cons, List.not_mem_nil, or_false] at htext
    rcases htext with rfl | rfl
    · exact hcompact ds
    · exact hpretty ds
  refine ⟨fun ds => ⟨hcompact ds, hpretty ds⟩, ?_, fun c => Json.escape_eq_self⟩
  intro ds ds'
  constructor
  · rintro ⟨text, htext, htext'⟩
    exact (hprinted ds text htext).unique (hprinted ds' text htext')
  · rintro rfl
    exact ⟨_, List.mem_cons_self, List.mem_cons_self⟩

example : (Body.text "[0,255]").toJson.compact = "\"[0,255]\"" ∧
    (Body.binary [0, 255]).toJson.compact = "[0,255]" := by decide +kernel

-- no headers and an empty table of headers are printed differently
example : (Json.ofOption Headers.toJson none).compact = "null" ∧
    (Json.ofOption Headers.toJson (some [])).compact = "\x7b\x7d" := by decide +kernel

end Directive

end StubProxy
