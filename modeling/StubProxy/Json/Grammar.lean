import StubProxy.Json.Value
import StubProxy.Text.Numeral

/-!
# The grammar of JSON

Which texts write which values, said without reading or printing any. Blanks may stand around every
part, and nothing else is optional.

* `Spells`: the characters of a string, each as it is or escaped.
* `WritesNumber`: a number and its numeral; only the letter of an exponent has two forms.
* `Denotes`, `Items`, `Members`: a value, and what stands between brackets and between braces.
* `IsText`: a whole text.
* `nesting`: how deep arrays and objects stand within each other.
-/

namespace StubProxy.Json

open Text

/-- Blanks only. -/
def Blanks (s : List Char) : Prop := ∀ c ∈ s, c = ' ' ∨ c = '\n' ∨ c = '\t' ∨ c = '\r'

/-! ## Strings -/

/-- The escapes of one letter, and what they stand for. -/
def letterEscapes : List (Char × Char) :=
  [('"', '"'), ('\\', '\\'), ('/', '/'), ('b', Char.ofNat 8), ('f', Char.ofNat 12), ('n', '\n'),
    ('r', '\r'), ('t', '\t')]

/-- Four hexadecimal digits and the number that they write. -/
def Hex4 (s : List Char) (n : Nat) : Prop := s.length = 4 ∧ readDigits 16 hexDigit? 0 s = some n

/-- A character in a string. What is no surrogate may be escaped by its code, and what is beyond the
first plane by a pair of surrogates. -/
inductive Symbol : Char → List Char → Prop
  | plain {c : Char} : c ≠ '"' → c ≠ '\\' → 0x20 ≤ c.toNat → Symbol c [c]
  | letter {c e : Char} : (e, c) ∈ letterEscapes → Symbol c ['\\', e]
  | code {s : List Char} {n : Nat} : Hex4 s n → n < 0xD800 ∨ 0xE000 ≤ n →
      Symbol (Char.ofNat n) ('\\' :: 'u' :: s)
  | pair {s t : List Char} {n m : Nat} : Hex4 s n → 0xD800 ≤ n → n < 0xDC00 → Hex4 t m →
      0xDC00 ≤ m → m < 0xE000 →
      Symbol (Char.ofNat (0x10000 + (n - 0xD800) * 1024 + (m - 0xDC00)))
        ('\\' :: 'u' :: s ++ '\\' :: 'u' :: t)

/-- Characters one after the other. -/
inductive Spells : List Char → List Char → Prop
  | nil : Spells [] []
  | cons {c : Char} {s t r : List Char} : Symbol c s → Spells t r → Spells (c :: t) (s ++ r)

/-- A string in quotes. -/
inductive Quotes : String → List Char → Prop
  | mk {t : String} {s : List Char} : Spells t.toList s → Quotes t ('"' :: s ++ ['"'])

/-! ## Numbers -/

/-- Digits, one at least. -/
def Digits (s : List Char) : Prop := s ≠ [] ∧ ∀ c ∈ s, c.isDigit

/-- A fraction, or nothing. -/
inductive Fraction : List Char → Prop
  | absent : Fraction []
  | present {s : List Char} : Digits s → Fraction ('.' :: s)

/-- An exponent with either letter and any sign, or nothing; and the same with the small letter. -/
inductive Exponent : List Char → List Char → Prop
  | absent : Exponent [] []
  | present {e : Char} {sign s : List Char} : e = 'e' ∨ e = 'E' →
      sign = [] ∨ sign = ['+'] ∨ sign = ['-'] → Digits s →
      Exponent (e :: sign ++ s) ('e' :: sign ++ s)

/-- A number: no plus sign, and no zero in front of other digits. -/
inductive WritesNumber : List Char → String → Prop
  | mk {sign s fraction exponent exponent' : List Char} : sign = [] ∨ sign = ['-'] → Digits s →
      (s.head? = some '0' → s = ['0']) → Fraction fraction → Exponent exponent exponent' →
      WritesNumber (sign ++ s ++ fraction ++ exponent)
        (String.ofList (sign ++ s ++ fraction ++ exponent'))

/-! ## Values -/

mutual

/-- A value, without blanks around it. -/
inductive Denotes : Json → List Char → Prop
  | null : Denotes .null ['n', 'u', 'l', 'l']
  | yes : Denotes (.bool true) ['t', 'r', 'u', 'e']
  | no : Denotes (.bool false) ['f', 'a', 'l', 's', 'e']
  | number {n : String} {s : List Char} : WritesNumber s n → Denotes (.number n) s
  | string {t : String} {s : List Char} : Quotes t s → Denotes (.string t) s
  | emptyArray {s : List Char} : Blanks s → Denotes (.array []) ('[' :: s ++ [']'])
  | array {vs : List Json} {s : List Char} : Items vs s → Denotes (.array vs) ('[' :: s ++ [']'])
  | emptyObject {s : List Char} : Blanks s → Denotes (.object []) ('{' :: s ++ ['}'])
  | object {ms : List (String × Json)} {s : List Char} : Members ms s →
      Denotes (.object ms) ('{' :: s ++ ['}'])

/-- Values with commas between them, one at least. -/
inductive Items : List Json → List Char → Prop
  | last {v : Json} {a s b : List Char} : Blanks a → Denotes v s → Blanks b →
      Items [v] (a ++ s ++ b)
  | cons {v : Json} {vs : List Json} {a s b t : List Char} : Blanks a → Denotes v s → Blanks b →
      Items vs t → Items (v :: vs) (a ++ s ++ b ++ ',' :: t)

/-- Names with their values, a colon between the two, and commas between members, one at least. -/
inductive Members : List (String × Json) → List Char → Prop
  | last {n : String} {v : Json} {a q b c s d : List Char} : Blanks a → Quotes n q → Blanks b →
      Blanks c → Denotes v s → Blanks d →
      Members [(n, v)] (a ++ q ++ b ++ ':' :: (c ++ s ++ d))
  | cons {n : String} {v : Json} {ms : List (String × Json)} {a q b c s d t : List Char} :
      Blanks a → Quotes n q → Blanks b → Blanks c → Denotes v s → Blanks d → Members ms t →
      Members ((n, v) :: ms) (a ++ q ++ b ++ ':' :: (c ++ s ++ d) ++ ',' :: t)

end

/-- A whole text: a value between blanks. -/
def IsText (s : List Char) (v : Json) : Prop :=
  ∃ a t b, Blanks a ∧ Denotes v t ∧ Blanks b ∧ s = a ++ t ++ b

mutual

/-- How deep arrays and objects stand within each other in a value. -/
def nesting : Json → Nat
  | array items => nestingOfItems items + 1
  | object members => nestingOfMembers members + 1
  | _ => 0

/-- The deepest of some items. -/
def nestingOfItems : List Json → Nat
  | [] => 0
  | v :: vs => max (nesting v) (nestingOfItems vs)

/-- The deepest of some members. -/
def nestingOfMembers : List (String × Json) → Nat
  | [] => 0
  | (_, v) :: ms => max (nesting v) (nestingOfMembers ms)

end

end StubProxy.Json
