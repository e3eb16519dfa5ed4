/-!
# Cutting a text into parts

A text is a list of symbols (characters or bytes), so the cuts below serve both.

* `splitFirst`: the two sides of the first occurrence of a mark.
* `pieces`: everything between the occurrences of one symbol.
* `trim`, `trimEnd`: both ends, or the last one, without the symbols of a class.
* `lines`, `allLines`: two ways of reading line breaks, which differ at the end of the text.
* `CutAt`, `UpTo`: what a cut at a mark or at a symbol is, without a search.
-/

namespace StubProxy.Text

variable {α : Type}

/-- Without the leading and the trailing symbols that satisfy `p`. -/
def trim (p : α → Bool) (s : List α) : List α :=
  ((s.dropWhile p).reverse.dropWhile p).reverse

/-- Without the trailing symbols that satisfy `p`. -/
def trimEnd (p : α → Bool) (s : List α) : List α := (s.reverse.dropWhile p).reverse

variable [DecidableEq α]

/-- The parts before and after the first occurrence of `mark`; an empty mark occurs at the start. -/
def splitFirst (mark : List α) : List α → Option (List α × List α)
  | [] => if mark = [] then some ([], []) else none
  | a :: s =>
    if mark.isPrefixOf (a :: s) then some ([], (a :: s).drop mark.length)
    else (splitFirst mark s).map fun p => (a :: p.1, p.2)

theorem length_lt_of_splitFirst {c : α} {s before behind : List α}
    (h : splitFirst [c] s = some (before, behind)) : behind.length < s.length := by
  induction s generalizing before with
  | nil => simp [splitFirst] at h
  | cons a s ih =>
    simp only [splitFirst] at h
    split at h
    · grind
    · obtain ⟨p, hp, h⟩ := Option.map_eq_some_iff.1 h
      grind

/-- The parts around the first symbol `c`; without one, all of the text and nothing. -/
def splitAtSymbol (c : α) (s : List α) : List α × List α :=
  (splitFirst [c] s).getD (s, [])

/-- Puts one more symbol in front of the first piece. -/
def consFirst (a : α) : List (List α) → List (List α)
  | [] => [[a]]
  | p :: ps => (a :: p) :: ps

/-- The pieces between the occurrences of `sep`; there is always at least one. -/
def pieces (sep : α) : List α → List (List α)
  | [] => [[]]
  | a :: s => if a = sep then [] :: pieces sep s else consFirst a (pieces sep s)

/-- The pieces joined again with `sep` between each two. -/
def joinPieces (sep : α) : List (List α) → List α
  | [] => []
  | [p] => p
  | p :: q :: ps => p ++ sep :: joinPieces sep (q :: ps)

/-- Without one `c` at the end. -/
def dropLastIf (c : α) (s : List α) : List α :=
  if s.getLast? = some c then s.dropLast else s

/--
The lines of a text: each ends with `lf` or with `cr lf`, and the last one may do without. A `cr`
that no `lf` follows belongs to its line.
-/
def lines (lf cr : α) (s : List α) : List (List α) :=
  let ps := pieces lf s
  let last := ps.getLastD []
  ps.dropLast.map (dropLastIf cr) ++ if last = [] then [] else [last]

/--
The lines of a text, where a `cr` at the end of any line is dropped, also of the last. Only a final
`lf` keeps what follows it from being a line.
-/
def allLines (lf cr : α) (s : List α) : List (List α) :=
  let ps := (pieces lf s).map (dropLastIf cr)
  if s.getLast? = some lf then ps.dropLast else ps

/-- The text is cut at the first occurrence of a mark. -/
structure CutAt (mark s before behind : List α) : Prop where
  eq : s = before ++ mark ++ behind
  first : ∀ a b, s = a ++ mark ++ b → before.length ≤ a.length

/-- A text, its part before the first symbol `c`, and the part behind; without one, all and nothing. -/
inductive UpTo (c : α) : List α → List α → List α → Prop
  | found {a b : List α} : c ∉ a → UpTo c (a ++ c :: b) a b
  | missing {a : List α} : c ∉ a → UpTo c a a []

end StubProxy.Text
