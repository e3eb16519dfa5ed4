import StubProxy.Proofs.Blank
import StubProxy.Proofs.Utf8
import StubProxy.Rule.Parts

/-!
# What both scripts have in common

`Script.Lawful` lists what the rule grammar relies on: writing keeps texts apart and is read back,
the marks of the grammar are found where the text has them, and ended lines are lines.

* `Declared.onto_ofHeaders`: the table that header lines fill is what a directive has that they are
  added to one by one.
* `textScript_lawful`, `byteScript_lawful`: both scripts are lawful.
-/

namespace StubProxy

open Text

namespace Script

variable {α : Type}

/-- The laws of a script. -/
structure Lawful (S : Script α) : Prop where
  write_append : ∀ s t, S.write (s ++ t) = S.write s ++ S.write t
  read_write : ∀ s, S.read (S.write s) = s
  write_lineFeed : S.write ['\n'] = [S.lineFeed]
  write_space : S.write [' '] = [S.space]
  write_colon : S.write [':'] = [S.colon]
  infix_write : ∀ {mark s}, mark ≠ [] → (S.write mark <:+: S.write s ↔ mark <:+: s)
  isBlank_space : S.isBlank S.space = true
  isBlank_colon : S.isBlank S.colon = false
  lines_ended : ∀ {ls : List (List α)}, ls ≠ [] → (∀ l ∈ ls, S.lineFeed ∉ l) →
    (∀ l ∈ ls, ∀ x, l.getLast? = some x → S.isBlank x = false) →
    S.lines (ls.flatMap (· ++ [S.lineFeed])) = ls

namespace Lawful

variable {S : Script α} (hS : S.Lawful) {s : List Char}
include hS

theorem write_nil : S.write [] = [] := by
  have h := hS.write_append [] []
  rw [List.append_nil] at h
  exact List.self_eq_append_right.1 h

theorem write_ne_nil (hs : s ≠ []) : S.write s ≠ [] := by
  intro h
  rw [← hS.read_write s, h, ← hS.write_nil, hS.read_write] at hs
  exact hs rfl

/-- A character that is one symbol, between two texts. -/
theorem write_cons {c : Char} {x : α} (hx : S.write [c] = [x]) (s t : List Char) :
    S.write (s ++ c :: t) = S.write s ++ x :: S.write t := by
  rw [hS.write_append, ← List.singleton_append, hS.write_append, hx]
  rfl

theorem mem_write {c : Char} {x : α} (hx : S.write [c] = [x]) : x ∈ S.write s ↔ c ∈ s := by
  rw [← singleton_isInfix, ← singleton_isInfix, ← hx, hS.infix_write (by simp)]

end Lawful

theorem requestLines_of_lines [DecidableEq α] {S : Script α} {s l : List α} {ls : List (List α)}
    (hs : S.lineFeed ∈ s) (hl : S.lines s = l :: ls) : S.requestLines s = (l, ls) := by
  rw [requestLines, if_pos hs, hl]

end Script

/-! ## What header lines declare -/

theorem Headers.insert_ne_nil (name value : String) (hs : Headers) :
    Headers.insert name value hs ≠ [] := by
  cases hs with
  | nil => simp [insert]
  | cons h hs =>
    rw [insert]
    split <;> exact List.cons_ne_nil _ _

theorem Headers.unlessEmpty_of_ne_nil {hs : Headers} (h : hs ≠ []) : hs.unlessEmpty = some hs := by
  rw [unlessEmpty, if_neg (by simpa using h)]

theorem Headers.getD_unlessEmpty (hs : Headers) : hs.unlessEmpty.getD [] = hs := by
  cases hs <;> rfl

namespace Declared

/-- A directive without headers and content type, with those that are declared. -/
def onto (t : Declared) (d : Directive) : Directive :=
  { d with headers := t.headers.unlessEmpty, contentType := t.contentType }

theorem onto_add (t : Declared) (d : Directive) (h : String × String) :
    (t.add h).onto d = (t.onto d).declare h := by
  unfold add Directive.declare
  split
  · rfl
  · have hlist : (t.onto d).headerList = t.headers := Headers.getD_unlessEmpty t.headers
    rw [Directive.withHeader, hlist, onto,
      Headers.unlessEmpty_of_ne_nil (Headers.insert_ne_nil _ _ _)]
    rfl

/-- **What header lines declare** is what the directive has that they are added to one by one. -/
theorem onto_ofHeaders (d : Directive) (hs : Headers) :
    (ofHeaders hs).onto d = hs.foldl Directive.declare d.bare := by
  have hfold : ∀ t : Declared, (hs.foldl add t).onto d = hs.foldl Directive.declare (t.onto d) := by
    induction hs with
    | nil => exact fun _ => rfl
    | cons h hs ih =>
      intro t
      rw [List.foldl_cons, List.foldl_cons, ih, onto_add]
  exact hfold empty

end Declared

namespace Script

/-! ## The outcomes of reading a rule -/

section Parse

variable {α : Type} [DecidableEq α] {S : Script α} {s request response line method url : List α}
  {headerLines : List (List α)}

theorem parse_of_no_arrow (h : S.split arrow (S.trim s) = none) :
    S.parse s = .error (.missingArrow (S.toString (S.trim s))) := by
  simp only [parse, h]

theorem parse_of_words (h : S.split arrow (S.trim s) = some (request, response))
    (hl : S.requestLines request = (line, headerLines))
    (hw : ∀ method url, S.words line ≠ [method, url]) :
    S.parse s = .error (.malformedRequestLine ((S.words line).map S.toString)) := by
  -- `hw` rules the first alternative out
  simp only [parse, h, hl]

theorem parse_of_two_words (h : S.split arrow (S.trim s) = some (request, response))
    (hl : S.requestLines request = (line, headerLines)) (hw : S.words line = [method, url]) :
    S.parse s = (readStatus (S.read (S.splitAtColon response).1)).map fun n =>
      (headerLines.filterMap S.readHeader).foldl Directive.declare
        (.new (S.toString method) (S.toString url) n (S.body (S.splitAtColon response).2)) := by
  simp only [parse, h, hl, hw]
  cases readStatus (S.read (S.splitAtColon response).1) with
  | error e => rfl
  | ok n => exact congrArg Except.ok (Declared.onto_ofHeaders (.new _ _ n _) _)

end Parse

end Script

/-- Headers change neither the request nor the status, nor the body. -/
theorem Directive.bare_foldl_declare (d : Directive) (hs : Headers) :
    (hs.foldl declare d).bare = d.bare := by
  induction hs generalizing d with
  | nil => rfl
  | cons h hs ih =>
    have hd : (d.declare h).bare = d.bare := by
      unfold declare
      split <;> rfl
    rw [List.foldl_cons, ih, hd]

theorem textScript_lawful : textScript.Lawful where
  write_append _ _ := rfl
  read_write _ := rfl
  write_lineFeed := rfl
  write_space := rfl
  write_colon := rfl
  infix_write _ := Iff.rfl
  isBlank_space := by decide
  isBlank_colon := by decide
  lines_ended _ hl hb := by
    apply lines_ended hl
    intro l h hr
    exact absurd (hb l h '\r' hr) (by decide)

theorem byteScript_lawful : byteScript.Lawful where
  write_append := Utf8.encode_append
  read_write := Utf8.decodeLossy_encode
  write_lineFeed := by decide
  write_space := by decide
  write_colon := by decide
  infix_write := Utf8.infix_encode
  isBlank_space := by decide
  isBlank_colon := by decide
  lines_ended hn hl hb := by
    apply allLines_ended hn hl
    intro l h hr
    exact absurd (hb l h 13 hr) (by decide)

end StubProxy
