import Mathlib.Data.List.Forall2
import StubProxy.Proofs.Utf8
import StubProxy.Proofs.Blank
import StubProxy.Proofs.Script
import StubProxy.Rule.File
import StubProxy.Rule.Writer

/-!
# Rules in files

A file ends every line of a rule anew, so that a rule may come back with one more line break at its
end; nothing else happens to it. Rules are read alike with and without that line break.

* `Rule.InFile`: the text rules that a file can hold.
* `Rule.chunks_contents`: the groups of lines of a file are the rules that were written to it.
* `Rule.directives_chunks`: and they are read as these rules are.
* `Rule.loadAll_error_iff`: the first file that cannot be read decides about several.
* `Rule.files_agree`: rules from files and rules from a list give the same directives or errors.
-/

namespace StubProxy

open Text

/-! ## One more line break -/

theorem Script.parse_of_trim {α : Type} [DecidableEq α] {S : Script α} {s t : List α}
    (h : S.trim s = S.trim t) : S.parse s = S.parse t := by
  unfold parse
  rw [h]

/-- An empty line has no say in the margin. -/
theorem Text.margin_concat_nil (ls : List (List Char)) : margin (ls ++ [[]]) = margin ls := by
  unfold margin
  rw [List.filter_append]
  simp [isBare]

theorem Text.dedent_concat (s : List Char) : dedent (s ++ ['\n']) = dedent s ++ ['\n'] := by
  have hp : pieces '\n' (s ++ ['\n']) = pieces '\n' s ++ [[]] := pieces_break '\n' s []
  have hempty : ∀ m, stripMargin m [] = [] := fun m => if_pos rfl
  obtain ⟨ps, q, h⟩ := exists_last_piece '\n' s
  simp only [dedent, hp, margin_concat_nil, h, List.map_append, List.map_singleton, hempty]
  rw [joinPieces_append, joinPieces_append, List.flatMap_append, List.flatMap_singleton, joinPieces,
    joinPieces, List.append_nil, List.append_assoc]

namespace Rule

variable {r t : List Char} {rules : List String} {g : List (List Char)}

/-- A line break at its end does not change what a rule is read as. -/
theorem parseText_concat (hr : r ≠ []) : parseText (r ++ ['\n']) = parseText r := by
  have ht : textScript.trim (dedent r ++ ['\n']) = textScript.trim (dedent r) :=
    trim_append (dedent r) (List.forall_mem_singleton.2 (by decide))
  rw [parseText, parseText, if_neg (by simp), if_neg hr, dedent_concat, Script.parse_of_trim ht]

/-! ## The groups of a file -/

/-- A text rule that a file can hold: if it is blank, it is empty; no line of it separates rules,
and no line of it loses a carriage return. -/
structure InFile (r : List Char) : Prop where
  blank : r = [] ∨ trim isBlank r ≠ []
  no_separator : ∀ l ∈ pieces '\n' r, isSeparator l = false
  no_crlf : ¬ ['\r', '\n'] <:+: r
  no_final_cr : r.getLast? ≠ some '\r'

instance (r : List Char) : Decidable (InFile r) :=
  decidable_of_iff ((r = [] ∨ trim isBlank r ≠ []) ∧ (∀ l ∈ pieces '\n' r, isSeparator l = false) ∧
    splitFirst ['\r', '\n'] r = none ∧ r.getLast? ≠ some '\r')
    ⟨fun ⟨h, i, j, k⟩ => ⟨h, i, splitFirst_eq_none.1 j, k⟩,
      fun ⟨h, i, j, k⟩ => ⟨h, i, splitFirst_eq_none.2 j, k⟩⟩

/-- A line of such a rule does not end with a carriage return. -/
theorem InFile.no_cr (h : InFile r) : ∀ l ∈ pieces '\n' r, l.getLast? ≠ some '\r' := by
  intro l hl hcr
  obtain ⟨k, rfl⟩ := List.getLast?_eq_some_iff.1 hcr
  obtain ⟨a, b, hr, hb⟩ := exists_of_mem_pieces hl
  cases b with
  | nil =>
    apply h.no_final_cr
    rw [hr, List.append_nil, ← List.append_assoc, List.getLast?_concat]
  | cons c b =>
    obtain rfl := hb c rfl
    apply h.no_crlf
    exact ⟨a ++ k, b, by simp [hr]⟩

theorem InFile.map_dropLastIf (h : InFile r) :
    (pieces '\n' r).map (dropLastIf '\r') = pieces '\n' r :=
  Text.map_dropLastIf h.no_cr

theorem groups_of_no_separator (h : ∀ l ∈ g, isSeparator l = false) : groups g = [g] := by
  induction g with
  | nil => rfl
  | cons l g ih =>
    rw [List.forall_mem_cons] at h
    rw [groups, if_neg (by simp [h.1]), ih h.2, consLine]

/-- A separator ends a group. -/
theorem groups_append (h : ∀ l ∈ g, isSeparator l = false) {sep : List Char}
    (hs : isSeparator sep) (ls : List (List Char)) : groups (g ++ sep :: ls) = g :: groups ls := by
  induction g with
  | nil => rw [List.nil_append, groups, if_pos hs]
  | cons l g ih =>
    rw [List.forall_mem_cons] at h
    rw [List.cons_append, groups, if_neg (by simp [h.1]), ih h.2, consLine]

/-- A rule as it comes out of a file. -/
def Chunk (r t : List Char) : Prop := t = r ∨ t = r ++ ['\n']

/-- At the end of a file, a final line break of a rule is not doubled. -/
theorem InFile.lines (h : InFile r) :
    (∀ l ∈ Text.lines '\n' '\r' r, isSeparator l = false) ∧
      Chunk r (groupText (Text.lines '\n' '\r' r)) := by
  obtain ⟨ps, q, hp⟩ := exists_last_piece '\n' r
  have hall := flatMap_pieces '\n' r
  have hcr := h.no_cr
  have hsep := h.no_separator
  rw [hp] at hall hcr hsep
  rw [lines_of_pieces hp, Text.map_dropLastIf fun l hl => hcr l (by simp [hl]), groupText]
  by_cases hq : q = []
  · subst hq
    rw [if_pos rfl, List.append_nil]
    exact ⟨fun l hl => hsep l (List.mem_append_left _ hl), .inl (by simpa using hall)⟩
  · rw [if_neg hq]
    exact ⟨hsep, .inr hall⟩

/-- **The groups of lines of a file** are the rules that were written to it. -/
theorem chunks_contents {r : String} (h : ∀ q ∈ r :: rules, InFile q.toList) :
    List.Forall₂ Chunk ((r :: rules).map String.toList)
      ((groups (lines '\n' '\r' (contents (r :: rules)))).map groupText) := by
  induction rules generalizing r with
  | nil =>
    have hr := h r List.mem_cons_self
    have hc : contents [r] = r.toList := List.intercalate_singleton
    rw [hc, groups_of_no_separator hr.lines.1]
    exact .cons hr.lines.2 .nil
  | cons q rules ih =>
    rw [List.forall_mem_cons] at h
    have hc : contents (r :: q :: rules) =
        r.toList ++ '\n' :: (['-', '-', '-'] ++ '\n' :: contents (q :: rules)) := by
      rw [contents, List.map_cons, List.map_cons, List.intercalate_cons_cons, ← List.map_cons]
      simp [separator, contents]
    have hdash : (pieces '\n' ['-', '-', '-']).map (dropLastIf '\r') = [['-', '-', '-']] := rfl
    rw [hc, lines_break, h.1.map_dropLastIf, lines_break, hdash, List.singleton_append,
      groups_append h.1.no_separator rfl, List.map_cons, List.map_cons]
    refine .cons (.inr ?_) (ih h.2)
    exact flatMap_pieces '\n' r.toList

/-! ## Reading the groups -/

/-- A rule that comes out of a file is blank only if it is empty, and is then no rule in the list
either; otherwise it is read as before. -/
theorem InFile.parse_chunk (h : InFile r) (ht : Chunk r t) :
    (r = [] ∧ trim isBlank t = []) ∨
      (trim isBlank t ≠ [] ∧ (text (String.ofList t)).parse = (text (String.ofList r)).parse) := by
  have hbreak : ∀ x ∈ ['\n'], isBlank x := List.forall_mem_singleton.2 (by decide)
  have htrim : trim isBlank t = trim isBlank r := by
    rcases ht with rfl | rfl
    · rfl
    · exact trim_append r hbreak
  rcases h.blank with rfl | hr
  · exact .inl ⟨rfl, htrim⟩
  · refine .inr ⟨by rwa [htrim], ?_⟩
    rw [parse, parse, String.toList_ofList, String.toList_ofList]
    rcases ht with rfl | rfl
    · rfl
    · refine parseText_concat ?_
      rintro rfl
      exact hr rfl

/-- **Rules from a file are read as the rules that were written to it.** -/
theorem directives_chunks {rs ts : List (List Char)} (h : ∀ r ∈ rs, InFile r)
    (hc : List.Forall₂ Chunk rs ts) :
    directives ((ts.filter (trim isBlank · ≠ [])).map fun t => text (String.ofList t)) =
      directives (rs.map fun r => text (String.ofList r)) := by
  induction hc with
  | nil => rfl
  | @cons r t rs ts ht _ ih =>
    rw [List.forall_mem_cons] at h
    rcases h.1.parse_chunk ht with ⟨rfl, hb⟩ | ⟨hb, hp⟩
    · -- the empty rule makes no directive
      have hempty : (text (String.ofList [])).parse = .ok none := rfl
      rw [List.filter_cons_of_neg (by simpa using hb), ih h.2, List.map_cons, directives, hempty]
    · rw [List.filter_cons_of_pos (by simpa using hb), List.map_cons, List.map_cons, directives,
        directives, hp, ih h.2]

/-- One file. -/
theorem directives_ofFile (h : ∀ r ∈ rules, InFile r.toList) :
    directives (ofFile (contents rules)) = directives (rules.map text) := by
  cases rules with
  | nil => rfl
  | cons r rules =>
    have hlist : ∀ s ∈ (r :: rules).map String.toList, InFile s := List.forall_mem_map.2 h
    have hread := directives_chunks hlist (chunks_contents h)
    simp only [List.map_map, Function.comp_def, String.ofList_toList] at hread
    exact hread

/-! ## Several files -/

theorem directives_append (rs qs : List Rule) :
    directives (rs ++ qs) =
      (directives rs).bind fun ds => (directives qs).map (ds ++ ·) := by
  induction rs with
  | nil => cases h : directives qs <;> simp [directives, Except.bind, Except.map, h]
  | cons r rs ih =>
    rw [List.cons_append, directives, directives]
    cases r.parse with
    | error e => rfl
    | ok d =>
      cases d with
      | none => exact ih
      | some d =>
        simp only [ih]
        cases directives rs with
        | error e => rfl
        | ok ds => cases directives qs <;> rfl

theorem load_encode (s : List Char) : load (.ok (Utf8.encode s)) = .ok (ofFile s) := by
  rw [load, ofBytes, Utf8.decode?_encode]

/-- Rules that are spread over files are loaded and read as one list of them. -/
theorem loadAll_contents {files : List (List String)}
    (h : ∀ rules ∈ files, ∀ r ∈ rules, InFile r.toList) :
    ∃ loaded, loadAll (files.map fun rules => .ok (Utf8.encode (contents rules))) = .ok loaded ∧
      directives loaded = directives (files.flatten.map text) := by
  induction files with
  | nil => exact ⟨[], rfl, rfl⟩
  | cons rules files ih =>
    rw [List.forall_mem_cons] at h
    obtain ⟨loaded, hl, hd⟩ := ih h.2
    refine ⟨ofFile (contents rules) ++ loaded, ?_, ?_⟩
    · rw [List.map_cons, loadAll, load_encode, hl]
      rfl
    · rw [List.flatten_cons, List.map_append, directives_append, directives_append,
        directives_ofFile h.1, hd]

/-- The first file that cannot be read has this error, whatever follows. -/
def FirstUnreadable (files : List FileContents) (e : IoError) : Prop :=
  ∃ good f rest, files = good ++ f :: rest ∧ (∀ g ∈ good, ∃ rs, load g = .ok rs) ∧
    load f = .error e

/-- **Loading several files** fails with the error of the first that cannot be read. -/
theorem loadAll_error_iff (files : List FileContents) (e : IoError) :
    loadAll files = .error e ↔ FirstUnreadable files e := by
  constructor
  · intro h
    induction files with
    | nil => cases h
    | cons f files ih =>
      rw [loadAll] at h
      cases hf : load f with
      | error e' =>
        rw [hf] at h
        exact ⟨[], f, files, rfl, by simp, hf.trans h⟩
      | ok rs =>
        simp only [hf] at h
        cases hr : loadAll files with
        | error e' =>
          rw [hr] at h ih
          obtain ⟨good, g, rest, rfl, hgood, hg⟩ := ih h
          exact ⟨f :: good, g, rest, rfl, List.forall_mem_cons.2 ⟨⟨rs, hf⟩, hgood⟩, hg⟩
        | ok qs =>
          rw [hr] at h
          cases h
  · rintro ⟨good, f, rest, rfl, hgood, hf⟩
    induction good with
    | nil => simp [loadAll, hf]
    | cons g good ih =>
      rw [List.forall_mem_cons] at hgood
      obtain ⟨⟨rs, hg⟩, hgood⟩ := hgood
      rw [List.cons_append, loadAll, hg]
      simp [ih hgood, Except.map]

/-- A file that cannot be read is enough. -/
theorem exists_firstUnreadable {files : List FileContents} {f : FileContents} {e : IoError}
    (hf : f ∈ files) (he : load f = .error e) : ∃ e, FirstUnreadable files e := by
  induction files with
  | nil => cases hf
  | cons g files ih =>
    cases hg : load g with
    | error e' => exact ⟨e', [], g, files, rfl, by simp, hg⟩
    | ok rs =>
      have hmem : f ∈ files := by
        rcases List.mem_cons.1 hf with rfl | hf
        · rw [hg] at he
          cases he
        · exact hf
      obtain ⟨e', good, k, rest, rfl, hgood, hk⟩ := ih hmem
      exact ⟨e', g :: good, k, rest, rfl, List.forall_mem_cons.2 ⟨⟨rs, hg⟩, hgood⟩, hk⟩

/-- **Rule files and lists of rules agree.** Rules that files can hold, written to one file or spread
over several in order, give the directives that they give as a list, or the error that they give as
a list. If a file cannot be read, be it missing or no text, then loading fails with the error of the
first such file, whatever the others hold. -/
theorem files_agree :
    (∀ rules : List String, (∀ r ∈ rules, InFile r.toList) →
      directives (ofFile (contents rules)) = directives (rules.map text)) ∧
    (∀ files : List (List String), (∀ rules ∈ files, ∀ r ∈ rules, InFile r.toList) →
      ∃ loaded, loadAll (files.map fun rules => .ok (Utf8.encode (contents rules))) = .ok loaded ∧
        directives loaded = directives (files.flatten.map text)) ∧
    (∀ files e, loadAll files = .error e ↔ FirstUnreadable files e) ∧
    (∀ files f e, f ∈ files → load f = .error e → ∃ e, FirstUnreadable files e) := by
  refine ⟨fun rules h => directives_ofFile h, fun files h => loadAll_contents h, loadAll_error_iff, ?_⟩
  intro files f e hf he
  exact exists_firstUnreadable hf he

/-- An indented rule with a line break at its end, an empty rule, and two files later a rule with a
bad status; and a missing file in front of one that is no text. -/
theorem files_agree_bad_status :
    let first := ["  GET http://a.b\n    X-A: 1\n  -> 200 :x\n    y\n", "", "PUT http://c.d -> 204"]
    let third := ["\tGET http://e.f -> 2OO :\n\n"]
    let files : List FileContents :=
      [first, [], third].map fun rules => .ok (Utf8.encode (contents rules))
    directives (ofFile (contents first)) = directives (first.map text) ∧
      (directives (first.map text)).isOk ∧
      (∃ loaded, loadAll files = .ok loaded ∧
        directives loaded = .error (.malformedStatus " 2OO " .invalidDigit)) ∧
      loadAll [.ok (Utf8.encode (contents first)), .error .notFound, .ok [0xFF]] =
        .error (.system .notFound) := by
  intro first third files
  have hfiles : ∀ rules ∈ [first, [], third], ∀ r ∈ rules, InFile r.toList := by decide +kernel
  obtain ⟨hone, hall, herror, -⟩ := files_agree
  obtain ⟨loaded, hl, hd⟩ := hall [first, [], third] hfiles
  have hbad : directives ([first, [], third].flatten.map text) =
      .error (.malformedStatus " 2OO " .invalidDigit) := by decide +kernel
  refine ⟨hone first (hfiles first List.mem_cons_self), by decide +kernel,
    ⟨loaded, hl, hd.trans hbad⟩, (herror _ _).2 ⟨[.ok (Utf8.encode (contents first))],
      .error .notFound, [.ok [0xFF]], rfl, ?_, rfl⟩⟩
  exact List.forall_mem_singleton.2 ⟨_, load_encode _⟩

end Rule

end StubProxy
