import StubProxy.Proofs.Script
import StubProxy.Proofs.Numeral
import StubProxy.Rule.Writer

/-!
# Reading back written rules

A written rule is read as the directive it writes: no part of it reaches into the next. The request
line and the header lines hold no arrow and no line break, so the first arrow starts the response
line; names hold no colon, so the first colon of a header line ends its name; and the digits of the
status hold none, so the first colon of the response line ends the status.

* `Script.parse_render`: reading back, in either script.
* `Directive.parse_written`: reading back whole rules.
-/

namespace StubProxy

open Text

/-! ## What can be written -/

namespace Script

variable {α : Type}

/-- A part of a rule: no arrow, no line break, no blank ends. -/
structure IsPart (S : Script α) (w : String) : Prop where
  trimmed : S.trim (S.write w.toList) = S.write w.toList
  no_lineFeed : '\n' ∉ w.toList
  no_arrow : ¬ arrow <:+: w.toList

/-- A method or a URL. -/
structure IsWord (S : Script α) (w : String) : Prop extends S.IsPart w where
  ne_empty : w ≠ ""
  no_space : ' ' ∉ w.toList

/-- The name of a header. -/
structure IsName (S : Script α) (w : String) : Prop extends S.IsPart w where
  no_colon : ':' ∉ w.toList

/-- The value of a header. -/
structure IsValue (S : Script α) (w : String) : Prop extends S.IsPart w where
  ne_empty : w ≠ ""

/-- All parts of a directive but its body can be written. No headers are written as none, and not as
an empty table of them. -/
structure Writes (S : Script α) (d : Directive) : Prop where
  method : S.IsWord d.method
  url : S.IsWord d.url
  status : 200 ≤ d.status ∧ d.status ≤ 999
  ne_some_nil : d.headers ≠ some []
  name : ∀ h ∈ d.headerList, S.IsName h.1
  value : ∀ h ∈ d.headerList, S.IsValue h.2
  distinct : (d.headerList.map Prod.fst).Nodup
  not_contentType : ∀ h ∈ d.headerList, h.1 ≠ "Content-Type"
  contentType : ∀ v ∈ d.contentType, S.IsValue v

section Decidable

variable [DecidableEq α] (S : Script α) (w : String) (d : Directive)

instance : Decidable (S.IsPart w) :=
  decidable_of_iff (S.trim (S.write w.toList) = S.write w.toList ∧ '\n' ∉ w.toList ∧
    splitFirst arrow w.toList = none)
    ⟨fun ⟨h, i, j⟩ => ⟨h, i, splitFirst_eq_none.1 j⟩,
      fun ⟨h, i, j⟩ => ⟨h, i, splitFirst_eq_none.2 j⟩⟩

instance : Decidable (S.IsWord w) :=
  decidable_of_iff (S.IsPart w ∧ w ≠ "" ∧ ' ' ∉ w.toList)
    ⟨fun ⟨h, i, j⟩ => ⟨h, i, j⟩, fun ⟨h, i, j⟩ => ⟨h, i, j⟩⟩

instance : Decidable (S.IsName w) :=
  decidable_of_iff (S.IsPart w ∧ ':' ∉ w.toList) ⟨fun ⟨h, i⟩ => ⟨h, i⟩, fun ⟨h, i⟩ => ⟨h, i⟩⟩

instance : Decidable (S.IsValue w) :=
  decidable_of_iff (S.IsPart w ∧ w ≠ "") ⟨fun ⟨h, i⟩ => ⟨h, i⟩, fun ⟨h, i⟩ => ⟨h, i⟩⟩

instance : Decidable (S.Writes d) :=
  decidable_of_iff (S.IsWord d.method ∧ S.IsWord d.url ∧ (200 ≤ d.status ∧ d.status ≤ 999) ∧
    d.headers ≠ some [] ∧
    (∀ h ∈ d.headerList, S.IsName h.1) ∧ (∀ h ∈ d.headerList, S.IsValue h.2) ∧
    (d.headerList.map Prod.fst).Nodup ∧ (∀ h ∈ d.headerList, h.1 ≠ "Content-Type") ∧
    ∀ v ∈ d.contentType, S.IsValue v)
    ⟨fun ⟨a, b, c, e, f, g, h, i, j⟩ => ⟨a, b, c, e, f, g, h, i, j⟩,
      fun ⟨a, b, c, e, f, g, h, i, j⟩ => ⟨a, b, c, e, f, g, h, i, j⟩⟩

end Decidable

end Script

/-- The directives that a rule can write: the body does not end in a blank, and no line of a text
body behind its first one holds only spaces and tabs. -/
def Directive.IsWritable (d : Directive) : Prop :=
  match d.body with
  | .text s => textScript.Writes d ∧ (∀ c ∈ s.toList.getLast?, isBlank c = false) ∧
      ∀ l ∈ (pieces '\n' s.toList).tail, isBare l → l = []
  | .binary b => byteScript.Writes d ∧ ∀ x ∈ b.getLast?, isBlankByte x = false

-- only the last symbol is looked at; a search for the instance may go through the whole alphabet
instance : (d : Directive) → Decidable d.IsWritable
  | ⟨_, _, _, .text _, _, _⟩ =>
    @instDecidableAnd _ _ inferInstance
      (@instDecidableAnd _ _ (Option.decidableForallMem _) inferInstance)
  | ⟨_, _, _, .binary _, _, _⟩ => @instDecidableAnd _ _ inferInstance (Option.decidableForallMem _)

/-! ## The status -/

/-- Nothing but digits and spaces. -/
theorem not_mem_statusText {c : Char} (hd : c.isDigit = false) (hs : c ≠ ' ') {k : Nat} :
    c ∉ statusText k := by
  intro h
  have hk : c ∈ decimal k := by simpa [statusText, hs] using h
  rw [isDigit_of_mem_decimal hk] at hd
  exact absurd hd (by simp)

/-- The status between its two spaces is read back. -/
theorem readStatus_statusText {k : Nat} (hk : 200 ≤ k ∧ k ≤ 999) :
    readStatus (statusText k) = .ok k := by
  have ht : trim isBlank (statusText k) = decimal k :=
    trim_between (a := [' ']) (b := [' ']) (List.forall_mem_singleton.2 (by decide))
      (tight_decimal k) (List.forall_mem_singleton.2 (by decide))
  rw [readStatus, ht, readWord16_decimal (by omega)]
  simp [isFinalStatus, hk.1, hk.2]

namespace Script

variable {α : Type} {S : Script α} {m u n v : String}

/-! ## Lines -/

theorem IsPart.tight (h : S.IsPart m) : Tight S.isBlank (S.write m.toList) :=
  trim_eq_self.1 h.trimmed

theorem IsWord.write_ne_nil (hS : S.Lawful) (h : S.IsWord m) : S.write m.toList ≠ [] :=
  hS.write_ne_nil (by simpa using h.ne_empty)

theorem IsValue.write_ne_nil (hS : S.Lawful) (h : S.IsValue v) : S.write v.toList ≠ [] :=
  hS.write_ne_nil (by simpa using h.ne_empty)

theorem write_requestLine (hS : S.Lawful) (m u : String) :
    S.write (requestLine m u) = S.write m.toList ++ S.space :: S.write u.toList :=
  hS.write_cons hS.write_space _ _

theorem write_headerLine (hS : S.Lawful) (n v : String) :
    S.write (headerLine (n, v)) = S.write n.toList ++ S.colon :: S.space :: S.write v.toList := by
  have hv : S.write (' ' :: v.toList) = S.space :: S.write v.toList := by
    have h := hS.write_cons hS.write_space [] v.toList
    rwa [hS.write_nil] at h
  rw [headerLine, hS.write_cons hS.write_colon, hv]

/-- A line in front of the arrow. -/
structure IsLine (S : Script α) (l : List Char) : Prop where
  ne_nil : l ≠ []
  no_lineFeed : '\n' ∉ l
  no_arrow : ¬ arrow <:+: l
  tight : Tight S.isBlank (S.write l)

theorem isLine_requestLine (hS : S.Lawful) (hm : S.IsWord m) (hu : S.IsWord u) :
    S.IsLine (requestLine m u) := by
  refine ⟨by simp [requestLine], ?_, ?_, ?_⟩
  · simp [requestLine, hm.no_lineFeed, hu.no_lineFeed]
  · rw [requestLine, infix_break (by decide)]
    exact not_or.2 ⟨hm.no_arrow, hu.no_arrow⟩
  · rw [write_requestLine hS, ← List.singleton_append, ← List.append_assoc]
    exact tight_of_ends (hm.write_ne_nil hS) hm.tight.head (hu.write_ne_nil hS) hu.tight.last

theorem isLine_headerLine (hS : S.Lawful) (hn : S.IsName n) (hv : S.IsValue v) :
    S.IsLine (headerLine (n, v)) := by
  refine ⟨by simp [headerLine], ?_, ?_, ?_⟩
  · simp [headerLine, hn.no_lineFeed, hv.no_lineFeed]
  · rw [headerLine, infix_break (by decide), ← List.nil_append (' ' :: v.toList),
      infix_break (by decide)]
    exact not_or.2 ⟨hn.no_arrow, not_or.2 ⟨by decide, hv.no_arrow⟩⟩
  · -- the name may be empty, and then the colon is in front
    have h : S.write (headerLine (n, v)) =
        (S.write n.toList ++ [S.colon]) ++ [S.space] ++ S.write v.toList := by
      simp [write_headerLine hS]
    rw [h]
    exact tight_of_ends (by simp) (head_concat hn.tight.head hS.isBlank_colon)
      (hv.write_ne_nil hS) hv.tight.last

/-- The lines of a request with these headers. -/
theorem isLine_request (hS : S.Lawful) (hm : S.IsWord m) (hu : S.IsWord u) {hs : Headers}
    (hh : ∀ h ∈ hs, S.IsName h.1 ∧ S.IsValue h.2) :
    ∀ l ∈ requestLine m u :: hs.map headerLine, S.IsLine l := by
  intro l hl
  rcases List.mem_cons.1 hl with rfl | hl
  · exact isLine_requestLine hS hm hu
  · obtain ⟨h, hmem, rfl⟩ := List.mem_map.1 hl
    exact isLine_headerLine hS (hh h hmem).1 (hh h hmem).2

variable [DecidableEq α]

/-- The request line is read as method and URL. -/
theorem words_requestLine (hS : S.Lawful) (hm : S.IsWord m) (hu : S.IsWord u) :
    S.words (S.write (requestLine m u)) = [S.write m.toList, S.write u.toList] := by
  have hsm : S.space ∉ S.write m.toList := fun h => hm.no_space ((hS.mem_write hS.write_space).1 h)
  have hsu : S.space ∉ S.write u.toList := fun h => hu.no_space ((hS.mem_write hS.write_space).1 h)
  rw [write_requestLine hS, words, pieces_break, pieces_of_not_mem hsm, pieces_of_not_mem hsu]
  simp [hm.trimmed, hu.trimmed, hm.write_ne_nil hS, hu.write_ne_nil hS]

/-- A header line is read as its header. -/
theorem readHeader_headerLine (hS : S.Lawful) (hn : S.IsName n) (hv : S.IsValue v) :
    S.readHeader (S.write (headerLine (n, v))) = some (n, v) := by
  have hl : S.trim (S.write (headerLine (n, v))) = S.write (headerLine (n, v)) :=
    trim_eq_self.2 (isLine_headerLine hS hn hv).tight
  have hc : S.colon ∉ S.write n.toList := fun h => hn.no_colon ((hS.mem_write hS.write_colon).1 h)
  have ht : S.trim (S.space :: S.write v.toList) = S.write v.toList := by
    have hs : ∀ x ∈ [S.space], S.isBlank x := List.forall_mem_singleton.2 hS.isBlank_space
    have h := trim_between (b := []) hs hv.tight (by simp)
    rw [List.append_nil] at h
    exact h
  rw [readHeader, hl, write_headerLine hS]
  simp only [splitAtColon, splitAtSymbol_append hc, ht, hn.trimmed, if_neg (hv.write_ne_nil hS),
    toString, hS.read_write, String.ofList_toList]

theorem filterMap_headerLine (hS : S.Lawful) {hs : Headers}
    (h : ∀ p ∈ hs, S.IsName p.1 ∧ S.IsValue p.2) :
    ((hs.map headerLine).map S.write).filterMap S.readHeader = hs := by
  induction hs with
  | nil => rfl
  | cons p hs ih =>
    obtain ⟨⟨hn, hv⟩, h⟩ := List.forall_mem_cons.1 h
    rw [List.map_cons, List.map_cons,
      List.filterMap_cons_some (readHeader_headerLine hS hn hv), ih h]

omit [DecidableEq α] in
theorem writeLines_eq (ls : List (List Char)) :
    S.writeLines ls = (ls.map S.write).flatMap (· ++ [S.lineFeed]) := by
  rw [writeLines, List.flatMap_map]

/-- Ended lines are read as request line and header lines. -/
theorem requestLines_writeLines (hS : S.Lawful) {l : List Char} {ls : List (List Char)}
    (hl : ∀ k ∈ l :: ls, S.IsLine k) :
    S.requestLines (S.writeLines (l :: ls)) = (S.write l, ls.map S.write) := by
  have hlines : S.lines (((l :: ls).map S.write).flatMap (· ++ [S.lineFeed])) =
      (l :: ls).map S.write := by
    apply hS.lines_ended (by simp)
    · intro w hw
      obtain ⟨k, hk, rfl⟩ := List.mem_map.1 hw
      exact fun h => (hl k hk).no_lineFeed ((hS.mem_write hS.write_lineFeed).1 h)
    · intro w hw
      obtain ⟨k, hk, rfl⟩ := List.mem_map.1 hw
      exact (hl k hk).tight.last
  rw [writeLines_eq]
  exact requestLines_of_lines (by simp) hlines

/-- The first arrow behind ended lines is the one that follows them. -/
theorem split_writeLines (hS : S.Lawful) {ls : List (List Char)} (hl : ∀ l ∈ ls, S.IsLine l)
    (rest : List α) :
    S.split arrow (S.writeLines ls ++ (S.write arrow ++ rest)) = some (S.writeLines ls, rest) := by
  rw [split, writeLines_eq]
  apply splitFirst_ended
  · rw [hS.mem_write hS.write_lineFeed]
    decide
  · intro w hw
    obtain ⟨l, hl', rfl⟩ := List.mem_map.1 hw
    rw [hS.infix_write (by decide)]
    exact (hl l hl').no_arrow

theorem splitAtColon_statusText (hS : S.Lawful) (k : Nat) (body : List α) :
    S.splitAtColon (S.write (statusText k) ++ S.colon :: body) =
      (S.write (statusText k), body) := by
  apply splitAtSymbol_append
  rw [hS.mem_write hS.write_colon]
  exact not_mem_statusText (by decide) (by decide)

end Script

/-! ## Headers -/

theorem Headers.insert_new {name value : String} {hs : Headers} (h : name ∉ hs.map Prod.fst) :
    Headers.insert name value hs = hs ++ [(name, value)] := by
  induction hs with
  | nil => rfl
  | cons p hs ih =>
    rw [List.map_cons, List.mem_cons, not_or] at h
    rw [Headers.insert, if_neg (Ne.symm h.1), ih h.2]
    rfl

/-- Declaring new headers one by one. -/
theorem Declared.foldl_add {t : Declared} {hs : Headers}
    (hn : (t.headers ++ hs |>.map Prod.fst).Nodup) (hc : ∀ h ∈ hs, h.1 ≠ "Content-Type") :
    hs.foldl add t = { t with headers := t.headers ++ hs } := by
  induction hs generalizing t with
  | nil => simp
  | cons h hs ih =>
    -- a new name goes behind the others, so the names stay distinct
    have hnew : h.1 ∉ t.headers.map Prod.fst := by
      rw [List.map_append, List.nodup_append] at hn
      intro hm
      exact hn.2.2 _ hm h.1 (by simp) rfl
    have ht : t.add h = { t with headers := t.headers ++ [h] } := by
      rw [add, if_neg (hc h List.mem_cons_self), Headers.insert_new hnew]
    rw [List.foldl_cons, ht, ih (by simpa using hn) fun x hx => hc x (List.mem_cons_of_mem _ hx)]
    simp

/-- The content type may be declared between any two headers. -/
theorem Declared.ofHeaders_around {d : Directive} {before after : Headers}
    (hd : d.headerList = before ++ after) (hn : (d.headerList.map Prod.fst).Nodup)
    (hc : ∀ h ∈ d.headerList, h.1 ≠ "Content-Type") :
    ofHeaders (before ++ d.contentTypeHeader ++ after) = ⟨d.headerList, d.contentType⟩ := by
  rw [hd] at hn hc
  rw [List.forall_mem_append] at hc
  have hb : before.foldl add empty = ⟨before, none⟩ := by
    apply foldl_add _ hc.1
    rw [List.map_append] at hn
    exact (List.nodup_append.1 hn).1
  have ht : d.contentTypeHeader.foldl add ⟨before, none⟩ = ⟨before, d.contentType⟩ := by
    unfold Directive.contentTypeHeader
    cases d.contentType with
    | none => rfl
    | some v => simp [add]
  rw [ofHeaders, List.foldl_append, List.foldl_append, hb, ht, foldl_add hn hc.2, ← hd]

theorem Directive.unlessEmpty_headerList {d : Directive} (h : d.headers ≠ some []) :
    d.headerList.unlessEmpty = d.headers := by
  unfold headerList
  cases hd : d.headers with
  | none => rfl
  | some hs =>
    have hne : hs ≠ [] := fun hnil => h (by rw [hd, hnil])
    exact Headers.unlessEmpty_of_ne_nil hne

/-- Declared in this way, the headers make the directive. -/
theorem Directive.foldl_declare_around {d : Directive} {before after : Headers}
    (hd : d.headerList = before ++ after) (hne : d.headers ≠ some [])
    (hn : (d.headerList.map Prod.fst).Nodup) (hc : ∀ h ∈ d.headerList, h.1 ≠ "Content-Type") :
    (before ++ d.contentTypeHeader ++ after).foldl Directive.declare
      (.new d.method d.url d.status d.body) = d := by
  have honto := Declared.onto_ofHeaders d (before ++ d.contentTypeHeader ++ after)
  rw [Declared.ofHeaders_around hd hn hc, Declared.onto, unlessEmpty_headerList hne] at honto
  exact honto.symm

/-! ## Whole rules -/

namespace Script

variable {α : Type} {S : Script α} {d : Directive} {before after : Headers}

/-- Every header line that is written has a name and a value. -/
theorem Writes.headers_around (hw : S.Writes d) (hct : S.IsName "Content-Type")
    (hd : d.headerList = before ++ after) :
    ∀ h ∈ before ++ d.contentTypeHeader ++ after, S.IsName h.1 ∧ S.IsValue h.2 := by
  have hh : ∀ h ∈ d.headerList, S.IsName h.1 ∧ S.IsValue h.2 :=
    fun h hm => ⟨hw.name h hm, hw.value h hm⟩
  rw [hd, List.forall_mem_append] at hh
  rw [List.forall_mem_append, List.forall_mem_append]
  refine ⟨⟨hh.1, ?_⟩, hh.2⟩
  intro h hm
  obtain ⟨v, hv, rfl⟩ := Option.map_eq_some_iff.1 (Option.mem_toList.1 hm)
  exact ⟨hct, hw.contentType v hv⟩

/-- The request, the arrow, the status and the colon, the body. -/
theorem render_eq (hS : S.Lawful) (m u : String) (hs : Headers) (k : Nat) (body : List α) :
    S.render m u hs k body = S.writeLines (requestLine m u :: hs.map headerLine) ++
      (S.write arrow ++ (S.write (statusText k) ++ S.colon :: body)) := by
  rw [render, responseLine, hS.write_cons hS.write_colon, hS.write_append, hS.write_nil]
  simp only [List.append_assoc, List.singleton_append]

theorem render_ne_nil (hS : S.Lawful) (m u : String) (hs : Headers) (k : Nat) (body : List α) :
    S.render m u hs k body ≠ [] := by
  rw [render_eq hS]
  simp

/-- A written rule has no blank ends. -/
theorem trim_render (hS : S.Lawful) {m u : String} (hm : S.IsWord m) (hs : Headers) (k : Nat)
    {body : List α} (hlast : ∀ x, body.getLast? = some x → S.isBlank x = false) :
    S.trim (S.render m u hs k body) = S.render m u hs k body := by
  have hr : S.render m u hs k body = S.write m.toList ++
      (S.space :: S.write u.toList ++ [S.lineFeed] ++ S.writeLines (hs.map headerLine) ++
        S.write arrow ++ S.write (statusText k)) ++ (S.colon :: body) := by
    rw [render_eq hS, writeLines, List.flatMap_cons, write_requestLine hS, ← writeLines]
    simp only [List.append_assoc, List.cons_append, List.nil_append]
  rw [hr]
  apply trim_eq_self.2
  exact tight_of_ends (hm.write_ne_nil hS) hm.tight.head (by simp)
    (last_cons hlast hS.isBlank_colon)

variable [DecidableEq α]

/-- **Reading back** in either script, with the content type between any two headers. -/
theorem parse_render (hS : S.Lawful) (hct : S.IsName "Content-Type") (hw : S.Writes d)
    (hd : d.headerList = before ++ after) {body : List α} (hbody : S.body body = d.body)
    (hlast : ∀ x, body.getLast? = some x → S.isBlank x = false) :
    S.parse (S.render d.method d.url (before ++ d.contentTypeHeader ++ after) d.status body) =
      .ok d := by
  have hparts := hw.headers_around hct hd
  have hfold := Directive.foldl_declare_around hd hw.ne_some_nil hw.distinct hw.not_contentType
  -- where the content type stands matters no more
  generalize before ++ d.contentTypeHeader ++ after = hs at hparts hfold ⊢
  have hlines := isLine_request hS hw.method hw.url hparts
  have hsplit : S.split arrow (S.trim (S.render d.method d.url hs d.status body)) =
      some (S.writeLines (requestLine d.method d.url :: hs.map headerLine),
        S.write (statusText d.status) ++ S.colon :: body) := by
    rw [trim_render hS hw.method hs d.status hlast, render_eq hS]
    exact split_writeLines hS hlines _
  rw [parse_of_two_words hsplit (requestLines_writeLines hS hlines)
    (words_requestLine hS hw.method hw.url), splitAtColon_statusText hS, hS.read_write,
    readStatus_statusText hw.status, filterMap_headerLine hS hparts, hbody]
  simp only [Except.map, toString, hS.read_write, String.ofList_toList, hfold]

end Script

/-! ## Rules of both kinds -/

namespace Directive

variable {d : Directive} {before after : Headers}

/-- The response line shows its arrow, whatever the body starts with. -/
theorem not_bare_responseLine (k : Nat) (s : List Char) : isBare (responseLine k ++ s) = false :=
  (visible_of_head (c := '-') rfl (by decide)).1

/-- A written text rule has no margin. -/
theorem dedent_render {m u : String} {hs : Headers} {k : Nat} {body : List Char}
    (hm : textScript.IsWord m) (hu : textScript.IsWord u)
    (hh : ∀ h ∈ hs, textScript.IsName h.1 ∧ textScript.IsValue h.2)
    (hb : ∀ l ∈ (pieces '\n' body).tail, isBare l → l = []) :
    dedent (textScript.render m u hs k body) = textScript.render m u hs k body := by
  have hlines := Script.isLine_request textScript_lawful hm hu hh
  have hvisible : ∀ l ∈ requestLine m u :: hs.map headerLine,
      isBare l = false ∧ indentOf l = [] := by
    intro l hl
    cases hc : l.head? with
    | none => exact absurd (List.head?_eq_none_iff.1 hc) (hlines l hl).ne_nil
    | some c => exact visible_of_head hc ((hlines l hl).tight.head c hc)
  -- the first line of the body stands on the response line
  have hp : pieces '\n' (textScript.render m u hs k body) =
      (requestLine m u :: hs.map headerLine) ++
        (responseLine k ++ (pieces '\n' body).headD []) :: (pieces '\n' body).tail := by
    have hr : '\n' ∉ responseLine k := by
      rw [responseLine, List.mem_append, List.mem_append, not_or, not_or]
      exact ⟨⟨by decide, not_mem_statusText (by decide) (by decide)⟩, by decide⟩
    rw [Script.render, List.append_assoc, ← pieces_append hr]
    exact pieces_ended (fun l hl => (hlines l hl).no_lineFeed) _
  have hfirst := hvisible _ List.mem_cons_self
  refine dedent_eq_self (l := requestLine m u) (by simp [hp]) hfirst.1 hfirst.2 ?_
  intro l hl hbare
  rw [hp] at hl
  rcases List.mem_append.1 hl with hl | hl
  · rw [(hvisible l hl).1] at hbare
    exact absurd hbare (by simp)
  rcases List.mem_cons.1 hl with rfl | hl
  · rw [not_bare_responseLine] at hbare
    exact absurd hbare (by simp)
  · exact hb l hl hbare

/-- **A written rule is read as the directive it writes**, of either kind and with the content type
between any two headers. -/
theorem parse_written (hd : d.headerList = before ++ after) (h : d.IsWritable) :
    (d.written (before ++ d.contentTypeHeader ++ after)).parse = .ok (some d) := by
  unfold IsWritable at h
  unfold written
  cases hb : d.body with
  | text s =>
    rw [hb] at h
    obtain ⟨hw, hlast, hbare⟩ := h
    have hct : textScript.IsName "Content-Type" := by decide +kernel
    have hbody : textScript.body s.toList = d.body := by
      rw [hb]
      exact congrArg Body.text String.ofList_toList
    have hparse := Script.parse_render textScript_lawful hct hw hd hbody hlast
    have hdedent := dedent_render hw.method hw.url (hw.headers_around hct hd) hbare (k := d.status)
    have hne := Script.render_ne_nil textScript_lawful d.method d.url
      (before ++ d.contentTypeHeader ++ after) d.status s.toList
    rw [Rule.parse, String.toList_ofList, Rule.parseText, if_neg hne, hdedent, hparse]
    rfl
  | binary b =>
    rw [hb] at h
    obtain ⟨hw, hlast⟩ := h
    have hct : byteScript.IsName "Content-Type" := by decide +kernel
    have hparse := Script.parse_render byteScript_lawful hct hw hd hb.symm hlast
    have hne := Script.render_ne_nil byteScript_lawful d.method d.url
      (before ++ d.contentTypeHeader ++ after) d.status b
    rw [Rule.parse, Rule.parseBytes, if_neg hne, hparse]
    rfl

/-- A text body with arrows, colons and line breaks, and a body of bytes that write no text. -/
theorem parse_written_both_kinds :
    let d : Directive := ⟨"GET", "http://a.b/?x=y:z", 200, .text "a -> b: c\n\n  d",
      some [("X-First", "1"), ("X-Second", "2")], some "text/html"⟩
    let e : Directive := ⟨"PUT", "http://a.b", 999, .binary [0xFF, 10, 45, 62, 58, 0], none, none⟩
    (d.written [("X-First", "1"), ("Content-Type", "text/html"), ("X-Second", "2")]).parse =
        .ok (some d) ∧
      (e.written []).parse = .ok (some e) := by
  intro d e
  have hd : (d.written ([("X-First", "1")] ++ d.contentTypeHeader ++ [("X-Second", "2")])).parse =
      .ok (some d) := parse_written rfl (by decide +kernel)
  have he : (e.written ([] ++ e.contentTypeHeader ++ [])).parse = .ok (some e) :=
    parse_written rfl (by decide +kernel)
  exact ⟨hd, he⟩

end Directive

end StubProxy
