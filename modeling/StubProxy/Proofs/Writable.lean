import StubProxy.Proofs.FlushLeft
import StubProxy.Proofs.LastWins
import StubProxy.Proofs.Lossy
import StubProxy.Proofs.Written

/-!
# Directives that are read can be written

Whatever a rule looks like, the directive that it is read as has parts that a rule can write. Each
part is cut out of the rule by marks that it cannot hold, and trimmed; reading bytes as text brings
neither the marks nor blanks back.

* `Script.Faithful`: what reading symbols as text does not change. Both scripts are faithful.
* `Script.isWord_of_mem_words`, `Script.isHeader_of_declares`: the parts of a request.
* `Script.writes_of_parse`: all parts but the body; `Script.body_of_parse`: the body.
* `Rule.parse_writable`: the directive of every rule is one that can be written, and is read back.
-/

namespace StubProxy

open Text

namespace Script

variable {α : Type}

/-- Reading symbols as text keeps visible ends, and makes neither marks of ASCII nor the empty text
out of anything else. -/
structure Faithful (S : Script α) : Prop where
  ne_nil : ∀ {w}, w ≠ [] → S.read w ≠ []
  tight : ∀ {w}, Tight S.isBlank w → Tight S.isBlank (S.write (S.read w))
  isInfix : ∀ {mark w}, mark ≠ [] → (∀ c ∈ mark, c.toNat < 128) → mark <:+: S.read w →
    S.write mark <:+: w

theorem textScript_faithful : textScript.Faithful where
  ne_nil h := h
  tight h := h
  isInfix _ _ h := h

/-! ## Reading bytes -/

theorem isAsciiBlank_of_mem {c : Char} {b : UInt8} (hb : b ∈ String.utf8EncodeChar c)
    (h : isBlankByte b) : Utf8.isAsciiBlank c := by
  obtain ⟨hlt, hblank⟩ := Utf8.isAsciiBlank_asciiChar h
  have hc : Utf8.asciiChar b = c := by
    rw [Utf8.asciiChar, Utf8.toNat_of_mem_encodeChar hb hlt, Char.ofNat_toNat]
  rwa [hc] at hblank

theorem tight_encode_ascii {s : List Char} (h : Tight Utf8.isAsciiBlank s) :
    Tight isBlankByte (Utf8.encode s) := by
  constructor
  · intro b hb
    obtain ⟨c, hc, hbc⟩ := Utf8.head_encode hb
    exact Bool.eq_false_iff.2 fun hblank =>
      Bool.eq_false_iff.1 (h.head c hc) (isAsciiBlank_of_mem hbc hblank)
  · intro b hb
    obtain ⟨c, hc, hbc⟩ := Utf8.last_encode hb
    exact Bool.eq_false_iff.2 fun hblank =>
      Bool.eq_false_iff.1 (h.last c hc) (isAsciiBlank_of_mem hbc hblank)

/-- A mark of ASCII in decoded bytes is there in the bytes. -/
theorem infix_decodeLossy {mark : List Char} {w : List UInt8} (hn : mark ≠ [])
    (hm : ∀ c ∈ mark, c.toNat < 128) (h : mark <:+: Utf8.decodeLossy w) :
    Utf8.encode mark <:+: w := by
  have hbytes := Utf8.encode_ascii hm
  have hchar : ∀ c ∈ mark, Utf8.asciiChar (UInt8.ofNat c.toNat) = c := by
    intro c hc
    have hlt : c.toNat < UInt8.size := Nat.lt_trans (hm c hc) (by decide)
    rw [Utf8.asciiChar, UInt8.toNat_ofNat_of_lt' hlt, Char.ofNat_toNat]
  have hback : (Utf8.encode mark).map Utf8.asciiChar = mark := by
    rw [hbytes, List.map_map]
    conv => rhs; rw [← List.map_id mark]
    exact List.map_congr_left hchar
  have hascii : ∀ b ∈ Utf8.encode mark, b.toNat < 128 := by
    rw [hbytes, List.forall_mem_map]
    intro c hc
    have hlt : c.toNat < UInt8.size := Nat.lt_trans (hm c hc) (by decide)
    rw [UInt8.toNat_ofNat_of_lt' hlt]
    exact hm c hc
  by_contra hw
  have hsplit := Utf8.splitFirst_decodeLossy (mt Utf8.encode_eq_nil.1 hn) hascii w
  rw [hback, splitFirst_eq_none.2 hw, Option.map_none, splitFirst_eq_none] at hsplit
  exact hsplit h

theorem byteScript_faithful : byteScript.Faithful where
  ne_nil h := mt Utf8.decodeLossy_eq_nil.1 h
  tight h := tight_encode_ascii (Utf8.tight_decodeLossy h)
  isInfix := infix_decodeLossy

/-! ## Parts of a request -/

section Parts

variable {S : Script α} {w l request : List α}

/-- A symbol that stands for a character of ASCII is read as this character, and no other is. -/
theorem Faithful.mem_read (hF : S.Faithful) {c : Char} {x : α} (hx : S.write [c] = [x])
    (hc : c.toNat < 128) (h : c ∈ S.read w) : x ∈ w := by
  rw [← singleton_isInfix, ← hx]
  exact hF.isInfix (List.cons_ne_nil c []) (List.forall_mem_singleton.2 hc) (singleton_isInfix.2 h)

/-- What is cut out of a line without an arrow, and trimmed, is a part of a rule. -/
theorem Faithful.isPart (hF : S.Faithful) (hS : S.Lawful) (hl : S.lineFeed ∉ l)
    (ha : ¬ S.write arrow <:+: l) (hw : w <:+: l) (ht : Tight S.isBlank w) :
    S.IsPart (S.toString w) := by
  have hascii : ∀ c ∈ arrow, c.toNat < 128 :=
    List.forall_mem_cons.2 ⟨by decide, List.forall_mem_singleton.2 (by decide)⟩
  refine ⟨?_, ?_, ?_⟩
  · rw [toString, String.toList_ofList]
    exact trim_eq_self.2 (hF.tight ht)
  · rw [toString, String.toList_ofList]
    exact fun h => hl (hw.subset (hF.mem_read hS.write_lineFeed (by decide) h))
  · rw [toString, String.toList_ofList]
    exact fun h => ha ((hF.isInfix (List.cons_ne_nil _ _) hascii h).trans hw)

theorem Faithful.toString_ne_empty (hF : S.Faithful) (hw : w ≠ []) : S.toString w ≠ "" := by
  intro h
  apply hF.ne_nil hw
  rw [← String.toList_ofList (l := S.read w), ← toString, h]
  rfl

variable [DecidableEq α]

theorem isInfix_of_mem_pieces {sep : α} {s : List α} (hl : l ∈ pieces sep s) : l <:+: s := by
  obtain ⟨a, b, hs, -⟩ := exists_of_mem_pieces hl
  exact ⟨a, b, hs.symm⟩

/-- The words of a line are words of a rule. -/
theorem isWord_of_mem_words (hF : S.Faithful) (hS : S.Lawful) (hl : S.lineFeed ∉ l)
    (ha : ¬ S.write arrow <:+: l) (hw : w ∈ S.words l) : S.IsWord (S.toString w) := by
  obtain ⟨hmem, hne⟩ := List.mem_filter.1 hw
  obtain ⟨q, hq, rfl⟩ := List.mem_map.1 hmem
  have hne : S.trim q ≠ [] := by simpa using hne
  have htrim : S.trim q <:+: q := trim_isInfix S.isBlank q
  refine ⟨hF.isPart hS hl ha (htrim.trans (isInfix_of_mem_pieces hq)) (tight_trim _ _),
    hF.toString_ne_empty hne, ?_⟩
  rw [toString, String.toList_ofList]
  intro h
  have hspace := hF.mem_read hS.write_space (by decide) h
  exact not_mem_of_mem_pieces hq (htrim.subset hspace)

omit [DecidableEq α] in
/-- What a line declares is a header of a rule. -/
theorem isHeader_of_declares (hF : S.Faithful) (hS : S.Lawful) (hl : S.lineFeed ∉ l)
    (ha : ¬ S.write arrow <:+: l) {h : String × String} (hd : S.Declares l h) :
    S.IsName h.1 ∧ S.IsValue h.2 := by
  obtain ⟨name, value, hcolon, rfl, hvalue, rfl⟩ := hd
  have hname := trim_isInfix S.isBlank name
  have hname' : S.trim name <:+: name ++ S.colon :: value := hname.trans ⟨[], S.colon :: value, rfl⟩
  have hvalue' : S.trim value <:+: name ++ S.colon :: value :=
    (trim_isInfix S.isBlank value).trans ⟨name ++ [S.colon], [], by simp⟩
  refine ⟨⟨hF.isPart hS hl ha hname' (tight_trim _ _), ?_⟩,
    hF.isPart hS hl ha hvalue' (tight_trim _ _), hF.toString_ne_empty hvalue⟩
  rw [toString, String.toList_ofList]
  exact fun hmem => hcolon (hname.subset (hF.mem_read hS.write_colon (by decide) hmem))

end Parts

/-! ## Accepted rules -/

section Accepted

variable {S : Script α} [DecidableEq α] {cr : α} {rule : List α} {d : Directive}

/-- A request in front of the first arrow makes words and headers that can be written. -/
theorem isWord_of_mem_firstWords (hS : S.Lawful) (hF : S.Faithful) {request : List α}
    (ha : ¬ S.write arrow <:+: request) {w : String} (hw : w ∈ S.firstWords request) :
    S.IsWord w := by
  obtain ⟨l, ls, hl⟩ := exists_pieces S.lineFeed request
  have hmem : l ∈ pieces S.lineFeed request := hl ▸ List.mem_cons_self
  rw [firstWords, hl] at hw
  obtain ⟨v, hv, rfl⟩ := List.mem_map.1 hw
  exact isWord_of_mem_words hF hS (not_mem_of_mem_pieces hmem)
    (fun hi => ha (hi.trans (isInfix_of_mem_pieces hmem))) hv

theorem isHeader_of_mem_declared (hS : S.Lawful) (hF : S.Faithful) {request : List α}
    (ha : ¬ S.write arrow <:+: request) {h : String × String} (hh : h ∈ S.declared request) :
    S.IsName h.1 ∧ S.IsValue h.2 := by
  obtain ⟨l, hl, hr⟩ := List.mem_filterMap.1 hh
  have hmem := List.mem_of_mem_tail hl
  exact isHeader_of_declares hF hS (not_mem_of_mem_pieces hmem)
    (fun hi => ha (hi.trans (isInfix_of_mem_pieces hmem)))
    ((readHeader_eq_some_iff hS.isBlank_colon l h).1 hr)

/-- **All parts but the body can be written.** -/
theorem writes_of_parse (hS : S.Lawful) (hF : S.Faithful) (hL : S.ReadsLines cr)
    (h : S.parse rule = .ok d) : S.Writes d := by
  obtain ⟨o, method, url, n, ho, hwords, hs, hd⟩ := (parse_eq_ok_iff hL).1 h
  obtain ⟨request, ha, how, hoh⟩ := outline_request (hS.write_ne_nil (List.cons_ne_nil _ _)) ho
  have hword : ∀ w ∈ [method, url], S.IsWord w := by
    rw [← hwords, how]
    exact fun w hw => isWord_of_mem_firstWords hS hF ha hw
  have hheader : ∀ p ∈ o.headers, S.IsName p.1 ∧ S.IsValue p.2 := by
    rw [hoh]
    exact fun p hp => isHeader_of_mem_declared hS hF ha hp
  have hbare := hd ▸ (Directive.new method url n _).bare_foldl_declare o.headers
  have hdecl := hd ▸ Directive.declaredBy_foldl_declare method url n _ o.headers
  have hm : d.method = method := congrArg Directive.method hbare
  have hu : d.url = url := congrArg Directive.url hbare
  have hst : d.status = n := congrArg Directive.status hbare
  exact
    { method := hm ▸ hword method (by simp)
      url := hu ▸ hword url (by simp)
      status := hst ▸ (readStatus_eq_ok_iff.1 hs).2
      name := fun p hp => (hheader p (hdecl.mem_headers hp).1).1
      value := fun p hp => (hheader p (hdecl.mem_headers hp).1).2
      ne_some_nil := hdecl.ne_some_nil
      distinct := hdecl.lastWins.nodup
      not_contentType := fun p hp => (hdecl.mem_headers hp).2
      contentType := fun v hv => (hheader _ (hdecl.mem_contentType hv)).2 }

/-- **The body ends the rule**, and does not end in a blank. -/
theorem body_of_parse (hL : S.ReadsLines cr) (h : S.parse rule = .ok d) :
    ∃ body, d.body = S.body body ∧ body <:+ S.trim rule ∧
      ∀ x, body.getLast? = some x → S.isBlank x = false := by
  obtain ⟨o, method, url, n, ho, -, -, rfl⟩ := (parse_eq_ok_iff hL).1 h
  obtain ⟨hbody, hlast⟩ := outline_body ho
  refine ⟨o.body, Directive.body_foldl_declare _ _, ?_, hlast⟩
  rcases hbody with hnil | ⟨a, ha⟩
  · rw [hnil]
    exact List.nil_suffix
  · exact ⟨a ++ [S.colon], by simp [ha]⟩

end Accepted

end Script

/-! ## Lines of a text body -/

namespace Text

variable {l m s : List Char}

/-- A line without its margin shows text or is empty. -/
theorem bare_stripMargin (hm : isBare l = false → m <+: indentOf l)
    (hb : isBare (stripMargin m l)) : stripMargin m l = [] := by
  cases hv : isBare l with
  | true => exact stripMargin_bare hv m
  | false =>
    have hmi := hm hv
    have hbare : isBare m := List.all_eq_true.2 (isIndent_of_isPrefix hmi)
    obtain ⟨t, ht⟩ := hmi.trans (List.takeWhile_prefix _)
    rw [stripMargin_visible hv ⟨t, ht⟩, ← ht, List.drop_left] at hb
    rw [← ht, isBare_append hbare, hb] at hv
    cases hv

/-- No line of a text without its margin holds only spaces and tabs. -/
theorem bare_line_dedent (hl : l ∈ pieces '\n' (dedent s)) (hb : isBare l) : l = [] := by
  rw [pieces_dedent] at hl
  obtain ⟨k, hk, rfl⟩ := List.mem_map.1 hl
  exact bare_stripMargin (margin_isPrefix hk) hb

/-- The same of any part of it that does not end in a blank, but for its first line. -/
theorem bare_line_part {a body b : List Char} (hs : dedent s = a ++ (body ++ b))
    (hlast : ∀ c ∈ body.getLast?, isBlank c = false) (hl : l ∈ (pieces '\n' body).tail)
    (hb : isBare l) : l = [] := by
  rcases mem_pieces_of_part a b hl with hmem | ⟨t, ht⟩
  · rw [← hs] at hmem
    exact bare_line_dedent hmem hb
  · by_contra hne
    have hlast' := List.getLast?_eq_some_getLast hne
    have hblank := isBlank_of_isIndent (List.all_eq_true.1 hb _ (List.mem_of_getLast? hlast'))
    rw [← ht, List.getLast?_append, hlast'] at hlast
    rw [hlast _ rfl] at hblank
    cases hblank

end Text

/-! ## Rules of both kinds -/

namespace Rule

variable {r : Rule} {d : Directive} {before after : Headers}

/-- Whether the rule is bytes. -/
def isBinary : Rule → Bool
  | text _ => false
  | binary _ => true

theorem parse_of_parseText {s : List Char} (h : parseText s = .ok (some d)) :
    textScript.parse (dedent s) = .ok d := by
  unfold parseText at h
  split at h
  · cases h
  · cases hp : textScript.parse (dedent s) with
    | error e => simp [hp, Except.map] at h
    | ok d' => simpa [hp, Except.map] using h

theorem parse_of_parseBytes {b : List UInt8} (h : parseBytes b = .ok (some d)) :
    byteScript.parse b = .ok d := by
  unfold parseBytes at h
  split at h
  · cases h
  · cases hp : byteScript.parse b with
    | error e => simp [hp, Except.map] at h
    | ok d' => simpa [hp, Except.map] using h

/-- What a text rule is read as has a text body and can be written. -/
theorem writable_of_parseText {s : List Char} (h : parseText s = .ok (some d)) :
    ∃ body, d.body = .text body ∧ d.IsWritable := by
  have hd := parse_of_parseText h
  obtain ⟨body, hbody, ⟨u, hu⟩, hlast⟩ := Script.body_of_parse Script.textScript_readsLines hd
  have hw := Script.writes_of_parse textScript_lawful Script.textScript_faithful
    Script.textScript_readsLines hd
  obtain ⟨a, b, hs, -⟩ := trim_split isBlank (dedent s)
  have hpart : dedent s = (a ++ u) ++ (body ++ b) := by
    have hu : u ++ body = trim isBlank (dedent s) := hu
    rw [hs, ← hu]
    simp
  refine ⟨_, hbody, ?_⟩
  unfold Directive.IsWritable
  rw [hbody]
  refine ⟨hw, ?_, ?_⟩
  · rw [String.toList_ofList]
    exact hlast
  · rw [String.toList_ofList]
    exact fun l hl hb => bare_line_part hpart hlast hl hb

/-- What a rule of bytes is read as has a body of bytes and can be written. -/
theorem writable_of_parseBytes {b : List UInt8} (h : parseBytes b = .ok (some d)) :
    ∃ body, d.body = .binary body ∧ d.IsWritable := by
  have hd := parse_of_parseBytes h
  obtain ⟨body, hbody, -, hlast⟩ := Script.body_of_parse Script.byteScript_readsLines hd
  have hw := Script.writes_of_parse byteScript_lawful Script.byteScript_faithful
    Script.byteScript_readsLines hd
  refine ⟨_, hbody, ?_⟩
  unfold Directive.IsWritable
  rw [hbody]
  exact ⟨hw, hlast⟩

/-- Written with the text body that was read, the directive is read again. -/
theorem parseText_render (hd : d.headerList = before ++ after) {body : String}
    (hb : d.body = .text body) (h : d.IsWritable) :
    parseText (textScript.render d.method d.url (before ++ d.contentTypeHeader ++ after) d.status
      body.toList) = .ok (some d) := by
  unfold Directive.IsWritable at h
  rw [hb] at h
  obtain ⟨hw, hlast, hbare⟩ := h
  have hct : textScript.IsName "Content-Type" := by decide +kernel
  have hbody : textScript.body body.toList = d.body := hb ▸ congrArg Body.text String.ofList_toList
  rw [parseText, if_neg (Script.render_ne_nil textScript_lawful _ _ _ _ _),
    Directive.dedent_render hw.method hw.url (hw.headers_around hct hd) hbare,
    Script.parse_render textScript_lawful hct hw hd hbody hlast]
  rfl

/-- The same with bytes. -/
theorem parseBytes_render (hd : d.headerList = before ++ after) {body : List UInt8}
    (hb : d.body = .binary body) (h : d.IsWritable) :
    parseBytes (byteScript.render d.method d.url (before ++ d.contentTypeHeader ++ after) d.status
      body) = .ok (some d) := by
  unfold Directive.IsWritable at h
  rw [hb] at h
  obtain ⟨hw, hlast⟩ := h
  have hct : byteScript.IsName "Content-Type" := by decide +kernel
  rw [parseBytes, if_neg (Script.render_ne_nil byteScript_lawful _ _ _ _ _),
    Script.parse_render byteScript_lawful hct hw hd hb.symm hlast]
  rfl

/-- **The directive of every rule can be written**, and has a body of the kind of the rule. Written
with its header lines and the content type among them, it is read again as what it is. -/
theorem parse_writable (r : Rule) (d : Directive) (h : r.parse = .ok (some d)) :
    d.IsWritable ∧ d.body.isBinary = r.isBinary ∧
      ∀ before after, d.headerList = before ++ after →
        (d.written (before ++ d.contentTypeHeader ++ after)).isBinary = r.isBinary ∧
          (d.written (before ++ d.contentTypeHeader ++ after)).parse = .ok (some d) := by
  cases r with
  | text s =>
    obtain ⟨body, hb, hw⟩ := writable_of_parseText h
    refine ⟨hw, by rw [hb]; rfl, ?_⟩
    intro before after hd
    have hread := parseText_render hd hb hw
    unfold Directive.written
    rw [hb]
    refine ⟨rfl, ?_⟩
    rwa [parse, String.toList_ofList]
  | binary b =>
    obtain ⟨body, hb, hw⟩ := writable_of_parseBytes h
    refine ⟨hw, by rw [hb]; rfl, ?_⟩
    intro before after hd
    have hread := parseBytes_render hd hb hw
    unfold Directive.written
    rw [hb]
    exact ⟨rfl, hread⟩

/-- Bytes that write no text within the method, a header and the body, two headers of one name and
a line that declares nothing. -/
theorem parse_writable_odd_bytes :
    let r := binary ([0xFF] ++ Utf8.encode "GET  \thttp://a.b\r\nX-A : 1\nX-B\nX-A:".toList ++
      [0xC3, 32, 58, 10] ++ Utf8.encode "Content-Type: a:b\n ->+0200\r: x\n \t\ny ".toList)
    let d : Directive := ⟨"\uFFFDGET", "http://a.b", 200,
      .binary (Utf8.encode " x\n \t\ny".toList), some [("X-A", "\uFFFD :")], some "a:b"⟩
    r.parse = .ok (some d) ∧ d.IsWritable ∧
      (d.written [("Content-Type", "a:b"), ("X-A", "\uFFFD :")]).parse = .ok (some d) := by
  intro r d
  have hr : r.parse = .ok (some d) := by decide +kernel
  obtain ⟨hw, -, hwritten⟩ := parse_writable r d hr
  exact ⟨hr, hw, (hwritten [] [("X-A", "\uFFFD :")] rfl).2⟩

end Rule

end StubProxy
