import StubProxy.Proofs.LastWins

/-!
# What a stubbed response holds

The headers of a response are those that its directive declares, in small letters and without those
that may not be sent; the content type is declared first, so that any header can take its place.

* `Directive.sent`: the headers that may be sent, in the order in which they are declared.
* `Directive.fields_eq`: the headers of the response are these, set one after the other.
* `Directive.response_as_declared`: the response of every directive, with any status.
-/

namespace StubProxy

open Text

namespace Field

/-- Whether a header may be sent: its name is a token, not too long, and its value holds no
forbidden byte. -/
def isSendable (header : String × String) : Bool :=
  isToken header.1.toList && header.1.toList.length ≤ maxNameLength &&
    isValue (Utf8.encode header.2.toList)

/-- A header with its name in small letters and its value in bytes. -/
def ofHeader (header : String × String) : Field :=
  (String.ofList (header.1.toList.map Char.toLower), Utf8.encode header.2.toList)

/-- Exactly the headers that may be sent are read. -/
theorem read_header (header : String × String) :
    read header.1 (Utf8.encode header.2.toList) =
      if isSendable header then some (ofHeader header) else none := by
  unfold read readName isSendable
  by_cases hn : (isToken header.1.toList && header.1.toList.length ≤ maxNameLength) = true
  · simp only [hn, Bool.true_and]
    rfl
  · rw [Bool.not_eq_true] at hn
    simp only [hn, Bool.false_and]
    rfl

end Field

namespace Directive

/-- The headers that may be sent, the content type in front of the others. -/
def sent (d : Directive) : Fields :=
  ((("content-type", d.effectiveContentType) :: d.headerList).filter Field.isSendable).map
    Field.ofHeader

/-- The headers of a response are set one after the other. -/
theorem fields_eq (d : Directive) :
    d.declaredFields.foldl setField [] = d.sent.foldl (fun fs f => setEntry f fs) [] := by
  have hstep : ∀ (fs : Fields) (header : String × String), setField fs header =
      if Field.isSendable header then setEntry (Field.ofHeader header) fs else fs := by
    intro fs header
    rw [setField, Field.read_header]
    cases Field.isSendable header with
    | false => rfl
    | true => exact Fields.insert_eq _ fs
  rw [sent, List.foldl_map, List.foldl_filter, ← declaredFields]
  congr 1
  funext fs header
  exact hstep fs header

/-- **A response is what its directive declares.** With a status that can end an exchange, it has
this status, the bytes of the body, and one header for each name among those that may be sent, with
the value that was declared last; names are the same in large and in small letters. With any other
status it is an error in plain text, which shows nothing of the directive but this status. -/
theorem response_as_declared (d : Directive) :
    (200 ≤ d.status ∧ d.status ≤ 999 →
      d.response.status = d.status ∧ d.response.body = d.body.bytes ∧
        LastWins d.sent d.response.fields) ∧
    (d.status < 200 ∨ 999 < d.status →
      d.response.status = 500 ∧
        d.response.fields = [("content-type", Utf8.encode "text/plain".toList)] ∧
        d.response.body = Utf8.encode
          ("Invalid status in directive: " ++ String.ofList (decimal d.status)).toList) := by
  constructor
  · rintro ⟨hl, hu⟩
    have hfinal : isFinalStatus d.status := by
      simp only [isFinalStatus, Bool.and_eq_true, decide_eq_true_eq]
      exact ⟨hl, hu⟩
    have hsent : LastWins ([] ++ d.sent) (d.sent.foldl (fun fs f => setEntry f fs) []) :=
      LastWins.nil.foldl d.sent
    rw [response, if_pos hfinal, fields_eq]
    exact ⟨rfl, rfl, hsent⟩
  · intro h
    have hfinal : ¬ isFinalStatus d.status := by
      simp only [isFinalStatus, Bool.and_eq_true, decide_eq_true_eq]
      omega
    rw [response, if_neg hfinal]
    exact ⟨rfl, rfl, rfl⟩

/-- The content type given by a header, a name in three spellings of which the last one has a bell
in its value, and a name that is no token; and the status of an interim response. -/
theorem response_as_declared_spellings :
    let d : Directive := ⟨"GET", "http://a.b", 201, .binary [0, 255],
      some [("X-A", "1"), ("Content-TYPE", "image/png"), ("x-a", "ä"), ("X-a", "\x07"),
        ("X A", "3")],
      some "text/html"⟩
    d.response.status = 201 ∧ d.response.body = [0, 255] ∧ LastWins d.sent d.response.fields ∧
      d.response.fields =
        [("content-type", Utf8.encode "image/png".toList), ("x-a", Utf8.encode "ä".toList)] ∧
      { d with status := 103 }.response.status = 500 := by
  intro d
  obtain ⟨hstatus, hbody, hsent⟩ := (response_as_declared d).1 (by decide)
  obtain ⟨herror, -⟩ := (response_as_declared { d with status := 103 }).2 (by decide)
  exact ⟨hstatus, hbody, hsent, by decide +kernel, herror⟩

end Directive

end StubProxy
