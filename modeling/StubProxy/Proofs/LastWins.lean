import StubProxy.Proofs.Script
import StubProxy.Proxy.Stub

/-!
# Tables in which the last entry wins

Headers are declared one by one, and a name may come back. The table that this leaves has one entry
for each name, where the name came first and with the value that came last.

* `LastWins`: what such a table is, without saying how it is filled.
* `LastWins.setEntry`: setting one more entry keeps it, and so does a whole list of them,
  `LastWins.foldl`.
* `Headers.insert_eq`, `Fields.insert_eq`: both kinds of header tables are filled in this way.
* `Declared.ofHeaders_eq`, `Directive.declaredBy_foldl_declare`: the headers and the content type that
  header lines declare.
-/

namespace StubProxy

section Tables

variable {κ ν : Type} [DecidableEq κ] {entries table : List (κ × ν)} {e x : κ × ν}

/-- One entry for each key of a list: at the place of its first entry, with the value of its last. -/
structure LastWins (entries table : List (κ × ν)) : Prop where
  keys : table.map Prod.fst = (entries.map Prod.fst).eraseDups
  value : ∀ e ∈ table, entries.reverse.lookup e.1 = some e.2

/-- Sets the value of a key: in its place if the key is there, else at the end. -/
def setEntry (e : κ × ν) : List (κ × ν) → List (κ × ν)
  | [] => [e]
  | x :: t => if x.1 = e.1 then e :: t else x :: setEntry e t

/-! ## Keys -/

theorem nodup_eraseDups : ∀ ks : List κ, ks.eraseDups.Nodup
  | [] => by simp
  | k :: ks => by
    rw [List.eraseDups_cons, List.nodup_cons]
    exact ⟨by simp [List.mem_eraseDups], nodup_eraseDups _⟩
termination_by ks => ks.length
decreasing_by
  have hle := List.length_filter_le (fun b => !b == k) ks
  rw [List.length_cons]
  omega

theorem eraseDups_concat (ks : List κ) (k : κ) :
    (ks ++ [k]).eraseDups = if k ∈ ks then ks.eraseDups else ks.eraseDups ++ [k] := by
  rw [List.eraseDups_append]
  by_cases hk : k ∈ ks
  · simp [List.removeAll, hk]
  · have hone : ([k].removeAll ks).eraseDups = [k] := by
      simp [List.removeAll, hk, List.eraseDups_cons]
    rw [hone, if_neg hk]

theorem map_fst_setEntry (e : κ × ν) (t : List (κ × ν)) :
    (setEntry e t).map Prod.fst =
      if e.1 ∈ t.map Prod.fst then t.map Prod.fst else t.map Prod.fst ++ [e.1] := by
  induction t with
  | nil => simp [setEntry]
  | cons x t ih =>
    rw [setEntry]
    by_cases hx : x.1 = e.1
    · simp [hx]
    · rw [if_neg hx, List.map_cons, ih]
      have hiff : e.1 ∈ x.1 :: t.map Prod.fst ↔ e.1 ∈ t.map Prod.fst := by
        simp [Ne.symm hx]
      by_cases ht : e.1 ∈ t.map Prod.fst
      · rw [if_pos ht, List.map_cons, if_pos (hiff.2 ht)]
      · rw [if_neg ht, List.map_cons, if_neg (mt hiff.1 ht), List.cons_append]

/-- With distinct keys, the entry that was set is the only one of its key. -/
theorem mem_setEntry {t : List (κ × ν)} (hn : (t.map Prod.fst).Nodup) (hx : x ∈ setEntry e t) :
    x = e ∨ x ∈ t ∧ x.1 ≠ e.1 := by
  induction t with
  | nil => exact .inl (by simpa [setEntry] using hx)
  | cons y t ih =>
    rw [List.map_cons, List.nodup_cons] at hn
    rw [setEntry] at hx
    by_cases hy : y.1 = e.1
    · rw [if_pos hy] at hx
      rcases List.mem_cons.1 hx with rfl | hx
      · exact .inl rfl
      · refine .inr ⟨List.mem_cons_of_mem _ hx, ?_⟩
        intro hk
        exact hn.1 (hy.trans hk.symm ▸ List.mem_map_of_mem hx)
    · rw [if_neg hy] at hx
      rcases List.mem_cons.1 hx with rfl | hx
      · exact .inr ⟨List.mem_cons_self, hy⟩
      · exact (ih hn.2 hx).imp_right fun h => ⟨List.mem_cons_of_mem _ h.1, h.2⟩

/-! ## The table -/

namespace LastWins

theorem nil : LastWins ([] : List (κ × ν)) [] := ⟨rfl, by simp⟩

theorem nodup (h : LastWins entries table) : (table.map Prod.fst).Nodup := by
  rw [h.keys]
  exact nodup_eraseDups _

theorem eq_nil_iff (h : LastWins entries table) : table = [] ↔ entries = [] := by
  rw [← List.map_eq_nil_iff (f := Prod.fst), h.keys]
  cases entries with
  | nil => simp
  | cons e es => simp [List.eraseDups_cons]

theorem mem (h : LastWins entries table) (he : e ∈ table) : e ∈ entries := by
  obtain ⟨a, b, hab, -⟩ := List.lookup_eq_some_iff.1 (h.value e he)
  rw [← List.mem_reverse, hab]
  simp

/-- One more entry wins over those before it. -/
theorem setEntry (h : LastWins entries table) (e : κ × ν) :
    LastWins (entries ++ [e]) (setEntry e table) := by
  constructor
  · rw [map_fst_setEntry, List.map_append, List.map_singleton, eraseDups_concat, h.keys]
    simp only [List.mem_eraseDups]
  · intro x hx
    rw [List.reverse_append, List.reverse_singleton, List.singleton_append]
    rcases mem_setEntry h.nodup hx with rfl | ⟨hx, hne⟩
    · exact List.lookup_cons_self
    · have hb : (x.1 == e.1) = false := by simpa using hne
      rw [List.lookup_cons, hb]
      exact h.value x hx

/-- **All entries of a list, set one after the other.** -/
theorem foldl (h : LastWins entries table) (es : List (κ × ν)) :
    LastWins (entries ++ es) (es.foldl (fun t e => StubProxy.setEntry e t) table) := by
  induction es generalizing entries table with
  | nil => simpa using h
  | cons e es ih =>
    rw [List.foldl_cons, List.append_cons]
    exact ih (h.setEntry e)

end LastWins

end Tables

/-! ## Headers of directives and of responses -/

theorem Headers.insert_eq (name value : String) (hs : Headers) :
    Headers.insert name value hs = setEntry (name, value) hs := by
  induction hs with
  | nil => rfl
  | cons h hs ih =>
    rw [Headers.insert, setEntry, ih]
    by_cases hn : h.1 = name
    · rw [if_pos hn, if_pos hn, hn]
    · rw [if_neg hn, if_neg hn]

theorem Fields.insert_eq (f : Field) (fs : Fields) : Fields.insert f fs = setEntry f fs := by
  induction fs with
  | nil => rfl
  | cons g fs ih => rw [Fields.insert, setEntry, ih]

/-! ## What header lines declare -/

/-- The headers among what header lines declare, without the content types. -/
def Headers.others (hs : Headers) : Headers := hs.filter fun h => h.1 ≠ "Content-Type"

/-- The directive has the headers and the content type that header lines declare, in this order. The
content type is the last one; the headers are set one after the other, so that each name stands
where it came first and has the value that came last. Without any, the directive has no headers. -/
structure Directive.DeclaredBy (d : Directive) (hs : Headers) : Prop where
  contentType : d.contentType = hs.reverse.lookup "Content-Type"
  headers : d.headers = (hs.others.foldl (fun e h => e.withHeader h.1 h.2) d.bare).headers
  none_iff : d.headers = none ↔ hs.others = []
  lastWins : LastWins hs.others d.headerList

theorem Headers.unlessEmpty_eq_none {hs : Headers} : hs.unlessEmpty = none ↔ hs = [] := by
  cases hs <;> simp [unlessEmpty]

/-- Content type and headers are declared independently of one another. -/
theorem Declared.ofHeaders_eq (hs : Headers) : ofHeaders hs =
    ⟨hs.others.foldl (fun t h => setEntry h t) [], hs.reverse.lookup "Content-Type"⟩ := by
  have hfold : ∀ t : Declared, hs.foldl add t =
      ⟨hs.others.foldl (fun t h => setEntry h t) t.headers,
        (hs.reverse.lookup "Content-Type").or t.contentType⟩ := by
    induction hs with
    | nil => exact fun _ => rfl
    | cons h hs ih =>
      intro t
      rw [List.foldl_cons, ih, add, List.reverse_cons, List.lookup_append, Headers.others,
        Headers.others]
      by_cases hn : h.1 = "Content-Type"
      · have hb : ("Content-Type" == h.1) = true := by simp [hn]
        rw [if_pos hn, List.filter_cons_of_neg (by simp [hn]), List.lookup_cons, hb, Option.or_assoc]
        rfl
      · have hb : ("Content-Type" == h.1) = false := by simpa using Ne.symm hn
        rw [if_neg hn, List.filter_cons_of_pos (by simp [hn]), List.lookup_cons, hb,
          Headers.insert_eq, Option.or_assoc]
        rfl
  rw [ofHeaders, hfold]
  exact congrArg (Declared.mk _) Option.or_none

namespace Directive

variable {d : Directive} {hs : Headers} {h : String × String}

/-- Every header was declared, and is not the content type. -/
theorem DeclaredBy.mem_headers (hd : d.DeclaredBy hs) (hh : h ∈ d.headerList) :
    h ∈ hs ∧ h.1 ≠ "Content-Type" := by
  have hmem := List.mem_filter.1 (hd.lastWins.mem hh)
  exact ⟨hmem.1, by simpa using hmem.2⟩

theorem DeclaredBy.mem_contentType (hd : d.DeclaredBy hs) {v : String} (hv : v ∈ d.contentType) :
    ("Content-Type", v) ∈ hs := by
  have hlookup : hs.reverse.lookup "Content-Type" = some v := hd.contentType ▸ hv
  obtain ⟨a, b, hab, -⟩ := List.lookup_eq_some_iff.1 hlookup
  rw [← List.mem_reverse, hab]
  simp

/-- A table of headers is never empty. -/
theorem DeclaredBy.ne_some_nil (hd : d.DeclaredBy hs) : d.headers ≠ some [] := by
  intro h
  have hlast := hd.lastWins
  rw [headerList, h, Option.getD_some] at hlast
  have hnone := hd.none_iff.2 (hlast.eq_nil_iff.1 rfl)
  rw [h] at hnone
  cases hnone

theorem foldl_withHeader (d : Directive) (hne : ∀ h ∈ hs, h.1 ≠ "Content-Type") :
    hs.foldl (fun e h => e.withHeader h.1 h.2) d = hs.foldl declare d := by
  induction hs generalizing d with
  | nil => rfl
  | cons h hs ih =>
    rw [List.forall_mem_cons] at hne
    rw [List.foldl_cons, List.foldl_cons, ih _ hne.2, declare, if_neg hne.1]

/-- **A directive has what its header lines declare.** -/
theorem declaredBy_foldl_declare (method url : String) (n : Nat) (b : Body) (hs : Headers) :
    (hs.foldl declare (.new method url n b)).DeclaredBy hs := by
  have honto : ∀ t : Headers, t.foldl declare (.new method url n b) =
      (Declared.ofHeaders t).onto (.new method url n b) :=
    fun t => (Declared.onto_ofHeaders (.new method url n b) t).symm
  have hlast : LastWins ([] ++ hs.others) (hs.others.foldl (fun t h => setEntry h t) []) :=
    LastWins.nil.foldl hs.others
  rw [List.nil_append] at hlast
  have hothers : hs.others.others = hs.others := by simp [Headers.others]
  rw [honto, Declared.ofHeaders_eq]
  refine ⟨rfl, ?_, ?_, ?_⟩
  · have hne : ∀ h ∈ hs.others, h.1 ≠ "Content-Type" :=
      fun h hm => by simpa using (List.mem_filter.1 hm).2
    rw [foldl_withHeader _ hne]
    have hbare : hs.others.foldl declare (.new method url n b) = _ := honto hs.others
    rw [Declared.ofHeaders_eq, hothers] at hbare
    exact (congrArg headers hbare).symm
  · exact Headers.unlessEmpty_eq_none.trans hlast.eq_nil_iff
  · rw [headerList, Declared.onto, Headers.getD_unlessEmpty]
    exact hlast

end Directive

end StubProxy
