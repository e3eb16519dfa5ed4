import Mathlib.Data.List.DropRight
import StubProxy.Proofs.Effects
import StubProxy.Proofs.HostBrackets
import StubProxy.Proofs.Tunnel

/-!
# Tunnels to opened hosts

An authority is opened by leaving `https://` with this authority to the network. Whether a tunnel to
it is granted then is decided on two readings of it: the one of the URL, and the one of the request
for the tunnel.

* `Url.https_port`: both readings find the same port.
* `Session.tunnel_to_opened`: the tunnel is granted if URLs write the host as the authority does, or
  another beginning covers it. Other spellings of a host, as in capitals, are refused.
-/

namespace StubProxy

open Text

namespace Url

variable {a s inner rest tail : List Char} {n m port : Option Nat} {u : Url}

/-! ## Host and port in a URL -/

/-- The host of an authority as URLs read it. -/
def hostText (a : List Char) : List Char :=
  (Authority.afterLast '@' a).take (hostLength false (Authority.afterLast '@' a))

/-- What stands behind the host of an authority as URLs read it. -/
def behindHost (a : List Char) : List Char :=
  (Authority.afterLast '@' a).drop (hostLength false (Authority.afterLast '@' a))

/-- A host that no bracket opens in ends at the first colon. -/
theorem drop_hostLength_false (h : '[' ∉ s.take (hostLength false s)) :
    s.drop (hostLength false s) = s.dropWhile (· ≠ ':') := by
  induction s with
  | nil => rfl
  | cons c s ih =>
    rw [hostLength] at h ⊢
    by_cases hc : c = ':'
    · simp [hc]
    · have hdrop : (c :: s).dropWhile (· ≠ ':') = s.dropWhile (· ≠ ':') :=
        List.dropWhile_cons_of_pos (by simp [hc])
      simp only [hc, decide_false, Bool.false_and, Bool.false_eq_true, if_false] at h ⊢
      rw [List.take_succ_cons, List.mem_cons, not_or] at h
      obtain ⟨hopen, h⟩ := h
      rw [if_neg (Ne.symm hopen), ite_self] at h ⊢
      rw [List.drop_succ_cons, hdrop, ih h]

/-- No colon ends a host before an open bracket is closed. -/
theorem drop_hostLength_true (h : ']' ∉ inner) :
    (inner ++ ']' :: rest).drop (hostLength true (inner ++ ']' :: rest)) =
      rest.drop (hostLength false rest) := by
  induction inner with
  | nil => simp [hostLength]
  | cons c inner ih =>
    rw [List.mem_cons, not_or] at h
    rw [List.cons_append, hostLength]
    -- whatever `inner` holds, the bracket stays open behind it
    simp only [Bool.not_true, Bool.and_false, Bool.false_eq_true, if_false, Ne.symm h.1, ite_self,
      List.drop_succ_cons]
    exact ih h.2

theorem head?_of_hostText {c : Char} (h : (hostText a).head? = some c) :
    (Authority.afterLast '@' a).head? = some c := by
  obtain ⟨t, ht⟩ := List.head?_eq_some_iff.1 h
  have hsplit : hostText a ++ behindHost a = Authority.afterLast '@' a := List.take_append_drop _ _
  rw [← hsplit, ht]
  rfl

/-- URLs read what stands behind the host from the first colon on. -/
theorem behindHost_eq (ha : Uri.IsAuthority a)
    (hh : (hostText a).head? ≠ some '[' → '[' ∉ hostText a) :
    behindHost a = (Authority.behindHost a).dropWhile (· ≠ ':') := by
  by_cases h : (Authority.afterLast '@' a).head? = some '['
  · obtain ⟨inner, hinner, hbehind, -, hall⟩ := Authority.bracketed ha h
    have hopen : hostLength false ('[' :: inner ++ ']' :: Authority.behindHost a) =
        hostLength true (inner ++ ']' :: Authority.behindHost a) + 1 := rfl
    rw [behindHost, hall, hopen, List.cons_append, List.drop_succ_cons,
      drop_hostLength_true hinner, drop_hostLength_false]
    exact fun hm => hbehind (List.mem_of_mem_take hm)
  · have hnone : '[' ∉ hostText a := hh fun hhead => h (head?_of_hostText hhead)
    rw [behindHost, drop_hostLength_false hnone, (Authority.plain h).2, List.dropWhile_idempotent]

/-- A port of visible characters that a URL can have is all of its text, in digits. -/
theorem readPort_visible (hs : ∀ c ∈ s, Uri.Visible c) (h : readPort n s = some (m, tail)) :
    (s = [] ∧ m = n) ∨ (s ≠ [] ∧ (∀ c ∈ s, c.isDigit) ∧
      m = some (Nat.ofDigitChars 10 s (n.getD 0)) ∧ Nat.ofDigitChars 10 s (n.getD 0) ≤ 65535) := by
  induction s generalizing n with
  | nil => exact .inl ⟨rfl, (Prod.mk.inj (Option.some.inj h)).1.symm⟩
  | cons c s ih =>
    rw [List.forall_mem_cons] at hs
    cases hc : c.isDigit with
    | false =>
      -- only what ends an authority may follow the digits
      obtain ⟨-, -, hslash, hquestion, hhash, hback⟩ := hs.1
      rw [readPort, digit?_of_not_isDigit hc] at h
      simp [hslash, hquestion, hhash, hback] at h
    | true =>
      rw [readPort, digit?_of_isDigit hc] at h
      simp only at h
      split at h
      · cases h
      · rename_i hbound
        refine .inr ⟨List.cons_ne_nil _ _, ?_⟩
        rw [Nat.ofDigitChars_cons]
        rcases ih hs.2 h with ⟨rfl, rfl⟩ | ⟨-, hd, hm, hle⟩
        · exact ⟨by simp [hc], rfl, Nat.le_of_not_lt hbound⟩
        · exact ⟨List.forall_mem_cons.2 ⟨hc, hd⟩, hm, hle⟩

/-- An authority that is all there is has its host behind its user information. -/
theorem splitUserinfo_nil (a : List Char) :
    ∃ userinfo, splitUserinfo a [] = some (userinfo, Authority.afterLast '@' a) := by
  unfold splitUserinfo splitAtLast
  by_cases hat : '@' ∈ a
  · rw [if_pos hat]
    split
    · cases ‹_›
    · rename_i h heq
      obtain ⟨-, rfl⟩ := Prod.mk.inj (Option.some.inj heq)
      -- an empty host is refused here only if something follows
      rw [if_neg (fun hno => hno.2 rfl)]
      exact ⟨[], rfl⟩
    · rename_i p hp heq
      obtain rfl := Option.some.inj heq
      exact ⟨_, rfl⟩
  · rw [if_neg hat]
    exact ⟨[], by rw [Authority.afterLast_of_not_mem hat]⟩

/-- Visible text behind `https://` is read as it stands. -/
theorem parse_https (hv : ∀ c ∈ a, Uri.Visible c) :
    parse ("https://".toList ++ a) = readAuthority "https".toList a := by
  have hfront : "https://".toList.all fun c => isEdge c = false ∧ isIgnored c = false := by decide
  have hseen : ∀ c ∈ "https://".toList ++ a, isEdge c = false ∧ isIgnored c = false := by
    intro c hc
    rcases List.mem_append.1 hc with hc | hc
    · exact of_decide_eq_true (List.all_eq_true.1 hfront c hc)
    · have hl := (hv c hc).1
      refine ⟨by simp [isEdge]; omega, ?_⟩
      simp only [isIgnored, Bool.or_eq_false_iff, decide_eq_false_iff_not]
      refine ⟨⟨?_, ?_⟩, ?_⟩ <;> rintro rfl <;> exact absurd hl (by decide)
  have htrim : trim isEdge ("https://".toList ++ a) = "https://".toList ++ a :=
    trim_eq_self.2 ⟨fun c hc => (hseen c (List.mem_of_mem_head? hc)).1,
      fun c hc => (hseen c (List.mem_of_getLast? hc)).1⟩
  have hfilter : ("https://".toList ++ a).filter (!isIgnored ·) = "https://".toList ++ a :=
    List.filter_eq_self.2 fun c hc => by simp [(hseen c hc).2]
  have hscheme : splitScheme ("https://".toList ++ a) = some ("https".toList, "//".toList ++ a) :=
    rfl
  have hslash : (("//".toList ++ a).dropWhile fun c => c = '/' || c = '\\') = a := by
    have hboth : "//".toList.all fun c => c = '/' || c = '\\' := by decide
    rw [List.dropWhile_append_of_pos (List.all_eq_true.1 hboth)]
    apply dropWhile_of_head
    intro c hc
    obtain ⟨-, -, hforward, -, -, hback⟩ := hv c (List.mem_of_mem_head? hc)
    simp [hforward, hback]
  have hweb : family "https".toList = .web := by decide
  simp only [parse, htrim, hfilter, hscheme, Option.bind_eq_bind, Option.bind_some, hweb, hslash]

/-- The host and the port of a URL that is an authority behind `https://`. -/
theorem readAuthority_https (hv : ∀ c ∈ a, Uri.Visible c)
    (h : readAuthority "https".toList a = some u) :
    (∃ host, Host.read (hostText a) = some host) ∧
      ∃ port tail, readWrittenPort (behindHost a) = some (port, tail) ∧
        u.effectivePort = some (port.getD 443) := by
  have hends : ∀ c ∈ a, (!endsAuthority true c) = true := by
    intro c hc
    obtain ⟨-, -, hslash, hquestion, hhash, hback⟩ := hv c hc
    simp [endsAuthority, hslash, hquestion, hhash, hback]
  have htake := List.takeWhile_eq_self_iff.2 hends
  have hdrop := List.dropWhile_eq_nil_iff.2 hends
  obtain ⟨userinfo, huser⟩ := splitUserinfo_nil a
  have hs : isSpecial (family "https".toList) = true := by decide
  have hdefault : defaultPort "https".toList = some 443 := by decide
  simp only [readAuthority, hs, htake, hdrop, huser, Option.bind_eq_bind, Option.bind_some,
    List.append_nil] at h
  obtain ⟨host, hhost, h⟩ := Option.bind_eq_some_iff.1 h
  obtain ⟨⟨port, tail⟩, hport, h⟩ := Option.bind_eq_some_iff.1 h
  refine ⟨?_, port, tail, hport, ?_⟩
  · -- web URLs have a host
    unfold readHost at hhost
    split at hhost
    · rw [if_pos (.inl rfl)] at hhost
      cases hhost
    · rw [if_pos rfl] at hhost
      obtain ⟨host, hread, -⟩ := Option.map_eq_some_iff.1 hhost
      exact ⟨host, hread⟩
  · obtain rfl := Option.some.inj h
    -- the usual port is left out of the URL, and comes back as its effective one
    simp only [effectivePort, withTail, hdefault]
    by_cases hp : port = some 443
    · simp [hp]
    · rw [if_neg hp]
      cases port <;> rfl

/-- The port that is read behind the host is the one that the authority asks for. -/
theorem asks_of_readWrittenPort (ha : Uri.IsAuthority a)
    (hb : behindHost a = (Authority.behindHost a).dropWhile (· ≠ ':'))
    (h : readWrittenPort (behindHost a) = some (port, tail)) :
    Authority.Asks a (port.getD 443) := by
  rw [hb] at h
  by_cases hcolon : ':' ∈ Authority.behindHost a
  · obtain ⟨gap, text, hsplit, hgap⟩ := List.eq_append_cons_of_mem hcolon
    have hp : Authority.WritesPort a text := ⟨gap, hgap, hsplit⟩
    have hvisible : ∀ c ∈ text, Uri.Visible c := by
      obtain ⟨front, hfront⟩ := hp.exists_front ha
      intro c hc
      exact ha.visible c (by rw [hfront]; simp [hc])
    rw [hsplit, dropWhile_ne_append hgap] at h
    rcases readPort_visible hvisible h with ⟨rfl, rfl⟩ | ⟨hne, hdigits, rfl, hle⟩
    · exact .empty hp
    · exact .written hp ⟨text, .inl rfl, hne, hdigits, rfl, hle⟩
  · rw [dropWhile_ne_of_not_mem hcolon] at h
    obtain rfl : none = port := (Prod.mk.inj (Option.some.inj h)).1
    refine .absent fun text => ?_
    rintro ⟨gap, -, hsplit⟩
    exact hcolon (by rw [hsplit]; simp)

/-- **The port that a URL reads** in an authority is the one that the authority asks for. -/
theorem https_port (ha : Uri.IsAuthority a) (h : parse ("https://".toList ++ a) = some u) :
    ∃ port, Authority.Asks a port ∧ u.effectivePort = some port := by
  rw [parse_https ha.visible] at h
  obtain ⟨⟨host, hhost⟩, port, tail, hport, heffective⟩ := readAuthority_https ha.visible h
  have hb := behindHost_eq ha (Host.not_mem_of_read hhost)
  exact ⟨_, asks_of_readWrittenPort ha hb hport, heffective⟩

end Url

namespace Session

/-! ## Tunnels -/

/-- One beginning more covers what the others cover, and its own host and port. -/
theorem covers_addPassthrough (s : Session) (xs : List Step) (start host : String) (port : Nat) :
    ((s.addPassthrough start).run xs).2.table.Covers host port ↔
      (∃ u h, Url.parse start.toList = some u ∧ u.host = some h ∧ h.toText = host.toList ∧
        u.effectivePort = some port) ∨ (s.run xs).2.table.Covers host port := by
  have hold := s.run_passthrough xs
  have hnew := (s.addPassthrough start).run_passthrough xs
  have hstart : (s.addPassthrough start).table.passthrough = s.table.passthrough ++ [start] := rfl
  unfold Table.Covers
  simp only [hold, hnew, hstart, List.mem_append, List.mem_singleton, or_and_right, exists_or,
    exists_eq_left]
  rw [or_assoc, or_left_comm]

/-- **Tunnels to an opened authority.** Its beginning passes its own text, from now on. A tunnel to
it is granted if URLs write its host as it stands there, or if another beginning covers the host and
the port; and only then. -/
theorem tunnel_to_opened (s : Session) {a : List Char} {u : Url} (ha : Uri.IsAuthority a)
    (hu : Url.parse ("https://".toList ++ a) = some u) :
    let start := "https://" ++ String.ofList a
    let host := String.ofList (Authority.host a)
    ∃ port, Authority.Asks a port ∧ ∀ xs,
      let s' := ((s.addPassthrough start).run xs).2
      s'.table.isPassthrough start ∧
      (s'.table.Covers host port ↔
        u.host.map Url.Host.toText = some (Authority.host a) ∨
          (s.run xs).2.table.Covers host port) ∧
      ∀ r : Request, r.method = "CONNECT" → r.target.authority? = some a →
        s'.Gated host port start (s'.handle r) := by
  intro start host
  obtain ⟨port, hask, hport⟩ := Url.https_port ha hu
  have hstart : start.toList = "https://".toList ++ a := by
    simp only [start, String.toList_append, String.toList_ofList]
  refine ⟨port, hask, fun xs => ⟨?_, ?_, ?_⟩⟩
  · refine List.any_eq_true.2 ⟨start, ?_, List.isPrefixOf_iff_prefix.2 (List.prefix_refl _)⟩
    rw [run_passthrough]
    exact List.mem_append_left _ (List.mem_append_right _ (List.mem_singleton.2 rfl))
  · rw [covers_addPassthrough, hstart, hu]
    apply or_congr_left
    rw [Option.map_eq_some_iff]
    constructor
    · rintro ⟨u', h, hu', hh, htext, -⟩
      obtain rfl := Option.some.inj hu'
      exact ⟨h, hh, by rw [htext, String.toList_ofList]⟩
    · rintro ⟨h, hh, htext⟩
      exact ⟨u, h, rfl, hh, by rw [htext, String.toList_ofList], hport⟩
  · intro r hm hr
    have hg := (((s.addPassthrough start).run xs).2).gated_handle hm hr
    rwa [hask.getD_port? ha] at hg

/-- A host in capitals is opened, and yet no tunnel to it is granted. -/
theorem capital_host_is_refused :
    let s := (start .default .loopback).addPassthrough "https://A.B:443"
    Uri.IsAuthority "A.B:443".toList ∧ (Url.parse "https://A.B:443".toList).isSome ∧
      s.table.isPassthrough "https://A.B:443" ∧
      s.handle (tunnelTo "A.B:443") =
        (.reply (Error.response 501 (.unmatched "CONNECT" "https://A.B:443")),
          s.record "CONNECT" "https://A.B:443" .unmatched) := by
  intro s
  have hn : ¬ s.table.Covers "A.B" 443 :=
    mt Table.isPassthroughAuthority_iff.2 (by decide +kernel)
  have hg := s.gated_handle (r := tunnelTo "A.B:443") rfl rfl
  rw [show String.ofList (Authority.host "A.B:443".toList) = "A.B" by decide] at hg
  exact ⟨⟨by decide, by decide⟩, by decide +kernel, by decide +kernel, hg.refused hn⟩

/-- An address in brackets, in the form in which URLs write it, with user information and a port. -/
theorem tunnel_to_opened_address :
    let a := "me@[::1]:8443".toList
    let s := start .default .loopback
    let xs : List Step := [.passthrough "http://", .respond "GET" "http://c.d/"]
    let s' := ((s.addPassthrough "https://me@[::1]:8443").run xs).2
    Uri.IsAuthority a ∧ (∃ u, Url.parse ("https://".toList ++ a) = some u) ∧
      s'.handle (tunnelTo "me@[::1]:8443") =
        (.tunnel "[::1]" 8443, s'.record "CONNECT" "https://me@[::1]:8443" .passthrough) := by
  intro a s xs s'
  have ha : Uri.IsAuthority a := ⟨by decide, by decide⟩
  have hu : (Url.parse ("https://".toList ++ a)).any fun u =>
      u.host.map Url.Host.toText = some "[::1]".toList := by decide +kernel
  obtain ⟨u, hu, hhost⟩ := (Option.any_eq_true _ _).1 hu
  obtain ⟨port, hask, hall⟩ := s.tunnel_to_opened ha hu
  obtain ⟨-, hcovers, hgated⟩ := hall xs
  obtain rfl : port = 8443 := (hask.getD_port? ha).symm.trans (by decide)
  have hg := hgated (tunnelTo "me@[::1]:8443") rfl rfl
  exact ⟨ha, ⟨u, hu⟩, hg.granted (hcovers.2 (.inl (of_decide_eq_true hhost)))⟩

end Session

end StubProxy
