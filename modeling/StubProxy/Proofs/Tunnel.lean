import StubProxy.Proofs.AcceptedAuthority
import StubProxy.Proofs.Numeral
import StubProxy.Proxy.Action

/-!
# Who gets a tunnel

A request for a tunnel is granted to a host and a port that some passthrough beginning covers.

* `Authority.WritesPort`: the text that an authority writes as its port, behind its host.
* `Authority.Asks`: the port that an authority asks for.
* `Authority.Misnumbered`: an authority that asks for none, although it writes one. What stands
  there is no number of 16 bits, as in `a.b:70443` or `a.b:8443[]`.
* `Table.Covers`: the hosts and ports of the passthrough beginnings.
* `Session.handle_tunnel`: what an authority asks for is what the tables are searched for. What a
  misnumbered one writes is passed over: only a number behind the last colon counts, or else 443.
-/

namespace StubProxy

open Text

namespace Authority

variable {a text text' : List Char} {n : Nat}

/-- What stands behind the host of an authority. -/
def behindHost (a : List Char) : List Char := (afterLast '@' a).drop (host a).length

/-- What the authority writes as its port: the text behind the first colon behind its host. -/
def WritesPort (a text : List Char) : Prop := ∃ gap, ':' ∉ gap ∧ behindHost a = gap ++ ':' :: text

/-- The port that an authority asks for: the number that it writes, and 443 if it writes none. -/
inductive Asks (a : List Char) : Nat → Prop
  | written {text : List Char} {n : Nat} : WritesPort a text → Writes16 text n → Asks a n
  | empty : WritesPort a [] → Asks a 443
  | absent : (∀ text, ¬ WritesPort a text) → Asks a 443

/-- The authority writes a port that is no number of 16 bits. -/
def Misnumbered (a : List Char) : Prop :=
  ∃ text, WritesPort a text ∧ text ≠ [] ∧ ∀ n, ¬ Writes16 text n

/-- Behind the last colon of the authority, wherever this is, stands a number of 16 bits. -/
def EndsIn (a : List Char) (n : Nat) : Prop :=
  ∃ front text, a = front ++ ':' :: text ∧ Writes16 text n

/-! ## The end of an authority -/

/-- Text without the mark, at the end, stays at the end. -/
theorem afterLast_concat {c : Char} (hc : c ∉ text) (front : List Char) :
    afterLast c (front ++ text) = afterLast c front ++ text := by
  have ht : ∀ d ∈ text.reverse, decide (d ≠ c) = true := by
    intro d hd
    simpa using ne_of_mem_of_not_mem (List.mem_reverse.1 hd) hc
  simp only [afterLast, List.reverse_append, List.takeWhile_append_of_pos ht, List.reverse_reverse]

theorem afterLast_append {c : Char} (hc : c ∉ text) (front : List Char) :
    afterLast c (front ++ c :: text) = text := by
  have hmark : afterLast c (front ++ [c]) = [] := by simp [afterLast]
  rw [List.append_cons, afterLast_concat hc, hmark, List.nil_append]

theorem afterLast_of_not_mem {c : Char} (h : c ∉ a) : afterLast c a = a := afterLast_concat h []

/-- What stands behind the last mark is the end of the text. -/
theorem afterLast_suffix (c : Char) (a : List Char) : ∃ front, a = front ++ afterLast c a := by
  refine ⟨(a.reverse.dropWhile (· ≠ c)).reverse, ?_⟩
  rw [afterLast, ← List.reverse_append, List.takeWhile_append_dropWhile, List.reverse_reverse]

theorem mem_of_getLast? {c d : Char} {front : List Char} (hcd : c ≠ d)
    (h : (front ++ c :: text).getLast? = some d) : d ∈ text := by
  rcases List.eq_nil_or_concat text with rfl | ⟨s, e, rfl⟩
  · rw [List.getLast?_concat] at h
    exact absurd (Option.some.inj h) hcd
  · rw [List.concat_eq_append] at h ⊢
    rw [← List.cons_append, ← List.append_assoc, List.getLast?_concat] at h
    simp [Option.some.inj h]

/-! ## The host -/

/-- A host in brackets ends where they close. -/
theorem bracketed (ha : Uri.IsAuthority a) (h : (afterLast '@' a).head? = some '[') :
    ∃ inner, ']' ∉ inner ∧ '[' ∉ behindHost a ∧ host a = '[' :: inner ++ [']'] ∧
      afterLast '@' a = '[' :: inner ++ ']' :: behindHost a := by
  obtain ⟨s, hs⟩ := List.head?_eq_some_iff.1 h
  obtain ⟨user, huser⟩ := afterLast_suffix '@' a
  rw [hs] at huser
  have hclose : ']' ∈ s := (huser ▸ ha).closes
  have honce : '[' ∉ s := (huser ▸ ha).opens_once
  obtain ⟨inner, rest, rfl, hinner⟩ := List.eq_append_cons_of_mem hclose
  have hhost : host a = '[' :: inner ++ [']'] := by
    have hopen : ']' ∉ '[' :: inner := by
      rw [List.mem_cons, not_or]
      exact ⟨by decide, hinner⟩
    have htake := takeWhile_ne_append hopen rest
    simp only [host, hs, List.head?_cons, if_true]
    exact congrArg (· ++ [']']) htake
  have hsplit : afterLast '@' a = host a ++ rest := by
    rw [hs, hhost]
    simp
  have hbehind : behindHost a = rest := by
    rw [behindHost, hsplit]
    exact List.drop_left
  rw [hbehind]
  refine ⟨inner, hinner, fun hm => honce ?_, hhost, by rw [hs]; rfl⟩
  simp [hm]

/-- Any other host ends at the first colon. -/
theorem plain (h : (afterLast '@' a).head? ≠ some '[') :
    host a = (afterLast '@' a).takeWhile (· ≠ ':') ∧
      behindHost a = (afterLast '@' a).dropWhile (· ≠ ':') := by
  have hhost : host a = (afterLast '@' a).takeWhile (· ≠ ':') := if_neg h
  refine ⟨hhost, ?_⟩
  have hsplit : host a ++ (afterLast '@' a).dropWhile (· ≠ ':') = afterLast '@' a := by
    rw [hhost, List.takeWhile_append_dropWhile]
  have hprefix : host a <+: afterLast '@' a := ⟨_, hsplit⟩
  exact List.append_cancel_left ((List.prefix_iff_eq_append.1 hprefix).trans hsplit.symm)

/-- Behind user information stand the host and what is behind it. -/
theorem host_append_behindHost (ha : Uri.IsAuthority a) :
    host a ++ behindHost a = afterLast '@' a := by
  by_cases h : (afterLast '@' a).head? = some '['
  · obtain ⟨inner, -, -, hhost, hall⟩ := bracketed ha h
    rw [hall, hhost]
    simp
  · obtain ⟨hhost, hbehind⟩ := plain h
    rw [hhost, hbehind, List.takeWhile_append_dropWhile]

/-- A host that holds a colon is in brackets. -/
theorem getLast_host (ha : Uri.IsAuthority a) (hc : ':' ∈ host a) :
    (host a).getLast? = some ']' := by
  by_cases h : (afterLast '@' a).head? = some '['
  · obtain ⟨inner, -, -, hhost, -⟩ := bracketed ha h
    rw [hhost, List.getLast?_concat]
  · rw [(plain h).1] at hc
    exact absurd (List.mem_takeWhile_imp hc) (by decide)

/-! ## The port -/

/-- An authority writes one port at most. -/
theorem WritesPort.unique (h : WritesPort a text) (h' : WritesPort a text') : text = text' := by
  obtain ⟨gap, hgap, hb⟩ := h
  obtain ⟨gap', hgap', hb'⟩ := h'
  have hsplit := splitAtSymbol_append (b := text) hgap
  rw [← hb, hb', splitAtSymbol_append hgap'] at hsplit
  exact (Prod.mk.inj hsplit).2.symm

/-- The port ends the authority. -/
theorem WritesPort.exists_front (ha : Uri.IsAuthority a) (h : WritesPort a text) :
    ∃ front, a = front ++ ':' :: text := by
  obtain ⟨gap, -, hb⟩ := h
  obtain ⟨user, huser⟩ := afterLast_suffix '@' a
  refine ⟨user ++ host a ++ gap, ?_⟩
  rw [← host_append_behindHost ha, hb] at huser
  exact huser.trans (by simp only [List.append_assoc])

theorem writes16_ne_nil (h : Writes16 text n) : text ≠ [] := by
  obtain ⟨digits, rfl | rfl, hne, -⟩ := h
  · exact hne
  · exact List.cons_ne_nil _ _

theorem isDigit_delimits {c : Char} (hc : c.isDigit) : c ≠ ':' ∧ c ≠ '@' ∧ c ≠ ']' := by
  refine ⟨?_, ?_, ?_⟩ <;> rintro rfl <;> exact absurd hc (by decide)

/-- A number holds nothing that delimits a port. -/
theorem writes16_delimits (h : Writes16 text n) : ':' ∉ text ∧ '@' ∉ text ∧ ']' ∉ text := by
  obtain ⟨digits, hs, -, hd, -⟩ := h
  have hall : ∀ c ∈ text, c ≠ ':' ∧ c ≠ '@' ∧ c ≠ ']' := by
    intro c hc
    rcases hs with rfl | rfl
    · exact isDigit_delimits (hd c hc)
    · rcases List.mem_cons.1 hc with rfl | hc
      · decide
      · exact isDigit_delimits (hd c hc)
  exact ⟨fun h => (hall _ h).1 rfl, fun h => (hall _ h).2.1 rfl, fun h => (hall _ h).2.2 rfl⟩

/-- **The port that is read** is the number behind the last colon. -/
theorem port?_eq_some : port? a = some n ↔ EndsIn a n := by
  constructor
  · intro h
    unfold port? at h
    split at h
    · rename_i hc
      -- the last colon is the first one from behind
      obtain ⟨back, front, hr, hback⟩ := List.eq_append_cons_of_mem (List.mem_reverse.2 hc)
      have ha : a = front.reverse ++ ':' :: back.reverse := by
        rw [← List.reverse_reverse a, hr]
        simp
      have hback : ':' ∉ back.reverse := by simpa using hback
      rw [ha, afterLast_append hback] at h
      have hw : Writes16 back.reverse n := by
        rw [← readWord16_eq_ok]
        cases hr : readWord16 back.reverse with
        | error fault => rw [hr] at h; cases h
        | ok m => rw [hr] at h; exact congrArg Except.ok (Option.some.inj h)
      exact ⟨front.reverse, back.reverse, ha, hw⟩
    · cases h
  · rintro ⟨front, text, rfl, hw⟩
    rw [port?, if_pos (by simp), afterLast_append (writes16_delimits hw).1, readWord16_eq_ok.2 hw]
    rfl

theorem port?_eq_none (h : ∀ n, ¬ EndsIn a n) : port? a = none := by
  cases hp : port? a with
  | none => rfl
  | some n => exact absurd (port?_eq_some.1 hp) (h n)

/-- Where no port is written, no number ends the authority: a colon in user information or in the
brackets of the host has more behind it than a number. -/
theorem not_endsIn_of_absent (ha : Uri.IsAuthority a) (h : ∀ text, ¬ WritesPort a text) :
    ¬ EndsIn a n := by
  rintro ⟨front, text, hfront, hw⟩
  obtain ⟨hcolon, hat, hclose⟩ := writes16_delimits hw
  have hbehind : ':' ∉ behindHost a := by
    intro hc
    obtain ⟨gap, text, hb, hgap⟩ := List.eq_append_cons_of_mem hc
    exact h text ⟨gap, hgap, hb⟩
  have hhost := host_append_behindHost ha
  have hlast : afterLast '@' a = afterLast '@' front ++ ':' :: text := by
    rw [hfront]
    apply afterLast_concat
    rw [List.mem_cons, not_or]
    exact ⟨by decide, hat⟩
  rw [hlast, List.append_eq_append_iff] at hhost
  rcases hhost with ⟨k, -, hk⟩ | ⟨k, hk, hrest⟩
  · exact hbehind (by rw [hk]; simp)
  · cases k with
    | nil => exact hbehind (by rw [← List.nil_append (behindHost a), ← hrest]; simp)
    | cons c k =>
      obtain ⟨rfl, htext⟩ := List.cons.inj hrest
      -- the colon stands in the host, which closes behind it and so within the number
      have hend := getLast_host ha (by rw [hk]; simp)
      rw [hk] at hend
      have hmem : ']' ∈ k := mem_of_getLast? (by decide) hend
      exact hclose (by rw [htext]; exact List.mem_append_left _ hmem)

/-- What an authority asks for is what is looked for. -/
theorem Asks.getD_port? (ha : Uri.IsAuthority a) (h : Asks a n) : (port? a).getD 443 = n := by
  cases h with
  | written hp hw =>
    obtain ⟨front, hfront⟩ := hp.exists_front ha
    rw [port?_eq_some.2 ⟨front, _, hfront, hw⟩]
    rfl
  | empty hp =>
    rw [port?_eq_none]
    · rfl
    · rintro m ⟨front, text, hfront, hw⟩
      obtain ⟨front', hfront'⟩ := hp.exists_front ha
      have hlast := afterLast_append (writes16_delimits hw).1 front
      rw [← hfront, hfront', afterLast_append List.not_mem_nil] at hlast
      exact writes16_ne_nil hw hlast.symm
  | absent hn =>
    rw [port?_eq_none]
    · rfl
    · exact fun m => not_endsIn_of_absent ha hn

/-- An authority asks for a port unless it is misnumbered. -/
theorem misnumbered_iff : Misnumbered a ↔ ∀ n, ¬ Asks a n := by
  constructor
  · rintro ⟨text, hp, hne, hn⟩ n hask
    cases hask with
    | written hp' hw => exact hn n (hp'.unique hp ▸ hw)
    | empty hp' => exact hne (hp.unique hp')
    | absent hno => exact hno text hp
  · intro h
    by_cases hp : ∃ text, WritesPort a text
    · obtain ⟨text, hp⟩ := hp
      refine ⟨text, hp, ?_, fun n hw => h n (.written hp hw)⟩
      rintro rfl
      exact h 443 (.empty hp)
    · exact absurd (.absent fun text ht => hp ⟨text, ht⟩) (h 443)

-- brackets that are no address stand behind the port, and belong to what is written there
example : Misnumbered "a.b:8443[]".toList := by
  refine ⟨"8443[]".toList, ⟨[], by decide, by decide⟩, by decide, ?_⟩
  intro n hw
  cases readWord16_eq_ok.2 hw

end Authority

/-- A passthrough beginning is a URL of this host and port, which is written there or goes without
saying. -/
def Table.Covers (t : Table) (host : String) (port : Nat) : Prop :=
  ∃ start ∈ t.passthrough, ∃ u h, Url.parse start.toList = some u ∧ u.host = some h ∧
    h.toText = host.toList ∧ u.effectivePort = some port

theorem Table.isPassthroughAuthority_iff {t : Table} {host : String} {port : Nat} :
    t.isPassthroughAuthority host port ↔ t.Covers host port := by
  unfold isPassthroughAuthority Covers
  simp only [List.any_eq_true, Option.any_eq_true, Bool.and_eq_true, decide_eq_true_eq]
  constructor
  · rintro ⟨start, hs, u, hu, ⟨h, hh, ht⟩, hp⟩
    exact ⟨start, hs, u, h, hu, hh, ht, hp⟩
  · rintro ⟨start, hs, u, h, hu, hh, ht, hp⟩
    exact ⟨start, hs, u, hu, ⟨h, hh, ht⟩, hp⟩

namespace Session

/-- A tunnel is opened to what the table covers, and recorded as passed through. To all else it is
refused as a request that matches nothing, and recorded as such. -/
structure Gated (s : Session) (host : String) (port : Nat) (url : String)
    (outcome : Action × Session) : Prop where
  granted : s.table.Covers host port →
    outcome = (.tunnel host port, s.record "CONNECT" url .passthrough)
  refused : ¬ s.table.Covers host port →
    outcome = (.reply (Error.response 501 (.unmatched "CONNECT" url)),
      s.record "CONNECT" url .unmatched)

/-- The gate looks for the port that the authority is read with, or else for 443. -/
theorem gated_handle (s : Session) {r : Request} {a : List Char} (hm : r.method = "CONNECT")
    (ha : r.target.authority? = some a) :
    s.Gated (String.ofList (Authority.host a)) ((Authority.port? a).getD 443)
      ("https://" ++ String.ofList a) (s.handle r) := by
  have hh : s.handle r = s.handleTunnel a := by
    rw [handle, if_pos hm, ha]
  rw [hh]
  constructor
  · intro h
    exact if_pos (Table.isPassthroughAuthority_iff.2 h)
  · intro h
    exact if_neg (mt Table.isPassthroughAuthority_iff.1 h)

/-- **Who gets a tunnel**: whoever asks for a host and a port that are covered, and nobody else.
Only an authority that is misnumbered is treated as one that asks for another port than it writes:
for the number behind its last colon, and for port 443 where there is none. -/
theorem handle_tunnel (s : Session) (r : Request) {target a : List Char} (hm : r.method = "CONNECT")
    (hr : Uri.read target = .ok r.target) (ha : r.target.authority? = some a) :
    let host := String.ofList (Authority.host a)
    let url := "https://" ++ String.ofList a
    (∀ port, Authority.Asks a port → s.Gated host port url (s.handle r)) ∧
      (Authority.Misnumbered a ↔ ∀ port, ¬ Authority.Asks a port) ∧
      (Authority.Misnumbered a →
        (∀ port, Authority.EndsIn a port → s.Gated host port url (s.handle r)) ∧
          ((∀ port, ¬ Authority.EndsIn a port) → s.Gated host 443 url (s.handle r))) := by
  intro host url
  have hg := s.gated_handle hm ha
  refine ⟨?_, Authority.misnumbered_iff, fun _ => ⟨?_, ?_⟩⟩
  · intro port hask
    rwa [hask.getD_port? (Uri.isAuthority_of_read hr ha)] at hg
  · intro port hend
    rwa [Authority.port?_eq_some.2 hend] at hg
  · intro hno
    rwa [Authority.port?_eq_none hno] at hg

/-- A request for a tunnel to an authority. -/
def tunnelTo (authority : String) : Request :=
  ⟨"CONNECT", .authority authority.toList, [], []⟩

/-- The port that the authority writes is no port, and the tunnel is opened to another one. -/
theorem misnumbered_port_gets_tunnel :
    let s := (start .default .loopback).addPassthrough "https://a.b/"
    Uri.read "a.b:70443".toList = .ok (tunnelTo "a.b:70443").target ∧
      Authority.Misnumbered "a.b:70443".toList ∧
      s.handle (tunnelTo "a.b:70443") =
        (.tunnel "a.b" 443, s.record "CONNECT" "https://a.b:70443" .passthrough) := by
  intro s
  have hc : s.table.Covers "a.b" 443 := Table.isPassthroughAuthority_iff.1 (by decide +kernel)
  have hp : Authority.WritesPort "a.b:70443".toList "70443".toList :=
    ⟨[], List.not_mem_nil, by decide⟩
  have hn : ∀ n, ¬ Writes16 "70443".toList n := by
    intro n hw
    cases readWord16_eq_ok.2 hw
  have hg := s.gated_handle (r := tunnelTo "a.b:70443") rfl rfl
  rw [show String.ofList (Authority.host "a.b:70443".toList) = "a.b" by decide] at hg
  exact ⟨by decide, ⟨_, hp, by decide, hn⟩, hg.granted hc⟩

/-- With the port written there is a tunnel to this port; without one, 443 is not covered. -/
theorem handle_tunnel_written_port :
    let s := (start .default .loopback).addPassthrough "https://a.b:8443/x"
    (tunnelTo "a.b:8443").method = "CONNECT" ∧
      Uri.read "a.b:8443".toList = .ok (tunnelTo "a.b:8443").target ∧
      (tunnelTo "a.b:8443").target.authority? = some "a.b:8443".toList ∧
      s.handle (tunnelTo "a.b:8443") =
        (.tunnel "a.b" 8443, s.record "CONNECT" "https://a.b:8443" .passthrough) ∧
      s.handle (tunnelTo "a.b:") =
        (.reply (Error.response 501 (.unmatched "CONNECT" "https://a.b:")),
          s.record "CONNECT" "https://a.b:" .unmatched) := by
  intro s
  have hp : Authority.WritesPort "a.b:8443".toList "8443".toList :=
    ⟨[], List.not_mem_nil, by decide⟩
  have hw : Authority.Asks "a.b:8443".toList 8443 := .written hp (readWord16_eq_ok.1 rfl)
  have he : Authority.Asks "a.b:".toList 443 := .empty ⟨[], List.not_mem_nil, by decide⟩
  have hc : s.table.Covers "a.b" 8443 := Table.isPassthroughAuthority_iff.1 (by decide +kernel)
  have hn : ¬ s.table.Covers "a.b" 443 :=
    mt Table.isPassthroughAuthority_iff.2 (by decide +kernel)
  have hread : Uri.read "a.b:8443".toList = .ok (tunnelTo "a.b:8443").target := by decide
  have hbare : Uri.read "a.b:".toList = .ok (tunnelTo "a.b:").target := by decide
  exact ⟨rfl, hread, rfl,
    ((s.handle_tunnel (tunnelTo "a.b:8443") rfl hread rfl).1 8443 hw).granted hc,
    ((s.handle_tunnel (tunnelTo "a.b:") rfl hbare rfl).1 443 he).refused hn⟩

end Session

end StubProxy
