import StubProxy.Url.Percent
import StubProxy.Address.Numeric
import StubProxy.Url.Domain.Basic

/-!
# Hosts

A host is a domain name or a numeric address. Hosts of the web schemes are names in ASCII; other
schemes keep theirs as written.
-/

namespace StubProxy.Url

open Text Address

/-- What stands between the user information and the port. -/
inductive Host where
  | name (s : List Char)
  | ipv4 (n : Nat)
  | ipv6 (groups : List Nat)
  deriving DecidableEq

namespace Host

/-- The text of a host. -/
def toText : Host → List Char
  | name s => s
  | ipv4 n => writeIpv4 n
  | ipv6 groups => '[' :: writeIpv6 groups ++ [']']

/-- An address in brackets. -/
def readBracketed (s : List Char) : Option Host :=
  if s.getLast? = some ']' then (readIpv6 (s.drop 1).dropLast).map ipv6 else none

/-- A host with its percent-encoding undone. -/
def decoded (s : List Char) : List Char :=
  if '%' ∈ s then Utf8.decodeLossy (percentDecode (Utf8.encode s)) else s

/-- The host of a web URL. -/
def read (s : List Char) : Option Host :=
  if s.head? = some '[' then readBracketed s
  else do
    let d ← Domain.toAscii (decoded s)
    if d = [] then none
    else if endsInNumber d then (readLooseIpv4 d).map ipv4
    else some (name d)

/-- The characters that no host may hold, whatever the scheme. -/
def isForbidden (c : Char) : Bool :=
  c ∈ ['\x00', '\t', '\n', '\r', ' ', '#', '/', ':', '<', '>', '?', '@', '[', '\\', ']', '^', '|']

/-- The host of a URL of another scheme. -/
def readOpaque (s : List Char) : Option Host :=
  if s.head? = some '[' then readBracketed s
  else if s.any isForbidden then none
  else some (name (percentEncode isControl s))

end Host

end StubProxy.Url
