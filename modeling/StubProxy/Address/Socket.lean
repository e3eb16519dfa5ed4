import StubProxy.Address.Numeric

/-!
# Socket addresses

A numeric address with a port: `127.0.0.1:80`, `[::1]:80`, or with a scope `[fe80::1%3]:80`.
-/

namespace StubProxy

open Text Address

/-- An address to listen on. -/
inductive SocketAddress where
  | v4 (ip port : Nat)
  | v6 (groups : List Nat) (scope port : Nat)
  deriving DecidableEq

namespace SocketAddress

/-- A number of decimal digits below a bound; zeros in front do not matter. -/
def readBelow (bound : Nat) (s : List Char) : Option Nat :=
  if s = [] then none else (readDigits 10 digit? 0 s).filter (· < bound)

/-- What stands between the brackets: eight groups and perhaps a scope. -/
def readScoped (s : List Char) : Option (List Nat × Nat) := do
  let (address, scope) ← match splitFirst ['%'] s with
    | none => some (s, 0)
    | some (a, t) => (readBelow 4294967296 t).map fun n => (a, n)
  (readIpv6 address).map (·, scope)

/-- The address that a text writes. -/
def read (s : List Char) : Option SocketAddress :=
  match s with
  | '[' :: r => do
    let (inside, tail) ← splitFirst [']', ':'] r
    let (groups, scope) ← readScoped inside
    (readBelow 65536 tail).map (v6 groups scope)
  | _ => do
    let (ip, tail) ← splitFirst [':'] s
    let ip ← readIpv4 ip
    (readBelow 65536 tail).map (v4 ip)

/-- Eight groups as text; an embedded address of four bytes is shown as such. -/
def writeGroups (groups : List Nat) : List Char :=
  match groups with
  | [0, 0, 0, 0, 0, 0xFFFF, a, b] => "::ffff:".toList ++ writeIpv4 (65536 * a + b)
  | _ => writeIpv6 groups

/-- The text of an address. -/
def toText : SocketAddress → List Char
  | v4 ip port => writeIpv4 ip ++ ':' :: decimal port
  | v6 groups scope port =>
    '[' :: writeGroups groups ++ (if scope = 0 then [] else '%' :: decimal scope)
      ++ [']', ':'] ++ decimal port

/-- The text of an address. -/
def toString (a : SocketAddress) : String := String.ofList a.toText

/-- The loopback address with any free port. -/
def loopback : SocketAddress := v4 0x7F000001 0

/-- The port; 0 asks for any free one. -/
def port : SocketAddress → Nat
  | v4 _ port => port
  | v6 _ _ port => port

/-- The same host with another port. -/
def withPort : SocketAddress → Nat → SocketAddress
  | v4 ip _, port => v4 ip port
  | v6 groups scope _, port => v6 groups scope port

end SocketAddress

end StubProxy
