import StubProxy.Proxy.Message
import StubProxy.Address.Socket
import StubProxy.Error

/-!
# The network around a proxy

What the network answers, as data: which addresses can be listened on, whether clients reach the
proxy, and what the real destinations answer to forwarded and to tunnelled requests.

`Network.isolated` is the network of a host without any interface.
-/

namespace StubProxy

/-- The behaviour of a network. -/
structure Network where
  /-- The address that listening on one gives, with a port. -/
  listen : SocketAddress → Except SystemError SocketAddress
  /-- Whether a client reaches an address. -/
  reach : SocketAddress → Except SystemError Unit
  /-- What the destination of a URL answers to a forwarded request; else why there is no answer. -/
  forward : String → Request → Except String Response
  /-- What a host and port answer to a request through a tunnel, if anything does. -/
  tunnel : String → Nat → Request → Option Response

namespace Network

/-- The port that is given to those who ask for any. -/
def freePort : Nat := 49152

/-- An address with a port. -/
def assign (a : SocketAddress) : SocketAddress := if a.port = 0 then a.withPort freePort else a

/--
No interface is up. Addresses of four bytes can be listened on, others only if unspecified; no
address is ever reached.
-/
def isolated : Network where
  listen a := match a with
    | .v4 _ _ => .ok (assign a)
    | .v6 groups _ _ =>
      if groups.all (· = 0) || groups.take 6 = [0, 0, 0, 0, 0, 0xFFFF] then .ok (assign a)
      else .error .addressNotAvailable
  reach _ := .error .networkUnreachable
  forward _ _ := .error "Passthrough request failed: client error (Connect)"
  tunnel _ _ _ := none

end Network

end StubProxy
