import StubProxy.Session.Basic
import StubProxy.Proxy.Stub
import StubProxy.Proxy.Network

/-!
# Requests to the proxy

The proxy answers a request from a directive, forwards it, or refuses it; a request for a tunnel is
granted only to hosts that a passthrough beginning names.

* `Session.handle` decides what happens to a request and records it.
* `Session.reply` is the response on a given network.
-/

namespace StubProxy

open Text

/-- What happens to a request. -/
inductive Action where
  | reply (r : Response)
  | forward (url : String) (r : Request)
  | tunnel (host : String) (port : Nat)

/-- The response that carries an error. -/
def Error.response (status : Nat) (e : Error) : Response := .plain status e.message

/-- A request without the headers of its connection. -/
def Request.forwarded (r : Request) : Request :=
  { r with fields := Fields.stripHopByHop r.fields }

namespace Session

/-- The port of a tunnel that names none. -/
def tunnelPort : Nat := 443

/-- Grants or refuses a tunnel to an authority. -/
def handleTunnel (authority : List Char) (s : Session) : Action × Session :=
  let host := String.ofList (Authority.host authority)
  let port := (Authority.port? authority).getD tunnelPort
  let url := "https://" ++ String.ofList authority
  if s.table.isPassthroughAuthority host port then
    (.tunnel host port, s.record "CONNECT" url .passthrough)
  else
    (.reply (Error.response 501 (.unmatched "CONNECT" url)), s.record "CONNECT" url .unmatched)

/-- Decides what happens to a request and records it. -/
def handle (r : Request) (s : Session) : Action × Session :=
  if r.method = "CONNECT" then
    match r.target.authority? with
    | none => (.reply (.plain 400 "CONNECT without authority"), s)
    | some a => s.handleTunnel a
  else
    let (decision, s) := s.dispatch r.method r.url
    match decision with
    | .stub d => (.reply d.response, s)
    | .passthrough => (.forward r.url r.forwarded, s)
    | .unmatched => (.reply (Error.response 501 (.unmatched r.method r.url)), s)

end Session

/-- The response to a forwarded request. -/
def Network.relay (net : Network) (url : String) (r : Request) : Response :=
  match Uri.read url.toList with
  | .error e =>
    Error.response 502
      (.interceptionFailed ("Invalid passthrough URL " ++ url ++ ": " ++ e.message))
  | .ok _ =>
    match net.forward url r with
    | .ok answer => { answer with fields := Fields.stripHopByHop answer.fields }
    | .error text => Error.response 502 (.interceptionFailed text)

/-- The response to a request on a network; a granted tunnel is an empty one. -/
def Action.response (net : Network) : Action → Response
  | reply r => r
  | forward url r => net.relay url r
  | tunnel _ _ => ⟨200, [], []⟩

/-- The response to a request, and the session after it. -/
def Session.reply (net : Network) (r : Request) (s : Session) : Response × Session :=
  let (action, s) := s.handle r
  (action.response net, s)

end StubProxy
