import StubProxy.Proxy.Action

/-!
# Clients of the proxy

A client first has to reach the proxy. What it sends may be no request at all; otherwise it gets the
reply of the session, or a tunnel on which it sends a second request to the host behind.
-/

namespace StubProxy

/-- A request as a client writes it. -/
structure RawRequest where
  method : String
  target : String
  fields : List (String × List UInt8)
  body : List UInt8

/-- The request that the proxy reads, if it is one. -/
def RawRequest.read (r : RawRequest) : Option Request := do
  let target ← (Uri.read r.target.toList).toOption
  let fields ← r.fields.mapM fun f => Field.read f.1 f.2
  if Field.isToken r.method.toList then some ⟨r.method, target, fields, r.body⟩ else none

/-- A request that goes through a tunnel. -/
def RawRequest.tunneled (path : String) : RawRequest :=
  ⟨"GET", path, [("host", Text.Utf8.encode "tunnel".toList)], []⟩

/-- A response without a body. -/
def Response.bare (status : Nat) : Response := ⟨status, [], []⟩

/-- What arrives of a response: some never have a body. -/
def Response.received (method : String) (r : Response) : Response :=
  if method = "HEAD" ∨ r.status = 204 ∨ r.status = 304 then { r with body := [] } else r

/-- What a client that asks for a tunnel gets. -/
inductive TunnelReply where
  | refused (r : Response)
  /-- The tunnel is open; behind it there may be nobody. -/
  | opened (behind : Option Response)

namespace Session

/-- Sends a request to the proxy of a session. -/
def send (net : Network) (raw : RawRequest) (s : Session) :
    Except SystemError (Response × Session) :=
  match net.reach s.address, raw.read with
  | .error e, _ => .error e
  | .ok (), none => .ok (.bare 400, s)
  | .ok (), some r =>
    let (response, s) := s.reply net r
    .ok (response.received r.method, s)

/-- Asks the proxy of a session for a tunnel and sends a request for `path` through it. -/
def connect (net : Network) (authority path : String) (s : Session) :
    Except SystemError (TunnelReply × Session) :=
  match net.reach s.address, RawRequest.read ⟨"CONNECT", authority, [], []⟩ with
  | .error e, _ => .error e
  | .ok (), none => .ok (.refused (.bare 400), s)
  | .ok (), some r =>
    let (action, s) := s.handle r
    .ok (match action with
      | .tunnel host port => .opened ((RawRequest.tunneled path).read.bind (net.tunnel host port))
      | action => .refused (action.response net), s)

end Session

end StubProxy
