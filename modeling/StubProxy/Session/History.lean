import StubProxy.Session.Run
import StubProxy.Session.Scope

/-!
# What a step asks for

A step is a request or it prepares the session. Requests are recorded under their method and URL,
and all but requests for a tunnel are looked up under a key; the other steps may register a
directive.
-/

namespace StubProxy

/-- The key that the directive answers. -/
def Directive.key (d : Directive) : Key := Key.of Url.normalize d.method d.url

/-- The key of the request. -/
def Call.key (c : Call) : Key := Key.of Url.normalize c.method c.url

/-- Whether the request was answered from a directive. -/
def Call.isStubbed (c : Call) : Bool :=
  match c.outcome with
  | .stubbed _ => true
  | _ => false

namespace Session.Step

/-- A request for a tunnel. -/
def isTunnel : Step → Bool
  | .request r => r.method = "CONNECT"
  | _ => false

/-- What the history shows of a request: its method and its URL, or the authority of a tunnel. -/
def recorded : Step → Option (String × String)
  | .respond method url => some (method, url)
  | .request r =>
    if r.method = "CONNECT" then
      r.target.authority?.map fun a => ("CONNECT", "https://" ++ String.ofList a)
    else some (r.method, r.url)
  | _ => none

/-- The key that a request is looked up under; tunnels are not looked up. -/
def asked : Step → Option Key
  | .respond method url => some (Key.of Url.normalize method url)
  | .request r =>
    if r.method = "CONNECT" then none else some (Key.of Url.normalize r.method r.url)
  | _ => none

/-- The directive that a step registers. -/
def registered : Step → Option Directive
  | .add r =>
    match r.parse with
    | .ok d => d
    | .error _ => none
  | .register d => some d
  | _ => none

/-- The beginning of URLs that a step leaves to the network. -/
def exempted : Step → Option String
  | .passthrough start => some start
  | _ => none

/-- The answer to a request from a directive. -/
def answerFrom (d : Directive) : Step → Answer
  | .request _ => .handled (.reply d.response)
  | _ => .responded (.ok (some d))

end Session.Step

/-- A scope after steps of its session. -/
def Scope.after (xs : List Session.Step) (sc : Scope) : Scope :=
  { sc with session := sc.session.map fun s => (s.run xs).2 }

end StubProxy
