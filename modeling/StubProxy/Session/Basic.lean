import StubProxy.Session.Call
import StubProxy.Route.Table
import StubProxy.Config.Basic
import StubProxy.Rule.Basic
import StubProxy.Error

/-!
# Sessions

A session routes requests and keeps their history. At its end it is judged: requests that matched
nothing come first, then directives that were never served.

* `Session.dispatch` decides a request and records it; directives win over passthrough.
* `Session.verdict` is what closing reports.
* `Session.teardown` ends a session; ending it again does nothing.
-/

namespace StubProxy

/-- A session: its options, where its proxy listens, its routes and its history. -/
structure Session where
  options : Options
  address : SocketAddress
  table : Table
  calls : List Call
  /-- Whether it has not been torn down yet. -/
  live : Bool

/-- What a request is answered with. -/
inductive Decision where
  | stub (d : Directive)
  | passthrough
  | unmatched
  deriving DecidableEq

/-- The outcome that the history shows. -/
def Decision.outcome : Decision → Outcome
  | stub d => .stubbed d.status
  | passthrough => .passthrough
  | unmatched => .unmatched

namespace Session

/-- A new session on an address. -/
def start (options : Options) (address : SocketAddress) : Session :=
  ⟨options, address, .empty options.strictOrder, [], true⟩

/-- The URL of the proxy. -/
def proxyUrl (s : Session) : String := "http://" ++ s.address.toString

/-- The URL of a path on the proxy itself. -/
def urlOf (s : Session) (path : String) : String := s.proxyUrl ++ path

/-- Registers a directive. -/
def register (d : Directive) (s : Session) : Session :=
  { s with table := s.table.add Url.normalize d }

/-- Reads a rule and registers its directive; `false` for the empty rule. -/
def addRule (r : Rule) (s : Session) : Except RuleError (Bool × Session) :=
  match r.parse with
  | .error e => .error e
  | .ok none => .ok (false, s)
  | .ok (some d) => .ok (true, s.register d)

/-- Registers rules in order, up to the first bad one. -/
def addRules : List Rule → Session → Except RuleError Session
  | [], s => .ok s
  | r :: rs, s =>
    match s.addRule r with
    | .error e => .error e
    | .ok (_, s) => addRules rs s

/-- Leaves the URLs that begin with `start` to the network. -/
def addPassthrough (start : String) (s : Session) : Session :=
  { s with table := s.table.addPassthrough start }

/-- Adds an entry to the history. -/
def record (method url : String) (outcome : Outcome) (s : Session) : Session :=
  { s with calls := s.calls ++ [⟨method, url, outcome⟩] }

/-- Decides a request and records it. -/
def dispatch (method url : String) (s : Session) : Decision × Session :=
  let (found, table) := s.table.lookup Url.normalize method url
  let decision := match found with
    | some d => .stub d
    | none => if table.isPassthrough url then .passthrough else .unmatched
  (decision, { s with table }.record method url decision.outcome)

/-- Answers a request in place; `none` leaves it to the network. -/
def respond (method url : String) (s : Session) : Except Error (Option Directive) × Session :=
  let (decision, s) := s.dispatch method url
  (match decision with
    | .stub d => .ok (some d)
    | .passthrough => .ok none
    | .unmatched => .error (.unmatched method url), s)

/-- The requests that matched nothing. -/
def unmatched (s : Session) : List Call := s.calls.filter Call.isUnmatched

/-- What closing reports. -/
def verdict (s : Session) : Except Error Unit :=
  if s.options.failOnUnmatched && !s.unmatched.isEmpty then
    .error (.unmatchedRequests (s.unmatched.map Call.summary))
  else if s.options.assertAllFired && !s.table.unfired.isEmpty then
    .error (.unfiredDirectives (s.table.unfired.map Route.summary))
  else .ok ()

/-- Ends a session, judging it if asked to. A session that has ended is not judged again. -/
def teardown (verify : Bool) (s : Session) : Except Error Unit × Session :=
  if s.live then
    (if verify then s.verdict else .ok (), { s with table := s.table.clear, live := false })
  else (.ok (), s)

end Session

end StubProxy
