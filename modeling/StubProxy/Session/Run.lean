import StubProxy.Proxy.Action

/-!
# Runs of a session

Everything that can happen to a live session, one step at a time. `Session.step` gives the answer to
a step and the session after it, and `Session.run` folds it over a history of any length.
-/

namespace StubProxy

namespace Session

/-- What can happen to a session. -/
inductive Step where
  | add (r : Rule)
  | register (d : Directive)
  | passthrough (start : String)
  | respond (method url : String)
  /-- A request to the proxy, for a tunnel or not. -/
  | request (r : Request)

/-- The answer to a step. -/
inductive Answer where
  /-- Whether a directive was registered. -/
  | added (r : Except RuleError Bool)
  | done
  /-- A directive to answer from; none if the network is to answer. -/
  | responded (r : Except Error (Option Directive))
  | handled (a : Action)

/-- Adds a rule; a bad one changes nothing. -/
def tryAdd (r : Rule) (s : Session) : Except RuleError Bool × Session :=
  match s.addRule r with
  | .error e => (.error e, s)
  | .ok (added, s) => (.ok added, s)

/-- One step. -/
def step (s : Session) : Step → Answer × Session
  | .add r =>
    let (added, s) := s.tryAdd r
    (.added added, s)
  | .register d => (.done, s.register d)
  | .passthrough start => (.done, s.addPassthrough start)
  | .respond method url =>
    let (found, s) := s.respond method url
    (.responded found, s)
  | .request r =>
    let (action, s) := s.handle r
    (.handled action, s)

/-- The answers to steps in order, and the session after them. -/
def run (s : Session) : List Step → List Answer × Session
  | [] => ([], s)
  | x :: xs =>
    let (a, s) := s.step x
    let (as, s) := s.run xs
    (a :: as, s)

end Session

end StubProxy
