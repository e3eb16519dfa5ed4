import StubProxy.Session.History

/-!
# What becomes of requests

The history of a run told by its answers: one event for each request that is recorded, in order. An
answer alone does not tell two equal directives apart, so an event names the one that was served by
the number of registrations before it.

* `Session.handling`: how a request is handled. `Session.events`: the events of a run.
* `Step.Shows`: how the answer to a request shows it.
-/

namespace StubProxy

/-- How a request is handled. -/
inductive Handling where
  /-- It is answered from the directive that was registered behind `number` others. -/
  | served (number : Nat)
  /-- It is left to the network. -/
  | passed
  | refused
  deriving DecidableEq

/-- A request and how it was handled. -/
structure Event where
  method : String
  url : String
  handling : Handling
  deriving DecidableEq

namespace Event

/-- Whether the request was refused. -/
def isRefused (e : Event) : Bool := e.handling = .refused

/-- Whether the request was answered from the directive behind `number` others. -/
def isServedFrom (number : Nat) (e : Event) : Bool := e.handling = .served number

/-- Method and URL in one line. -/
def summary (e : Event) : String := e.method ++ " " ++ e.url

end Event

namespace Session

/-- Whether an answer leaves the request to the network. -/
def Answer.isPassed : Answer → Bool
  | .responded (.ok none) => true
  | .handled (.forward _ _) => true
  | .handled (.tunnel _ _) => true
  | _ => false

/-- The answer to a request that is left to the network. -/
def Step.passage : Step → Answer
  | .request r =>
    if r.method = "CONNECT" then
      let a := r.target.authority?.getD []
      .handled (.tunnel (String.ofList (Authority.host a))
        ((Authority.port? a).getD tunnelPort))
    else .handled (.forward r.url r.forwarded)
  | _ => .responded (.ok none)

/-- Whether a table leaves a request to the network: by its URL, or a tunnel by host and port. -/
def Step.isExempt (t : Table) : Step → Bool
  | .respond _ url => t.isPassthrough url
  | .request r =>
    if r.method = "CONNECT" then
      r.target.authority?.any fun a =>
        t.isPassthroughAuthority (String.ofList (Authority.host a))
          ((Authority.port? a).getD tunnelPort)
    else t.isPassthrough r.url
  | _ => false

/-- The answer to a request that is refused. -/
def Step.refusal (method url : String) : Step → Answer
  | .request _ => .handled (.reply (Error.response 501 (.unmatched method url)))
  | _ => .responded (.error (.unmatched method url))

/-- How a request is handled: by the route that is chosen for its key, if there is one; else its
answer tells. -/
def handling (s : Session) (x : Step) : Handling :=
  match x.asked.bind s.table.choose with
  | some i => .served i
  | none => if (s.step x).1.isPassed then .passed else .refused

/-- The event of a step, if it is a request that is recorded. -/
def event (s : Session) (x : Step) : Option Event :=
  x.recorded.map fun q => ⟨q.1, q.2, s.handling x⟩

/-- The events of steps in order. -/
def events (s : Session) : List Step → List Event
  | [] => []
  | x :: xs => (s.event x).toList ++ (s.step x).2.events xs

/-- An answer shows how the request was handled, where `ds` were registered before it. -/
def Step.Shows (ds : List Directive) (x : Step) (a : Answer) (e : Event) : Prop :=
  match e.handling with
  | .served i => ∃ d, ds[i]? = some d ∧ a = x.answerFrom d
  | .passed => a.isPassed
  | .refused => a = x.refusal e.method e.url

end Session

end StubProxy
