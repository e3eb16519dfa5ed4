import StubProxy.Session.Basic
import StubProxy.Proxy.Environment
import StubProxy.Proxy.Network

/-!
# Mocking scopes

A scope holds a session and the environment around it, or, when mocking is bypassed, nothing but the
environment. It can be left in several ways:

* `close` reports the verdict of the session, `drop` panics with it;
* `abort` and `unwind` (while another panic is on its way) do not judge at all;
* `within` runs a body in a scope and leaves it one way or the other.

Each of them ends the session, puts the environment back, and lets go of the session once more, to
no effect.
-/

namespace StubProxy

/-- A mocking scope; without a session it is bypassed. -/
structure Scope where
  session : Option Session
  guard : Option ProxyGuard
  env : Environment

/-- How leaving a scope went. -/
inductive Finish (α : Type) where
  | value (a : α)
  | failed (e : Error)
  | panicked (message : String)
  deriving DecidableEq

namespace Scope

/-- The scope in which nothing is intercepted. -/
def bypassed (env : Environment) : Scope := ⟨none, none, env⟩

/-- A scope whose proxy listens, exported to the environment if asked for. -/
def start (net : Network) (options : Options) (env : Environment) : Except Error Scope :=
  match net.listen options.listenAddr with
  | .error e => .error (.io (.system e))
  | .ok address =>
    let s := Session.start options address
    if options.exportProxyEnv then
      let (guard, env) := ProxyGuard.install s.proxyUrl env
      .ok ⟨some s, some guard, env⟩
    else .ok ⟨some s, none, env⟩

/-- Ends the session and restores the environment; the session is judged if asked to. -/
def teardown (verify : Bool) (sc : Scope) : Except Error Unit × Scope :=
  match sc.session with
  | none => (.ok (), sc)
  | some s =>
    let (verdict, s) := s.teardown verify
    (verdict, ⟨some s, none, (sc.guard.map (·.restore sc.env)).getD sc.env⟩)

/--
Lets go of a scope. Its session, if it has not ended before, is judged unless a panic is unwinding,
and a bad verdict is a panic with this message.
-/
def release (unwinding : Bool) (sc : Scope) : Option String × Scope :=
  let (verdict, sc) := sc.teardown (!unwinding)
  match verdict with
  | .error e => (some e.message, sc)
  | .ok () => (none, sc)

/-- Lets go of a scope after it was left with `f`. -/
def settle {α : Type} (f : Finish α) (unwinding : Bool) (sc : Scope) : Finish α × Environment :=
  let (panic, sc) := sc.release unwinding
  ((panic.map .panicked).getD f, sc.env)

/-- Leaves a scope with a value, or with the verdict of its session. -/
def closeWith {α : Type} (a : α) (sc : Scope) : Finish α × Environment :=
  let (verdict, sc) := sc.teardown true
  sc.settle (match verdict with
    | .error e => .failed e
    | .ok () => .value a) false

/-- Leaves a scope with the verdict of its session. -/
def close (sc : Scope) : Finish Unit × Environment := sc.closeWith ()

/-- Leaves a scope without a judgement. -/
def abort (sc : Scope) : Finish Unit × Environment :=
  let (_, sc) := sc.teardown false
  sc.settle (.value ()) false

/-- Leaves a scope; a bad verdict is a panic. -/
def drop (sc : Scope) : Finish Unit × Environment := sc.settle (.value ()) false

/-- Leaves a scope while a panic unwinds. -/
def unwind {α : Type} (message : String) (sc : Scope) : Finish α × Environment :=
  sc.settle (.panicked message) true

/--
Opens a scope with rules, unless mocking is bypassed. At the first bad rule the scope is aborted,
and the error comes with the environment then.
-/
def enter (net : Network) (config : Config) (rules : List Rule) (env : Environment) :
    Except (Error × Environment) Scope :=
  if config.bypass then .ok (bypassed env)
  else match start net config.engine env with
    | .error e => .error (e, env)
    | .ok sc =>
      match sc.session.mapM (Session.addRules rules) with
      | .error e => .error (.rule e, sc.abort.2)
      | .ok session => .ok { sc with session }

/-- Runs a body in a scope. It returns a value or panics with a message. -/
def within {α : Type} (net : Network) (config : Config) (rules : List Rule)
    (body : Scope → Except String α × Scope) (env : Environment) : Finish α × Environment :=
  match enter net config rules env with
  | .error (e, env) => (.failed e, env)
  | .ok sc =>
    let (result, sc) := body sc
    match result with
    | .ok a => sc.closeWith a
    | .error message => sc.unwind message

end Scope

end StubProxy
