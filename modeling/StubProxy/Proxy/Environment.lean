/-!
# The proxy environment

Six variables tell clients which proxy to use. An export points four of them at a proxy and unsets
the two that name exceptions; a guard remembers all six as they were and puts them back.
-/

namespace StubProxy

/-- The variables that clients read, in both spellings. -/
inductive ProxyVariable where
  | httpUpper
  | httpLower
  | httpsUpper
  | httpsLower
  | exceptUpper
  | exceptLower
  deriving DecidableEq

namespace ProxyVariable

/-- The name of a variable. -/
def name : ProxyVariable → String
  | httpUpper => "HTTP_PROXY"
  | httpLower => "http_proxy"
  | httpsUpper => "HTTPS_PROXY"
  | httpsLower => "https_proxy"
  | exceptUpper => "NO_PROXY"
  | exceptLower => "no_proxy"

/-- The variables that name the proxy. -/
def proxies : List ProxyVariable := [httpUpper, httpLower, httpsUpper, httpsLower]

/-- The variables that name hosts which are reached without one. -/
def exceptions : List ProxyVariable := [exceptUpper, exceptLower]

/-- All six. -/
def all : List ProxyVariable := proxies ++ exceptions

/-- The variable of a name. -/
def ofName? (n : String) : Option ProxyVariable := all.find? (·.name = n)

end ProxyVariable

/-- The values of the variables that are set. -/
abbrev Environment := ProxyVariable → Option String

namespace Environment

/-- No variable is set. -/
def empty : Environment := fun _ => none

/-- Sets or unsets one variable. -/
def set (e : Environment) (v : ProxyVariable) (value : Option String) : Environment :=
  fun w => if w = v then value else e w

/-- Sets or unsets variables, one after the other. -/
def setAll (e : Environment) (values : List (ProxyVariable × Option String)) : Environment :=
  values.foldl (fun e p => e.set p.1 p.2) e

/-- All clients use the proxy at `url`, for every host. -/
def exportProxy (url : String) (e : Environment) : Environment :=
  (e.setAll (ProxyVariable.proxies.map (·, some url))).setAll
    (ProxyVariable.exceptions.map (·, none))

end Environment

/-- What an export replaced, variable by variable. -/
structure ProxyGuard where
  saved : List (ProxyVariable × Option String)

namespace ProxyGuard

/-- Exports a proxy URL; the guard keeps what was there. -/
def install (url : String) (e : Environment) : ProxyGuard × Environment :=
  (⟨ProxyVariable.all.map fun v => (v, e v)⟩, e.exportProxy url)

/-- Puts back what the guard keeps. -/
def restore (g : ProxyGuard) (e : Environment) : Environment := e.setAll g.saved

end ProxyGuard

/-- An environment and the guards in force, by label. -/
structure GuardedEnvironment where
  env : Environment
  guards : List (String × ProxyGuard)

namespace GuardedEnvironment

/-- What can happen to a guarded environment. -/
inductive Step where
  | set (v : ProxyVariable) (value : Option String)
  | install (label url : String)
  | drop (label : String)

/-- No variable is set and no guard is in force. -/
def empty : GuardedEnvironment := ⟨.empty, []⟩

/-- Takes away the guard of a label. -/
def remove (guards : List (String × ProxyGuard)) (label : String) : List (String × ProxyGuard) :=
  guards.filter (·.1 ≠ label)

/-- One step. A guard whose label is taken over restores its environment after the new export. -/
def step (s : GuardedEnvironment) : Step → GuardedEnvironment
  | .set v value => { s with env := s.env.set v value }
  | .install label url =>
    let (guard, env) := ProxyGuard.install url s.env
    let env := match s.guards.lookup label with
      | some old => old.restore env
      | none => env
    ⟨env, (label, guard) :: remove s.guards label⟩
  | .drop label =>
    match s.guards.lookup label with
    | some guard => ⟨guard.restore s.env, remove s.guards label⟩
    | none => s

end GuardedEnvironment

end StubProxy
