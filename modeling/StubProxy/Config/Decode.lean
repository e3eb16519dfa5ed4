import StubProxy.Config.Basic
import StubProxy.Config.Error

/-!
# Configurations from settings

Each option is read from its setting alone. Flags may be given as numbers or words, and an address
as its text. The options of the engine are the members of a table, or the items of a list in order.
-/

namespace StubProxy

open Text

/-- The flag that a word means. -/
def readFlag (word : String) : Option Bool :=
  if word ∈ ["1", "true", "on", "yes"] then some true
  else if word ∈ ["0", "false", "off", "no"] then some false
  else none

/-- The flag that a scalar means, or what it is instead. -/
def Scalar.toFlag : Scalar → Except String Bool
  | nil => .error nil.description
  | bool b => .ok b
  | integer i => .ok (i ≠ 0)
  | float x => .ok !x.isZero
  | text s =>
    let word := settingName s
    match readFlag word with
    | some b => .ok b
    | none => .error (text word).description

/-- The text of a scalar; numbers are written out. -/
def Scalar.toText : Scalar → Except String (List Char)
  | nil => .error nil.description
  | bool b => .ok (if b then ['t', 'r', 'u', 'e'] else ['f', 'a', 'l', 's', 'e'])
  | integer i => .ok ((if i < 0 then ['-'] else []) ++ decimal i.natAbs)
  | float x => .ok x.toText
  | text s => .ok s.toList

namespace Setting

/-- Reads the scalar of a setting. -/
def readScalar {α : Type} (expected : String) (read : Scalar → Except String α) (key : String)
    (s : Setting) : Except ConfigError α :=
  let found := match s with
    | scalar _ v => read v
    | _ => .error s.description
  found.mapError fun d => .invalidType d expected (some key) s.origin

/-- The flag that a setting holds. -/
def toFlag : String → Setting → Except ConfigError Bool := readScalar "a boolean" Scalar.toFlag

/-- The address that a setting holds. -/
def toAddress (key : String) (s : Setting) : Except ConfigError SocketAddress :=
  match s.readScalar "a string" Scalar.toText key with
  | .error e => .error e
  | .ok t =>
    match SocketAddress.read t with
    | some a => .ok a
    | none => .error .invalidAddress

end Setting

/-- Finds an option of the engine by position or name, with the key that leads to it. -/
abbrev OptionSource := Nat → String → Option (String × Setting)

/-- The value of an option, if it is given. -/
def OptionSource.read {α : Type} (source : OptionSource)
    (convert : String → Setting → Except ConfigError α) (i : Nat) (name : String) (absent : α) :
    Except ConfigError α :=
  match source i name with
  | none => .ok absent
  | some (key, s) => convert key s

/-- The options of the engine from where they are found. -/
def Options.ofSource (source : OptionSource) : Except ConfigError Options := do
  let d := Options.default
  let assertAllFired ← source.read Setting.toFlag 0 "assert_all_requests_are_fired" d.assertAllFired
  let strictOrder ← source.read Setting.toFlag 1 "strict_order" d.strictOrder
  let failOnUnmatched ← source.read Setting.toFlag 2 "fail_on_unmatched" d.failOnUnmatched
  let exportProxyEnv ← source.read Setting.toFlag 3 "export_proxy_env" d.exportProxyEnv
  let listenAddr ← source.read Setting.toAddress 4 "listen_addr" d.listenAddr
  let logRequests ← source.read Setting.toFlag 5 "log_requests" d.logRequests
  let logResponses ← source.read Setting.toFlag 6 "log_responses" d.logResponses
  return ⟨assertAllFired, strictOrder, failOnUnmatched, exportProxyEnv, listenAddr, logRequests,
    logResponses⟩

/-- The options of the engine from their setting. -/
def Options.ofSetting (s : Setting) : Except ConfigError Options :=
  match s with
  | .table ms => ofSource fun _ name => (ms.lookup name).map fun v => ("engine." ++ name, v)
  | .list _ vs =>
    ofSource fun i _ => vs[i]?.map fun v =>
      ("engine[" ++ String.ofList (decimal i) ++ "]", v)
  | .scalar _ v => .error (.invalidType v.description "struct EngineOptions" none .unknown)

/-- The configuration from all settings. -/
def Config.ofSetting (s : Setting) : Except ConfigError Config := do
  let bypass ← match s.members.lookup "bypass" with
    | some v => v.toFlag "bypass"
    | none => pure default.bypass
  let engine ← match s.members.lookup "engine" with
    | some v => Options.ofSetting v
    | none => pure default.engine
  return ⟨bypass, engine⟩

end StubProxy
