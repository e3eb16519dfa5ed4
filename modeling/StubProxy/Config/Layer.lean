import StubProxy.Config.Load

/-!
# Layers of settings

The settings of a session one by one: where a file gives each of them, which variable gives it, and
what it is read as. A layer is what one place gives of them, and the upper layer counts where it
gives a setting.

* `ConfigKey`: the settings, with their paths, their variables and the types of their values.
* `ConfigKey.valuesIn`: the values that an entry of a file gives a setting.
* `Setting.Layer`, `Setting.Assigns`: a file, or an environment, that gives each setting one value at
  most.
* `ConfigKey.effective`: the value that counts.
-/

namespace StubProxy

open Text

/-- The settings of a session. -/
inductive ConfigKey where
  | bypass
  | assertAllFired
  | strictOrder
  | failOnUnmatched
  | exportProxyEnv
  | listenAddr
  | logRequests
  | logResponses
  deriving DecidableEq

namespace ConfigKey

/-- What a setting is in a configuration. -/
abbrev Value : ConfigKey → Type
  | listenAddr => SocketAddress
  | _ => Bool

/-- The names that lead to a setting. -/
def path : ConfigKey → List String
  | bypass => ["bypass"]
  | assertAllFired => ["engine", "assert_all_requests_are_fired"]
  | strictOrder => ["engine", "strict_order"]
  | failOnUnmatched => ["engine", "fail_on_unmatched"]
  | exportProxyEnv => ["engine", "export_proxy_env"]
  | listenAddr => ["engine", "listen_addr"]
  | logRequests => ["engine", "log_requests"]
  | logResponses => ["engine", "log_responses"]

/-- The variable that gives a setting. -/
def variableName : ConfigKey → String
  | bypass => "RESPONSEMOCK_BYPASS"
  | assertAllFired => "RESPONSEMOCK_ENGINE__ASSERT_ALL_REQUESTS_ARE_FIRED"
  | strictOrder => "RESPONSEMOCK_ENGINE__STRICT_ORDER"
  | failOnUnmatched => "RESPONSEMOCK_ENGINE__FAIL_ON_UNMATCHED"
  | exportProxyEnv => "RESPONSEMOCK_ENGINE__EXPORT_PROXY_ENV"
  | listenAddr => "RESPONSEMOCK_ENGINE__LISTEN_ADDR"
  | logRequests => "RESPONSEMOCK_ENGINE__LOG_REQUESTS"
  | logResponses => "RESPONSEMOCK_ENGINE__LOG_RESPONSES"

/-- Converts a value to the type of a setting. -/
def convert : (k : ConfigKey) → Setting → Except ConfigError k.Value
  | bypass => Setting.toFlag "bypass"
  | assertAllFired => Setting.toFlag "engine.assert_all_requests_are_fired"
  | strictOrder => Setting.toFlag "engine.strict_order"
  | failOnUnmatched => Setting.toFlag "engine.fail_on_unmatched"
  | exportProxyEnv => Setting.toFlag "engine.export_proxy_env"
  | listenAddr => Setting.toAddress "engine.listen_addr"
  | logRequests => Setting.toFlag "engine.log_requests"
  | logResponses => Setting.toFlag "engine.log_responses"

end ConfigKey

/-- The value of a setting in a configuration. -/
def Config.get (c : Config) : (k : ConfigKey) → k.Value
  | .bypass => c.bypass
  | .assertAllFired => c.engine.assertAllFired
  | .strictOrder => c.engine.strictOrder
  | .failOnUnmatched => c.engine.failOnUnmatched
  | .exportProxyEnv => c.engine.exportProxyEnv
  | .listenAddr => c.engine.listenAddr
  | .logRequests => c.engine.logRequests
  | .logResponses => c.engine.logResponses

/-! ### What a file gives -/

namespace Setting

/-- The name of a step in small letters, unless it is a position. -/
def Step.name? : Step → Option String
  | .member name => some (settingName name)
  | .item _ => none

/-- The names that the key of an outermost entry leads through, unless there is a position among
them. -/
def keyNames (key : String) : Option (List String) :=
  ((readPath key).getD [.member key]).mapM Step.name?

end Setting

namespace ConfigKey

/-- The value that a member of the table `engine` gives a setting. -/
def valuesInEngine (k : ConfigKey) (m : String × Setting) : List Setting :=
  if k.path = ["engine", settingName m.1] then [m.2] else []

/-- The values that an outermost entry gives a setting: as itself, or in the table `engine`. -/
def valuesIn (k : ConfigKey) (entry : String × Setting) : List Setting :=
  if Setting.keyNames entry.1 = some k.path then [entry.2]
  else if Setting.keyNames entry.1 = some ["engine"] then
    entry.2.members.flatMap k.valuesInEngine
  else []

end ConfigKey

namespace Setting

/-- A key that leads past all settings: neither to one, nor through one, nor to what holds some. -/
def Elsewhere (key : String) : Prop :=
  ∃ names, keyNames key = some names ∧
    ∀ k : ConfigKey, ¬ names <+: k.path ∧ ¬ k.path <+: names

/-- An outermost entry that gives some settings values, or something that is none of them. -/
def Fits (entry : String × Setting) : Prop :=
  (∃ k : ConfigKey, keyNames entry.1 = some k.path) ∨
    (keyNames entry.1 = some ["engine"] ∧ ∃ ms, entry.2 = .table ms) ∨ Elsewhere entry.1

/-- Outermost entries, in any order and with names in letters of any size, that give the settings
these values, each of them once at most. -/
structure Layer (entries : List (String × Setting)) (given : ConfigKey → Option Setting) :
    Prop where
  values : ∀ k : ConfigKey, entries.flatMap k.valuesIn = (given k).toList
  fits : ∀ e ∈ entries, Fits e

/-! ### What the environment gives -/

/-- Variables, with names in letters of any size, that give the settings these values, each of them
once at most. What other variables give, if anything, is none of the settings. -/
structure Assigns (vars : List Variable) (assigned : ConfigKey → Option String) : Prop where
  values : ∀ k : ConfigKey,
    (vars.filter fun v => settingName v.1 = settingName k.variableName).map (·.2) =
      (assigned k).toList
  rest : ∀ v ∈ vars, (∃ k : ConfigKey, settingName v.1 = settingName k.variableName) ∨
    ∀ key, variableKey v.1 = some key → Elsewhere key

/-- The setting that the value of a variable is. -/
def ofVariable (value : String) : Setting := scalar .environment (readVariable value)

end Setting

/-- The value of a setting that counts: that of the variable if it is set, else that of the file. -/
def ConfigKey.effective (assigned : ConfigKey → Option String) (given : ConfigKey → Option Setting)
    (k : ConfigKey) : Option Setting :=
  ((assigned k).map Setting.ofVariable).or (given k)

end StubProxy
