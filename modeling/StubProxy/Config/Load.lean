import StubProxy.Config.Decode
import StubProxy.Config.File
import StubProxy.Config.Variables

/-!
# Loading a configuration

A variable of the environment counts before the file, setting by setting, and what neither gives
keeps its default.
-/

namespace StubProxy.Config

/-- The configuration from the settings of a file and the variables over them. -/
def layered (file : List (String × Setting)) (vars : List Variable) :
    Except ConfigError Config :=
  ofSetting (((Setting.table []).addMembers file).addVariables vars)

/-- The settings of a file, if one is named. -/
def fileSettings (formats : Formats) (files : FileSystem) :
    Option String → Except ConfigError (List (String × Setting))
  | none => .ok []
  | some name => (ConfigFile.find formats files name).bind (ConfigFile.settings formats)

/-- Loads a configuration from a file, if one is named, and the variables of the environment. -/
def load (formats : Formats) (files : FileSystem) (file : Option String) (vars : List Variable) :
    Except ConfigError Config :=
  (fileSettings formats files file).bind fun ms => layered ms vars

end StubProxy.Config
