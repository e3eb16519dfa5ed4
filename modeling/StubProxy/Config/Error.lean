import StubProxy.Config.Setting
import StubProxy.Number.Shortest
import StubProxy.Text.Quoted

/-!
# Errors of a configuration

What can be wrong with the settings of a session, and its wording.
-/

namespace StubProxy

open Text

/-- Why a configuration cannot be loaded. -/
inductive ConfigError where
  | fileNotFound (name : String)
  | unknownFormat (name : String)
  | malformedFile (name : String)
  /-- A setting has a value of the wrong kind. -/
  | invalidType (found expected : String) (key : Option String) (origin : Origin)
  | invalidAddress
  deriving DecidableEq

/-- Where a setting was given, as a message ends with it. -/
def Origin.mention : Origin → String
  | unknown => ""
  | environment => " in the environment"
  | file name => " in " ++ name

/-- What a scalar is called in a message. -/
def Scalar.description : Scalar → String
  | nil => "unit value"
  | bool b => "boolean \x60" ++ (if b then "true" else "false") ++ "\x60"
  | integer i =>
    "integer \x60" ++ (if i < 0 then "-" else "") ++ String.ofList (decimal i.natAbs) ++ "\x60"
  | float x => "floating point \x60" ++ String.ofList x.toText ++ "\x60"
  | text s => "string " ++ quoted s

/-- What a setting is called in a message. -/
def Setting.description : Setting → String
  | scalar _ v => v.description
  | list _ _ => "sequence"
  | table _ => "map"

/-- Where a setting was given; tables come from several places. -/
def Setting.origin : Setting → Origin
  | scalar origin _ => origin
  | list origin _ => origin
  | table _ => .unknown

/-- The wording of an error. -/
def ConfigError.message : ConfigError → String
  | fileNotFound name => "configuration file \"" ++ name ++ "\" not found"
  | unknownFormat name =>
    "configuration file \"" ++ name ++ "\" is not of a registered file format"
  | malformedFile name => "malformed settings in " ++ name
  | invalidType found expected key origin =>
    "invalid type: " ++ found ++ ", expected " ++ expected
      ++ ((key.map fun k => " for key \x60" ++ k ++ "\x60").getD "") ++ origin.mention
  | invalidAddress => "invalid socket address syntax"

end StubProxy
