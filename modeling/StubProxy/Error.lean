import StubProxy.Config.Error
import StubProxy.Rule.Grammar

/-!
# Errors

Everything that can go wrong outside the requests themselves, and its wording.
-/

namespace StubProxy

open Text

/-- An error of the operating system. -/
structure SystemError where
  code : Nat
  kind : String
  text : String
  deriving DecidableEq

namespace SystemError

def notFound : SystemError := ⟨2, "NotFound", "No such file or directory"⟩

def permissionDenied : SystemError := ⟨13, "PermissionDenied", "Permission denied"⟩

def notADirectory : SystemError := ⟨20, "NotADirectory", "Not a directory"⟩

def isADirectory : SystemError := ⟨21, "IsADirectory", "Is a directory"⟩

def addressInUse : SystemError := ⟨98, "AddrInUse", "Address already in use"⟩

def addressNotAvailable : SystemError :=
  ⟨99, "AddrNotAvailable", "Cannot assign requested address"⟩

def networkUnreachable : SystemError := ⟨101, "NetworkUnreachable", "Network is unreachable"⟩

/-- The errors that have a name. -/
def named : List SystemError :=
  [notFound, permissionDenied, notADirectory, isADirectory, addressInUse, addressNotAvailable,
    networkUnreachable]

/-- The error of a number; one without a name keeps the text that it came with. -/
def ofCode (code : Nat) (text : String) : SystemError :=
  (named.find? (·.code = code)).getD ⟨code, "Uncategorized", text⟩

/-- The wording with the number. -/
def message (e : SystemError) : String :=
  e.text ++ " (os error " ++ String.ofList (decimal e.code) ++ ")"

/-- All parts of the error, as they are shown where it is not expected. -/
def details (e : SystemError) : String :=
  "Os \x7b code: " ++ String.ofList (decimal e.code) ++ ", kind: " ++ e.kind ++ ", message: "
    ++ quoted e.text ++ " \x7d"

end SystemError

/-- Why a file cannot be read as text, or an address not be listened on. -/
inductive IoError where
  | system (e : SystemError)
  | notUtf8
  deriving DecidableEq

/-- The wording of an input or output error. -/
def IoError.message : IoError → String
  | system e => e.message
  | notUtf8 => "stream did not contain valid UTF-8"

/-- An error of a session or of what leads to one. -/
inductive Error where
  | rule (e : RuleError)
  | unmatched (method url : String)
  | unfiredDirectives (routes : List String)
  | unmatchedRequests (requests : List String)
  | interceptionFailed (text : String)
  | config (e : ConfigError)
  | io (e : IoError)
  deriving DecidableEq

namespace Error

/-- The wording of an error. -/
def message : Error → String
  | rule e => e.message
  | unmatched method url => "Connection refused by responsemock: " ++ method ++ " " ++ url
  | unfiredDirectives routes => "Not all requests have been executed: " ++ quotedList routes
  | unmatchedRequests requests => "Requests did not match any rule: " ++ quotedList requests
  | interceptionFailed text => "Interception failed: " ++ text
  | config e => "Configuration error: " ++ e.message
  | io e => "I/O error: " ++ e.message

/-- Whether a malformed rule is the cause. -/
def isRuleError : Error → Bool
  | rule _ => true
  | _ => false

end Error

end StubProxy
