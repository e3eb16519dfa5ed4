import StubProxy.Command.Arguments
import StubProxy.Command.Report
import StubProxy.Config.Load
import StubProxy.Directive.Json
import StubProxy.Rule.File
import StubProxy.Session.Scope

/-!
# Running commands

A command finds its files and variables in a workplace. What it prints, and whether it failed, is an
`Output`. Serving has a beginning, `Workplace.openScope`, and an end, `Scope.conclude`; requests come
in between.
-/

namespace StubProxy

open Text

/-- What surrounds a command: its files and their formats, the variables of its environment, and the
network. -/
structure Workplace where
  files : FileSystem
  formats : Formats
  vars : List Variable
  network : Network

/-- What a command prints, and the status that it ends with. -/
structure Output where
  status : Nat
  stdout : String
  stderr : String
  deriving DecidableEq

namespace Output

/-- The end of a command that prints `text`. -/
def success (text : String) : Output := ⟨0, text, ""⟩

/-- The end of a command that fails behind `text`. -/
def failure (text : String) (r : Report) : Output := ⟨1, text, r.toText⟩

/-- The end of a command whose arguments make no sense. -/
def misuse : Output := ⟨2, "", ""⟩

end Output

/-- Name and version of the program. -/
def versionLine : String := "responsemock 0.1.0\n"

namespace Call

/-- The JSON value of an outcome. -/
def outcomeJson : Outcome → Json
  | .stubbed n =>
    .object [("kind", .string "stubbed"), ("status", .number (String.ofList (decimal n)))]
  | .passthrough => .object [("kind", .string "passthrough")]
  | .unmatched => .object [("kind", .string "unmatched")]

/-- The JSON value of a call. -/
def toJson (c : Call) : Json :=
  .object [("method", .string c.method), ("url", .string c.url), ("outcome", outcomeJson c.outcome)]

end Call

namespace Workplace

/-- The rules of the files that a command names. -/
def loadRules (w : Workplace) (files : List String) : Except Report (List Rule) :=
  (Rule.loadAll (files.map w.files)).mapError fun e => .within "reading rule files" (.io e)

/-- The directives of rule files. -/
def loadDirectives (w : Workplace) (files : List String) : Except Report (List Directive) :=
  (w.loadRules files).bind fun rules =>
    (Rule.directives rules).mapError fun e => .ofError (.rule e)

/-- Shows the directives of rule files as JSON. -/
def check (w : Workplace) (files : List String) : Output :=
  match w.loadDirectives files with
  | .error r => .failure "" r
  | .ok ds => .success ((Directive.listToJson ds).pretty ++ "\n")

/-- The configuration of a command; where it listens may be given on the command line. -/
def loadConfig (w : Workplace) (listen : Option SocketAddress) (file : Option String) :
    Except Report Config :=
  match Config.load w.formats w.files file w.vars with
  | .error e => .error (.ofError (.config e))
  | .ok c => .ok ((listen.map c.withListenAddr).getD c)

/-- Opens the scope in which rule files are served. -/
def openScope (w : Workplace) (files : List String) (listen : Option SocketAddress)
    (config : Option String) (env : Environment) : Except Report Scope := do
  let rules ← w.loadRules files
  let config ← w.loadConfig listen config
  (Scope.enter w.network config rules env).mapError fun e => .ofError e.1

end Workplace

/-- Ends serving: shows the calls of the session and reports its verdict. -/
def Scope.conclude (sc : Scope) : Output :=
  let text := match sc.session with
    | some s => (Json.array (s.calls.map Call.toJson)).pretty ++ "\n"
    | none => ""
  match sc.close.1 with
  | .failed e => .failure text (.ofError e)
  | _ => .success text

end StubProxy
