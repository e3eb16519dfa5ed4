import StubProxy.Address.Socket

/-!
# Command line arguments

Two commands take rule files: `check` shows what they say, `serve` answers requests by them. Options
may stand between the files, and behind `--` everything is a file. Nothing may be given twice.
-/

namespace StubProxy

/-- What the command line asks for. -/
inductive Command where
  | check (files : List String)
  | serve (files : List String) (listen : Option SocketAddress) (config : Option String)
  deriving DecidableEq

/-- A command line as it is understood. -/
inductive Invocation where
  | help
  | version
  /-- The arguments make no sense. -/
  | misuse
  | run (c : Command)
  deriving DecidableEq

namespace Invocation

/-- What can be asked for. -/
def usage : String :=
  "Usage: responsemock [--json-logs] <COMMAND>\n\nCommands:\n"
    ++ "  check <FILES>...  Parse rule files and print the directives\n"
    ++ "  serve [--listen <LISTEN>] [--config <CONFIG>] <FILES>...\n"
    ++ "                    Serve rule files as a mock proxy\n\n"
    ++ "Options: --help, --version\n"

/-- What the arguments of a command gave so far. -/
structure Given where
  files : List String
  listen : Option SocketAddress
  config : Option String
  /-- Whether logs are wanted as JSON. -/
  jsonLogs : Bool

/-- Nothing was given yet. -/
def Given.none : Given := ⟨[], .none, .none, false⟩

/-- The names of the commands. -/
inductive CommandName where
  | check
  | serve
  deriving DecidableEq

/-- The command of a name. -/
def CommandName.ofText? (s : String) : Option CommandName :=
  if s = "check" then some .check else if s = "serve" then some .serve else .none

/-- Adds a file; a name is never empty. -/
def Given.addFile (g : Given) (name : String) : Option Given :=
  if name = "" then .none else some { g with files := g.files ++ [name] }

/-- Adds files up to the end. -/
def Given.addFiles (g : Given) (names : List String) : Option Given :=
  names.foldlM Given.addFile g

/-- Sets where to listen. -/
def Given.setListen (g : Given) (value : String) : Option Given :=
  if g.listen.isSome then .none
  else (SocketAddress.read value.toList).map fun a => { g with listen := some a }

/-- Sets the configuration file. -/
def Given.setConfig (g : Given) (value : String) : Option Given :=
  if g.config.isSome ∨ value = "" then .none else some { g with config := some value }

/-- Asks for logs as JSON. -/
def Given.setJsonLogs (g : Given) : Option Given :=
  if g.jsonLogs then .none else some { g with jsonLogs := true }

/-- The command that the arguments describe, if there are any files. -/
def Given.command (name : CommandName) (g : Given) : Invocation :=
  if g.files = [] then misuse
  else match name with
    | .check => run (.check g.files)
    | .serve => run (.serve g.files g.listen g.config)

/-- Whether an argument can be the value of an option or a file, not being an option itself. -/
def isValue (arg : String) : Bool := !arg.startsWith "-" || arg = "-"

/-- How an option with a value is spelled in an argument. -/
inductive Spelling where
  /-- The value is the next argument. -/
  | apart
  | joined (value : String)

/-- Whether an argument is an option of a name. -/
def spelled (option arg : String) : Option Spelling :=
  if arg = option then some .apart
  else if (option ++ "=").toList.isPrefixOf arg.toList then
    some (.joined (String.ofList (arg.toList.drop (option.length + 1))))
  else .none

/-- What an option does with its value. -/
abbrev Setter := Given → String → Option Given

/-- The options that have values, and what they set. -/
def valueOptions : CommandName → List (String × Setter)
  | .check => []
  | .serve => [("--listen", Given.setListen), ("--config", Given.setConfig)]

/-- The option of a command that an argument spells. -/
def findOption (name : CommandName) (arg : String) : Option (Setter × Spelling) :=
  (valueOptions name).findSome? fun (option, set) => (spelled option arg).map fun s => (set, s)

/-- Goes on with what is given now, if the last argument made sense. -/
def proceed (g : Option Given) (rest : Given → Invocation) : Invocation := (g.map rest).getD misuse

/-- The arguments behind the name of a command; an option may be waiting for its value. -/
def readCommand (name : CommandName) (waiting : Option Setter) (g : Given) :
    List String → Invocation
  | [] => if waiting.isSome then misuse else g.command name
  | arg :: args =>
    match waiting with
    | some set =>
      if isValue arg then proceed (set g arg) (readCommand name .none · args) else misuse
    | .none =>
      if arg = "--" then proceed (g.addFiles args) (Given.command name)
      else if arg = "--json-logs" then proceed g.setJsonLogs (readCommand name .none · args)
      else if arg = "--help" ∨ arg.startsWith "-h" then help
      else match findOption name arg with
        | some (set, .joined value) => proceed (set g value) (readCommand name .none · args)
        | some (set, .apart) => readCommand name (some set) g args
        | .none =>
          if isValue arg then proceed (g.addFile arg) (readCommand name .none · args) else misuse

/-- The arguments behind a request for help. -/
def readHelp : List String → Invocation
  | [] => help
  | [topic] => if (CommandName.ofText? topic).isSome ∨ topic = "help" then help else misuse
  | _ => misuse

/-- All arguments; `jsonLogs` tells whether logs were wanted as JSON already. -/
def readFrom (jsonLogs : Bool) : List String → Invocation
  | [] => misuse
  | arg :: args =>
    if arg = "--json-logs" then if jsonLogs then misuse else readFrom true args
    else if arg = "--help" ∨ arg.startsWith "-h" then help
    else if arg = "--version" ∨ arg.startsWith "-V" then version
    else if arg = "help" then readHelp args
    else match CommandName.ofText? arg with
      | some name => readCommand name .none .none args
      | .none => misuse

/-- Understands a command line. -/
def read (args : List String) : Invocation := readFrom false args

end Invocation

end StubProxy
