import DtoInterfaces.CommandLine.Arguments
import DtoInterfaces.Config

/-!
# Requests

What a command line asks for: one of the commands in some project, or the version or a description
of the program. The options that hold for every command can stand in front of the command or
behind it; if one stands at both places the one behind the command counts.

## Main definitions

* `Command` — the commands.
* `Request` — what can be asked for.
* `Request.ofArguments` — what the arguments ask for.
-/

namespace DtoInterfaces

namespace CommandLine

/-- What the program can be told to do in a project. -/
inductive Command where
  /-- Write the interfaces of classes; paths and the name of the file override the configuration. -/
  | exportInterfaces (source output filename : Option String)
  /-- Write a configuration and an example of a manifest; existing ones are replaced only by
  force. -/
  | init (classNamespace : String) (force : Bool)
deriving DecidableEq

/-- What a command line asks for. -/
inductive Request where
  | version
  | help
  /-- A command, in a project directory that may be given. -/
  | command (project : Option String) (verbose : Bool) (command : Command)
deriving DecidableEq

/-! ### The grammar -/

/-- The options that hold for every command. -/
def sharedOptions : List OptionSpec :=
  [⟨"base-path", none, .value⟩, ⟨"verbose", some 'v', .flag⟩, ⟨"help", some 'h', .help⟩]

/-- What stands in front of the command. -/
def outerGrammar : Grammar where
  options := ⟨"version", some 'V', .version⟩ :: sharedOptions
  words := 0
  namesCommand := true

/-- What stands behind the command for interfaces. -/
def exportGrammar : Grammar where
  options := [⟨"output", some 'o', .value⟩, ⟨"filename", some 'f', .value⟩] ++ sharedOptions
  words := 1
  namesCommand := false

/-- What stands behind the command that sets up a project. -/
def initGrammar : Grammar where
  options := [⟨"namespace", some 'n', .value⟩, ⟨"force", some 'f', .flag⟩] ++ sharedOptions
  words := 0
  namesCommand := false

/-- The names of the command for interfaces. -/
def exportNames : List String := ["export:typescript", "export:ts"]

/-- The name of the command that sets up a project. -/
def initName : String := "init"

/-- The name of the command that describes the program, or a command. -/
def helpName : String := "help"

/-! ### Requests -/

/-- The request for a command, from what stands in front of its name and behind it. -/
def Request.ofGiven (outer inner : Given) (command : Command) : Request :=
  .command ((inner.value? "base-path").or (outer.value? "base-path"))
    (inner.has "verbose" || outer.has "verbose") command

/-- What the arguments behind the name of the command for help ask for: a description of the
program, or of the one command that they name. No command has commands of its own. -/
def Halt.ofHelp : List String → Halt
  | [] => .help
  | name :: more =>
    if name ∈ initName :: helpName :: exportNames then
      more.head?.elim .help fun word => .refused (.unknownCommand word)
    else .refused (.unknownCommand name)

/-- What the arguments behind the name of a command ask for. -/
def Request.ofCommand (outer : Given) (name : String) (arguments : List String) :
    Except Halt Request :=
  if name ∈ exportNames then do
    let (inner, _) ← exportGrammar.scan .nothing none arguments
    return .ofGiven outer inner
      (.exportInterfaces inner.words.head? (inner.value? "output") (inner.value? "filename"))
  else if name = initName then do
    let (inner, _) ← initGrammar.scan .nothing none arguments
    return .ofGiven outer inner
      (.init ((inner.value? "namespace").getD Config.defaultNamespace) (inner.has "force"))
  else if name = helpName then .error (Halt.ofHelp arguments)
  else .error (.refused (.unknownCommand name))

/-- What some arguments ask for. -/
def Request.ofArguments (arguments : List String) : Except ArgumentError Request :=
  let asked : Except Halt Request := do
    match ← outerGrammar.scan .nothing none arguments with
    | (outer, some (name, rest)) => Request.ofCommand outer name rest
    | (_, none) => .error (.refused .missingCommand)
  match asked with
  | .ok request => .ok request
  | .error .version => .ok .version
  | .error .help => .ok .help
  | .error (.refused e) => .error e

end CommandLine

end DtoInterfaces
