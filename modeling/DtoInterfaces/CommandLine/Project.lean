import DtoInterfaces.CommandLine.Request
import DtoInterfaces.Manifest

/-!
# Commands in a project

What the commands do in the directory of a project. A command says what it does in lines of text,
and stops at its first failure; the lines up to there have been said. The wording of the faults of
documents is left to the caller, since what a document looks like to its reader is no matter of
the command.

## Main definitions

* `Failure` — why a command fails, and its wording.
* `Outcome` — what a command has said, and whether it has failed.
* `loadConfig`, `loadRegistry` — what the command for interfaces reads.
* `exportInterfaces`, `initProject` — the commands.
* `Request.perform` — do what is asked for.
-/

namespace DtoInterfaces

namespace CommandLine

/-! ### Outcomes -/

/-- Why a command fails. -/
inductive Failure where
  /-- A file of the project cannot be read or written. -/
  | file (e : FileError)
  | invalidConfig (fault : Json.Fault)
  | noSourceDirectory (path : Path)
  | manifest (path : Path) (e : ManifestError)
  | exportFailed (e : ExportError)
deriving DecidableEq

/-- What has caused a manifest to be unreadable, from the outside in. A cause whose wording holds
the cause of its own is followed by that all the same. -/
def causesOf : ManifestError → List String
  | .unreadable (.system e) => [FileError.message (.system e), e.message]
  | .unreadable e => [e.message]
  | .invalid _ => []

/-- The failure of a single operation, without the place it comes from. -/
def bareMessage : FileError → String
  | .system e => e.message
  | e => e.message

/-- The wording, given the one for the faults of documents. -/
def Failure.message (faultMessage : Json.Fault → String) : Failure → String
  | file e => bareMessage e
  | invalidConfig fault => faultMessage fault
  | noSourceDirectory path => "DTO path '" ++ path.text ++ "' does not exist."
  | manifest path e =>
    String.intercalate ": "
      (("Cannot load manifest " ++ path.text) :: e.message faultMessage :: causesOf e)
  | exportFailed e => "Export failed: " ++ e.message

/-- What a command has said, line by line, and why it has failed if it has. -/
structure Outcome where
  lines : List String
  failure : Option Failure

namespace Outcome

/-- The outcome of a command that has said everything. -/
def success (lines : List String) : Outcome := ⟨lines, none⟩

/-- The outcome of a command that has failed after some lines. -/
def failed (lines : List String) (e : Failure) : Outcome := ⟨lines, some e⟩

end Outcome

section Commands

variable {m : Type → Type} [Monad m] [FileStore m]

/-! ### Interfaces -/

/-- The configuration of a project; the standard one if there is none. -/
def loadConfig (project : Path) : m (Except Failure Config) := do
  let path := project.join ⟨Config.filename⟩
  if ← FileStore.pathExists path then
    match ← FileStore.readText path with
    | .error e => return .error (.file e)
    | .ok text => return (Config.read.run text).mapError .invalidConfig
  else return .ok .standard

/-- The classes of a manifest; none if there is no manifest. -/
def loadRegistry (path : Path) : m (Except Failure Registry) := do
  if ← FileStore.pathExists path then
    match ← Manifest.load path with
    | .error e => return .error (.manifest path e)
    | .ok manifest => return .ok (.ofManifest manifest)
  else return .ok .empty

/-- What is said about an export that has ended. -/
def reportLines (report : ExportReport) : List String :=
  (match report.file with
    | some file =>
      ["Successfully exported " ++ String.ofList (Decimal.digitsOf report.count) ++
        " DTO classes to " ++ file.text]
    | none => ["No DTO classes found to export."]) ++
  if report.skipped.isEmpty then []
  else "Skipped classes:" :: report.skipped.map fun c => "  - " ++ c.message

/-- What is said before an export. -/
def exportHeadline : String := "📦 Exporting DTO classes to TypeScript..."

/-- Write the interfaces of the classes of a project. -/
def exportInterfaces (clock : m String) (project : Path)
    (source output filename : Option String) : m Outcome := do
  match ← loadConfig project with
  | .error e => return .failed [] e
  | .ok config =>
    let sourcePath := source.elim (config.sourcePath project) fun p => project.join ⟨p⟩
    let outputPath := output.elim (config.outputPath project) fun p => project.join ⟨p⟩
    if !(← FileStore.isDirectory sourcePath) then
      return .failed [] (.noSourceDirectory sourcePath)
    else
      match ← loadRegistry (config.manifestPath project) with
      | .error e => return .failed [] e
      | .ok registry =>
        let exporter : Exporter :=
          ⟨registry, .sourceFiles config.scan.extension, config.baseClass⟩
        match ← exporter.run clock sourcePath outputPath (filename.getD config.output.filename) with
        | (.error e, _) => return .failed [exportHeadline] (.exportFailed e)
        | (.ok report, _) => return .success (exportHeadline :: reportLines report)

/-! ### Setting up a project -/

/-- A manifest to start from. -/
def exampleManifest : String := "\x7b
  \"classes\": \x7b
    \"App\\\\DTO\\\\UserDTO\": \x7b
      \"extends\": \"FriendsOfHyperf\\\\ValidatedDTO\\\\SimpleDTO\",
      \"casts\": \x7b
        \"id\": \"integer\",
        \"status\": \x7b \"kind\": \"enum\", \"enum\": \"App\\\\Enum\\\\Status\" \x7d
      \x7d,
      \"rules\": \x7b
        \"id\": \"required|integer\",
        \"email\": \"required|email\"
      \x7d,
      \"defaults\": \x7b
        \"status\": \"active\"
      \x7d
    \x7d
  \x7d,
  \"enums\": \x7b
    \"App\\\\Enum\\\\Status\": [
      \x7b \"name\": \"Active\", \"value\": \"active\" \x7d,
      \x7b \"name\": \"Inactive\", \"value\": \"inactive\" \x7d
    ]
  \x7d
\x7d
"

/-- What is said before a project is set up. -/
def initHeadline : String := "📝 Initializing dtogen..."

/-- What is said about a document that has been written. -/
def createdLine (filename : String) : String := "  ✓ Created " ++ filename

/-- What is said about a project that has been set up. -/
def nextSteps (config : Config) : List String :=
  ["", "✅ Project initialized!", "", "Next steps:",
    "  1. Describe your DTO classes in " ++ config.manifest,
    "  2. Run: dtogen export:typescript",
    "  3. Check output in " ++ config.output.path ++ "/" ++ config.output.filename]

/-- Write a configuration and an example of a manifest. A manifest that is there stays, unless
force is used; a configuration that is there stops the command. -/
def initProject (project : Path) (classNamespace : String) (force : Bool) : m Outcome := do
  let configPath := project.join ⟨Config.filename⟩
  if (← FileStore.pathExists configPath) && !force then
    return .success ["⚠️ " ++ Config.filename ++ " already exists", "Use --force to overwrite"]
  else
    let config := { Config.standard with classNamespace }
    match ← FileStore.writeText configPath config.text with
    | .error e => return .failed [initHeadline] (.file e)
    | .ok () =>
      let said := [initHeadline, createdLine Config.filename]
      let manifestPath := config.manifestPath project
      if (← FileStore.pathExists manifestPath) && !force then
        return .success (said ++ nextSteps config)
      else
        match ← FileStore.writeText manifestPath exampleManifest with
        | .error e => return .failed said (.file e)
        | .ok () => return .success (said ++ createdLine config.manifest :: nextSteps config)

/-! ### Requests -/

/-- What is said about the version. -/
def versionLine : String := "dtogen 0.1.0"

/-- What is said about the use of the program. -/
def helpLines : List String :=
  ["TypeScript interfaces from DTO classes", "",
    "Usage: dtogen [OPTIONS] <COMMAND>", "", "Commands:",
    "  export:typescript  Export DTO classes to TypeScript interface definitions",
    "  init               Write a default config and an example class manifest",
    "  help               Describe the program", "", "Options:",
    "      --base-path <BASE_PATH>  Project directory (defaults to the current directory)",
    "  -v, --verbose                Log every discovery and inference decision",
    "  -h, --help                   Describe the program",
    "  -V, --version                Print the version"]

/-- Do what is asked for. -/
def Request.perform (clock : m String) (workingDirectory : String) : Request → m Outcome
  | .version => return .success [versionLine]
  | .help => return .success helpLines
  | .command project _ task =>
    let project : Path := ⟨project.getD workingDirectory⟩
    match task with
    | .exportInterfaces source output filename =>
      exportInterfaces clock project source output filename
    | .init classNamespace force => initProject project classNamespace force

end Commands

end CommandLine

end DtoInterfaces
