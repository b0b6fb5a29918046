import DtoInterfaces.CommandLine.Project
import Std.Time

/-!
# The program

Runs the command line on the files of the machine. All that is done here is to reach the file
system and the clock, and to print what a command says.

## Main definitions

* the `FileStore` of the machine.
* `main` — the program.
-/

namespace DtoInterfaces

namespace Machine

/-- What the system says about a refusal. -/
def systemError (e : IO.Error) : FileError :=
  .system <| match e with
    | .noFileOrDirectory _ _ _ => .notFound
    | .alreadyExists _ _ _ => .alreadyExists
    | .inappropriateType _ 20 _ => .notADirectory
    | .inappropriateType _ 21 _ => .isADirectory
    | e => .other e.toString

/-- The answer of an operation, or the refusal of the system. -/
def attempt {α : Type} (action : IO α) : IO (Except FileError α) := do
  match ← action.toBaseIO with
  | .ok a => return .ok a
  | .error e => return .error (systemError e)

/-- The kind of what is at a path, if there is something. -/
def typeAt? (p : Path) : IO (Option IO.FS.FileType) := do
  match ← (((← IO.currentDir) / p.text).metadata).toBaseIO with
  | .ok metadata => return some metadata.type
  | .error _ => return none

/-- Whether there is a directory at a path. -/
def isDirectory (p : Path) : IO Bool := do
  return (← typeAt? p) matches some .dir

/-- The entries of a directory in the order of their names; none if it cannot be read. -/
def entries (p : Path) : IO (List String) := do
  match ← (((← IO.currentDir) / p.text).readDir).toBaseIO with
  | .ok found => return (found.toList.map (·.fileName)).mergeSort fun a b => decide (a ≤ b)
  | .error _ => return []

/-- The files at or below a path, depth first. -/
partial def filesBelow (p : Path) : IO (List Path) := do
  match ← typeAt? p with
  | some .file => return [p]
  | some .dir =>
    return (← (← entries p).mapM fun name => filesBelow (p.join ⟨name⟩)).flatten
  | _ => return []

instance : FileStore IO where
  pathExists p := return (← typeAt? p).isSome && !p.isEmpty
  isDirectory p := return (← isDirectory p) && !p.isEmpty
  filesBelow p extension := do
    if p.isEmpty then return []
    return (← filesBelow p).filter fun q => q.extension? == some extension
  readText p := do
    match ← attempt (IO.FS.readBinFile p.text) with
    | .error e => return .error e
    | .ok contents =>
      match String.fromUTF8? contents with
      | some text => return .ok text
      | none => return .error (.system .notText)
  createDirectories p := do
    if p.isEmpty then return .ok ()
    attempt (IO.FS.createDirAll p.text)
  writeText p text := attempt (IO.FS.writeFile p.text text)

/-- The local time in the form that the header of a generated file shows. -/
def clock : IO String := do
  let now ← Std.Time.PlainDateTime.now
  return now.format "uuuu-MM-dd HH:mm:ss"

end Machine

end DtoInterfaces

open DtoInterfaces in
/-- Run the command line. A command that fails ends the program with 1, and arguments that make no
sense end it with 2. -/
def main (arguments : List String) : IO UInt32 := do
  match CommandLine.Request.ofArguments arguments with
  | .error _ =>
    CommandLine.helpLines.forM IO.eprintln
    return 2
  | .ok request =>
    let outcome ← request.perform Machine.clock (← IO.currentDir).toString
    outcome.lines.forM IO.println
    match outcome.failure with
    | none => return 0
    | some e =>
      IO.eprintln ("\nError: " ++ e.message Json.Fault.message ++ "\n")
      return 1
