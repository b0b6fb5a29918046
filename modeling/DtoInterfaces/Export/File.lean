import DtoInterfaces.FileStore.Basic
import DtoInterfaces.Interface

/-!
# The generated file

The generated file starts with a header of three lines, one of which tells when it was generated.
After an empty line the interfaces follow, with an empty line between them.

## Main definitions

* `writeFile` — the text of the file.
* `ExportError` — why it cannot be written.
* `emit` — write it to a directory, which is made if it is not there.
-/

namespace DtoInterfaces

/-- The first line of a generated file. -/
def headerTitle : String := "// Generated TypeScript interfaces from DTO classes"

/-- The third line of a generated file. -/
def headerNotice : String := "// This file is auto-generated. Do not edit manually."

/-- The second line of a generated file. -/
def headerTime (generatedAt : String) : String := "// Generated at: " ++ generatedAt

/-- The text of a file with the given blocks. -/
def writeFile (blocks : List (List Char)) (generatedAt : String) : List Char :=
  ['\n'].intercalate
    [headerTitle.toList, (headerTime generatedAt).toList, headerNotice.toList, [],
      ['\n', '\n'].intercalate blocks] ++ ['\n']

/-- The text of a file with the given blocks, as a string. -/
def fileText (blocks : List (List Char)) (generatedAt : String) : String :=
  String.ofList (writeFile blocks generatedAt)

/-- Why an export fails. -/
inductive ExportError where
  | createDirectory (path : Path) (cause : FileError)
  | write (path : Path) (cause : FileError)
deriving DecidableEq

/-- The wording. -/
def ExportError.message : ExportError → String
  | createDirectory path cause =>
    "Cannot create output directory " ++ path.text ++ ": " ++ cause.message
  | write path cause => "Cannot write " ++ path.text ++ ": " ++ cause.message

/-- Make the directory of a file, if it is not there. -/
def ensureDirectory {m : Type → Type} [Monad m] [FileStore m] (directory : Path) :
    m (Except FileError Unit) := do
  if ← FileStore.isDirectory directory then return .ok ()
  else FileStore.createDirectories directory

/-- Write a file to a directory, which is made if it is not there. The answer is the path of the
file. -/
def emit {m : Type → Type} [Monad m] [FileStore m] (directory : Path) (filename text : String) :
    m (Except ExportError Path) := do
  match ← ensureDirectory directory with
  | .error e => return .error (.createDirectory directory e)
  | .ok () =>
    let path := directory.join ⟨filename⟩
    match ← FileStore.writeText path text with
    | .error e => return .error (.write path e)
    | .ok () => return .ok path

end DtoInterfaces
