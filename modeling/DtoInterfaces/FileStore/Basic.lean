import DtoInterfaces.Path

/-!
# File stores

What an export needs of a file system, and what can go wrong there. The operations are given for
a monad, so that one and the same export runs on files held in memory, on a described disk, and
on the disk of the machine.

## Main definitions

* `SystemError`, `FileError` — failures and their wording.
* `FileStore` — the operations.
-/

namespace DtoInterfaces

/-- Why an operating system refuses an operation. -/
inductive SystemError where
  | notFound
  | alreadyExists
  | notADirectory
  | isADirectory
  | nameTooLong
  /-- The contents of a file are no text. -/
  | notText
  /-- A path holds a character that no path can hold. -/
  | nullInPath
  /-- A refusal in the words of the system. -/
  | other (message : String)
deriving DecidableEq

/-- The wording. -/
def SystemError.message : SystemError → String
  | notFound => "No such file or directory (os error 2)"
  | alreadyExists => "File exists (os error 17)"
  | notADirectory => "Not a directory (os error 20)"
  | isADirectory => "Is a directory (os error 21)"
  | nameTooLong => "File name too long (os error 36)"
  | notText => "stream did not contain valid UTF-8"
  | nullInPath => "file name contained an unexpected NUL byte"
  | other message => message

/-- Why an operation on files fails. -/
inductive FileError where
  /-- The operating system refuses it. -/
  | system (e : SystemError)
  /-- There is no such file, or no directory for it. -/
  | missing (path : Path)
  /-- The place is closed for writing. -/
  | denied (path : Path)
deriving DecidableEq

/-- The wording. -/
def FileError.message : FileError → String
  | system e => "IO error: " ++ e.message
  | missing path => "File not found: " ++ path.text
  | denied path => "Generic error: Permission denied: " ++ path.text

/-- The operations on files that an export uses. -/
class FileStore (m : Type → Type) where
  /-- Whether there is a file or a directory. -/
  pathExists : Path → m Bool
  /-- Whether there is a directory. -/
  isDirectory : Path → m Bool
  /-- Every file at or below a path that has the given extension, in the order of paths. -/
  filesBelow : Path → (extension : String) → m (List Path)
  /-- The contents of a text file. -/
  readText : Path → m (Except FileError String)
  /-- Make a directory and the ones around it, as far as they are not there. -/
  createDirectories : Path → m (Except FileError Unit)
  /-- Write a text file in place of one that is there; its directory has to be there. -/
  writeText : Path → String → m (Except FileError Unit)

end DtoInterfaces
