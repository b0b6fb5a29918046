import DtoInterfaces.FileStore.Basic
import DtoInterfaces.SortedMap

/-!
# Files in memory

A store that records files and directories by their paths, and a set of denied paths. Below a
denied path nothing is created or written. A path can be recorded both as a file and as a
directory; the two tables do not look at each other.

Files and directories can also be put in place, which no denial stops and which makes whatever
directories are needed.

## Main definitions

* `MemoryFiles` — the store.
* `MemoryFiles.addFile`, `MemoryFiles.addDirectory`, `MemoryFiles.deny` — put things in place.
* `MemoryFiles.createDirectories`, `MemoryFiles.writeText` — the operations that can fail.
* the `FileStore` of the state monad over it.
-/

namespace DtoInterfaces

/-- Files and directories in memory. -/
structure MemoryFiles where
  files : SortedMap Path String
  directories : SortedMap Path Unit
  /-- The paths below which nothing is created or written. -/
  denied : SortedMap Path Unit

namespace MemoryFiles

/-- The store in which there is nothing. -/
def empty : MemoryFiles := ⟨.empty, .empty, .empty⟩

instance : Inhabited MemoryFiles := ⟨empty⟩

/-! ### Looking -/

/-- Whether a path is recorded as a directory. -/
def isDirectory (s : MemoryFiles) (p : Path) : Bool := s.directories.contains p

/-- The contents of a file. -/
def contents? (s : MemoryFiles) (p : Path) : Option String := s.files.get? p

/-- Whether a path is recorded at all. -/
def pathExists (s : MemoryFiles) (p : Path) : Bool := s.files.contains p || s.isDirectory p

/-- The files at or below a path that have the given extension. -/
def filesBelow (s : MemoryFiles) (root : Path) (extension : String) : List Path :=
  s.files.keys.filter fun p => p.isBelow root && p.extension? == some extension

/-- The contents of a file, or the failure to find it. -/
def readText (s : MemoryFiles) (p : Path) : Except FileError String :=
  match s.contents? p with
  | some text => .ok text
  | none => .error (.missing p)

/-- Whether a path, or one around it, is denied. -/
def isDenied (s : MemoryFiles) (p : Path) : Bool := p.ancestors.any s.denied.contains

/-! ### Putting in place -/

/-- Record directories; the empty path is none. -/
def addDirectories (s : MemoryFiles) (ps : List Path) : MemoryFiles :=
  { s with
    directories := (ps.filter fun p => !p.isEmpty).foldl (fun ds p => ds.insert p ()) s.directories }

/-- Put a directory in place, with the ones around it. -/
def addDirectory (s : MemoryFiles) (p : Path) : MemoryFiles := s.addDirectories p.ancestors

/-- Put a file in place, with the directories around it. -/
def addFile (s : MemoryFiles) (p : Path) (text : String) : MemoryFiles :=
  let s := s.addDirectories p.enclosing
  { s with files := s.files.insert p text }

/-- Deny a path. -/
def deny (s : MemoryFiles) (p : Path) : MemoryFiles :=
  { s with denied := s.denied.insert p () }

/-! ### Operations that can fail

Each of them gives its answer together with the store that it leaves behind. -/

/-- Make a directory and the ones around it, unless that is denied. -/
def createDirectories (s : MemoryFiles) (p : Path) : Except FileError Unit × MemoryFiles :=
  if s.isDenied p then (.error (.denied p), s) else (.ok (), s.addDirectories p.ancestors)

/-- Whether a file can stand at a path: the path around it is empty or a directory, or there is
none. -/
def hasPlaceFor (s : MemoryFiles) (p : Path) : Bool :=
  p.parent?.all fun parent => parent.isEmpty || s.isDirectory parent

/-- Write a file. That there is no place for it is said before that it is denied. -/
def writeText (s : MemoryFiles) (p : Path) (text : String) :
    Except FileError Unit × MemoryFiles :=
  if !s.hasPlaceFor p then (.error (.missing p), s)
  else if s.isDenied p then (.error (.denied p), s)
  else (.ok (), { s with files := s.files.insert p text })

instance : FileStore (StateM MemoryFiles) where
  pathExists p := return (← get).pathExists p
  isDirectory p := return (← get).isDirectory p
  filesBelow root extension := return (← get).filesBelow root extension
  readText p := return (← get).readText p
  createDirectories p := modifyGet fun s => s.createDirectories p
  writeText p text := modifyGet fun s => s.writeText p text

end MemoryFiles

end DtoInterfaces
