import DtoInterfaces.FileStore.Basic
import DtoInterfaces.SortedMap

/-!
# A disk of files and directories

The tree of files and directories of a disk, as a process with a working directory sees it. A
path is followed through the tree segment by segment. Here `..` does lead out of a directory,
whatever stands in front of a slash has to be a directory, and each operation is refused for the
reasons, and in the order, in which an operating system refuses it.

There are no links in the tree, neither symbolic nor hard ones: every file is at one place and
nothing but its path leads there. With links two paths could reach one file, and a change at the one
could be seen at the other.

Making a directory with the ones around it is done by trying, from the inside out: only where a
directory cannot be made because the one around it is missing, that one is made first. What has
been made up to a refusal stays.

## Main definitions

* `FileTree` — the tree; `FileTree.get?` and `FileTree.put` reach into it.
* `Disk` — a tree and a working directory.
* `Disk.locate` — the place of an existing path.
* `Disk.readText`, `Disk.writeBytes`, `Disk.makeDirectory`, `Disk.createChain` — the operations.
* `FileTree.filesBelow` — the files of a tree in depth-first order.
* the `FileStore` of the state monad over it.
-/

namespace DtoInterfaces

/-! ### Refused paths -/

namespace Disk

/-- The longest path, in bytes. -/
def longestPath : Nat := 4095

/-- Why a path is refused before it is followed. -/
def refusal? (p : Path) : Option SystemError :=
  if '\x00' ∈ p.chars then some .nullInPath
  else if p.isEmpty then some .notFound
  else if p.text.utf8ByteSize > longestPath then some .nameTooLong
  else none

end Disk

/-! ### Trees -/

/-- A file, or a directory with its entries sorted by name. -/
inductive FileTree where
  | file (contents : ByteArray)
  | directory (entries : List (String × FileTree))
deriving Inhabited

namespace FileTree

/-- Whether a tree is a directory. -/
def isDirectory : FileTree → Bool
  | directory _ => true
  | file _ => false

/-- The entry of a directory. -/
def child? (t : FileTree) (name : String) : Option FileTree :=
  match t with
  | directory entries => findEntry name entries
  | file _ => none

/-- The tree at a place, given by the names that lead there. -/
def get? (t : FileTree) : List String → Option FileTree
  | [] => some t
  | name :: names => (t.child? name).bind fun t => t.get? names

/-- Put a tree at a place. Nothing is changed if there is no directory for it. -/
def put (new : FileTree) : FileTree → List String → FileTree
  | _, [] => new
  | file contents, _ :: _ => file contents
  | directory entries, [name] => directory (insertEntry name new entries)
  | directory entries, name :: names =>
    match findEntry name entries with
    | none => directory entries
    | some t => directory (insertEntry name (put new t names) entries)

mutual

/-- The files of a tree that stands at a path: depth first, in the order of the names. A directory
whose path is refused cannot be listed and is passed over; a file is listed by its directory. -/
def filesBelow (p : Path) : FileTree → List Path
  | file _ => [p]
  | directory entries => if (Disk.refusal? p).isSome then [] else filesOfEntries p entries

/-- The files of the entries of a directory. -/
def filesOfEntries (p : Path) : List (String × FileTree) → List Path
  | [] => []
  | (name, t) :: entries => filesBelow (p.join ⟨name⟩) t ++ filesOfEntries p entries

end

end FileTree

/-! ### Disks -/

/-- A tree, and the place of the working directory in it. -/
structure Disk where
  root : FileTree
  workingDirectory : List String

namespace Disk

/-- The longest name of a file or a directory, in bytes. -/
def longestName : Nat := 255

/-- The segments of a path; empty ones mean nothing. -/
def segments (p : Path) : List String :=
  ((p.chars.splitOn '/').filter (· ≠ [])).map String.ofList

/-- Whether a path is written with a slash at its end. -/
def endsWithSlash (p : Path) : Bool := p.chars.getLast? == some '/'

/-- Where a path starts. -/
def startOf (d : Disk) (p : Path) : List String :=
  if p.isAbsolute then [] else d.workingDirectory

/-- Follow segments from a place. Every segment needs a directory to start from, and all but the
dots need an entry there. -/
def follow (root : FileTree) : (place : List String) → List String →
    Except SystemError (List String)
  | place, [] => .ok place
  | place, segment :: segments =>
    match root.get? place with
    | none => .error .notFound
    | some (.file _) => .error .notADirectory
    | some (.directory entries) =>
      if segment = "." then follow root place segments
      else if segment = ".." then follow root place.dropLast segments
      else if segment.utf8ByteSize > longestName then .error .nameTooLong
      else if (findEntry segment entries).isNone then .error .notFound
      else follow root (place ++ [segment]) segments

/-- The place of an existing path. -/
def locate (d : Disk) (p : Path) : Except SystemError (List String) :=
  match refusal? p with
  | some e => .error e
  | none => do
    let place ← follow d.root (d.startOf p) (segments p)
    match d.root.get? place with
    | some (.directory _) => .ok place
    | some (.file _) => if endsWithSlash p then .error .notADirectory else .ok place
    | none => .error .notFound

/-- What is at a path. -/
def tree? (d : Disk) (p : Path) : Except SystemError FileTree := do
  match d.root.get? (← d.locate p) with
  | some t => .ok t
  | none => .error .notFound

/-- Whether there is something at a path. -/
def pathExists (d : Disk) (p : Path) : Bool := (d.tree? p).toBool

/-- Whether there is a directory at a path. -/
def isDirectory (d : Disk) (p : Path) : Bool :=
  match d.tree? p with
  | .ok t => t.isDirectory
  | .error _ => false

/-- The files at or below a path that have the given extension. -/
def filesBelow (d : Disk) (p : Path) (extension : String) : List Path :=
  match d.tree? p with
  | .ok t => (t.filesBelow p).filter fun q => q.extension? == some extension
  | .error _ => []

/-- The contents of a text file. -/
def readText (d : Disk) (p : Path) : Except SystemError String := do
  match ← d.tree? p with
  | .directory _ => .error .isADirectory
  | .file contents =>
    match String.fromUTF8? contents with
    | some text => .ok text
    | none => .error .notText

/-! ### Changes -/

/-- The last segment of a path and the place of the directory that it is an entry of; no entry if
the path ends in dots or is the root. -/
def target (d : Disk) (p : Path) : Except SystemError (List String × Option String) :=
  match refusal? p with
  | some e => .error e
  | none =>
    match (segments p).reverse with
    | [] => .ok ([], none)
    | last :: outer => do
      let place ← follow d.root (d.startOf p) outer.reverse
      match d.root.get? place with
      | some (.directory _) =>
        if last = "." ∨ last = ".." then .ok (place, none) else .ok (place, some last)
      | _ => .error .notADirectory

/-- Make one directory. -/
def makeDirectory (d : Disk) (p : Path) : Except SystemError Disk := do
  match ← d.target p with
  | (_, none) => .error .alreadyExists
  | (place, some name) =>
    if name.utf8ByteSize > longestName then .error .nameTooLong
    else if (d.root.get? (place ++ [name])).isSome then .error .alreadyExists
    else .ok { d with root := FileTree.put (.directory []) d.root (place ++ [name]) }

/-- Make the first of the given directories. The others are the ones around it, and are made as
far as they are missing. -/
def createChain (d : Disk) : List Path → Except SystemError Unit × Disk
  | [] => (.error .notFound, d)
  | p :: outer =>
    if p.components = [] then (.ok (), d)
    else
      match d.makeDirectory p with
      | .ok d => (.ok (), d)
      | .error .notFound =>
        match d.createChain outer with
        | (.error e, d) => (.error e, d)
        | (.ok (), d) =>
          match d.makeDirectory p with
          | .ok d => (.ok (), d)
          | .error e => (if d.isDirectory p then .ok () else .error e, d)
      | .error e => (if d.isDirectory p then .ok () else .error e, d)

/-- Write a file in place of one that is there. -/
def writeBytes (d : Disk) (p : Path) (contents : ByteArray) : Except SystemError Disk := do
  match ← d.target p with
  | (_, none) => .error .isADirectory
  | (place, some name) =>
    if endsWithSlash p then .error .isADirectory
    else if name.utf8ByteSize > longestName then .error .nameTooLong
    else
      match d.root.get? (place ++ [name]) with
      | some (.directory _) => .error .isADirectory
      | _ => .ok { d with root := FileTree.put (.file contents) d.root (place ++ [name]) }

/-- The state after an operation; a failed one changes nothing. -/
def settle (d : Disk) : Except SystemError Disk → Except FileError Unit × Disk
  | .ok d' => (.ok (), d')
  | .error e => (.error (.system e), d)

instance : FileStore (StateM Disk) where
  pathExists p := return (← get).pathExists p
  isDirectory p := return (← get).isDirectory p
  filesBelow p extension := return (← get).filesBelow p extension
  readText p := return ((← get).readText p).mapError .system
  createDirectories p := modifyGet fun d =>
    match d.createChain p.ancestors with
    | (result, d) => (result.mapError .system, d)
  writeText p text := modifyGet fun d => d.settle (d.writeBytes p text.toUTF8)

end Disk

end DtoInterfaces
