import DtoInterfaces.FileStore.Basic
import DtoInterfaces.Registry.Inheritance
import DtoInterfaces.SourceScan

/-!
# Discovering the classes to export

The candidates of an export are either the classes that the source files below some path declare,
one for each file, or all registered classes. Those that the registry does not know, that are
abstract, or that do not inherit from the base class are left out. A candidate that comes twice
stays twice in the list.

## Main definitions

* `Discovery` — where candidates come from.
* `Discovery.candidates` — the candidates, in order.
* `Registry.exportable` — the candidates that are left.
* `Discovery.classes` — the classes to export.
-/

namespace DtoInterfaces

/-- Where the candidates of an export come from. -/
inductive Discovery where
  /-- From the source files with an extension. -/
  | sourceFiles (extension : String)
  /-- From the registry. -/
  | registered
deriving DecidableEq

/-- The extension of source files, unless another one is chosen. -/
def defaultExtension : String := "php"

/-- The classes that the files at the given paths declare. A file that cannot be read or declares
no class is passed over. -/
def declaredClasses {m : Type → Type} [Monad m] [FileStore m] : List Path → m (List String)
  | [] => return []
  | p :: ps => do
    let found := match ← FileStore.readText p with
      | .ok source => (SourceScan.declaredClass? source).toList
      | .error _ => []
    return found ++ (← declaredClasses ps)

/-- The candidates, in the order in which they are found. -/
def Discovery.candidates {m : Type → Type} [Monad m] [FileStore m] (d : Discovery) (r : Registry)
    (root : Path) : m (List String) :=
  match d with
  | sourceFiles extension => do declaredClasses (← FileStore.filesBelow root extension)
  | registered => return r.classNames

/-- The candidates that can be exported, under the normal forms of their names. -/
def Registry.exportable (r : Registry) (base : String) (candidates : List String) : List String :=
  (candidates.map ClassName.normalize).filter fun name => r.isExportable name base

/-- The classes to export. -/
def Discovery.classes {m : Type → Type} [Monad m] [FileStore m] (d : Discovery) (r : Registry)
    (base : String) (root : Path) : m (List String) :=
  return r.exportable base (← d.candidates r root)

end DtoInterfaces
