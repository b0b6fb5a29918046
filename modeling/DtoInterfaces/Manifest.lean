import DtoInterfaces.FileStore.Basic
import DtoInterfaces.Registry.Basic

/-!
# Manifests

A manifest is a document that describes classes and enums for a host whose classes cannot be
asked themselves. Of a class it tells what the registry knows, and a mode of construction in
place of constructors: a class constructs, or only when its constructor is bypassed, or not at
all. A map that is not given counts as a missing accessor.

## Main definitions

* `ConstructionMode`, `ClassDescription`, `Manifest` — what a manifest tells.
* `Manifest.read` — read a manifest from a document.
* `Manifest.load` — read a manifest from a file.
* `ClassDescription.entry` — the class that is described.
* `Registry.extend`, `Registry.ofManifest` — register everything in a manifest.
-/

namespace DtoInterfaces

/-! ### Contents -/

/-- How a described class is constructed. -/
inductive ConstructionMode where
  | standard
  | bypass
  | unavailable
deriving DecidableEq

/-- The name of a mode. -/
def ConstructionMode.name : ConstructionMode → String
  | standard => "standard"
  | bypass => "bypass"
  | unavailable => "unavailable"

/-- The description of a class. -/
structure ClassDescription where
  parent : Option String
  isAbstract : Bool
  construction : ConstructionMode
  /-- The message of a failing construction. -/
  constructionError : Option String
  casts : Option (PropertyMap Cast)
  rules : Option (PropertyMap Rules)
  defaults : Option (PropertyMap Json.Value)
  /-- The declared properties, each with the cast it is annotated with. -/
  properties : PropertyMap (Option String)

/-- The description of a class about which nothing is said. -/
def ClassDescription.blank : ClassDescription :=
  ⟨none, false, .standard, none, none, none, none, .empty⟩

/-- The descriptions of classes and enums, by name. -/
structure Manifest where
  classes : PropertyMap ClassDescription
  enums : PropertyMap (List EnumCase)

/-! ### Reading -/

section Reading

open Json.Reader

/-- Read a mode of construction. -/
def ConstructionMode.read : Json.Reader ConstructionMode :=
  alternative ([standard, bypass, unavailable].map fun mode => (mode.name, mode))

/-- Read the description of a declared property. -/
def readProperty : Json.Reader (Option String) :=
  record "PropertyManifest" 0 [.setting "cast" (nullable text) fun cast _ => cast] none

/-- Read the casts of the properties. -/
def readCasts : Json.Reader (PropertyMap Cast) := propertyMap Cast.read

/-- Read the rules of the properties. -/
def readRules : Json.Reader (PropertyMap Rules) := propertyMap Rules.read

/-- Read the default values of the properties. -/
def readDefaults : Json.Reader (PropertyMap Json.Value) := propertyMap kept

/-- Read the description of a class. -/
def ClassDescription.read : Json.Reader ClassDescription :=
  record "ClassManifest" 0
    [.setting "extends" (nullable text) fun parent c => { c with parent },
      .setting "abstract" boolean fun isAbstract c => { c with isAbstract },
      .setting "construction" ConstructionMode.read fun construction c => { c with construction },
      .setting "constructionError" (nullable text) fun constructionError c =>
        { c with constructionError },
      .setting "casts" (nullable readCasts) fun casts c => { c with casts },
      .setting "rules" (nullable readRules) fun rules c => { c with rules },
      .setting "defaults" (nullable readDefaults) fun defaults c => { c with defaults },
      .setting "properties" (propertyMap readProperty) fun properties c => { c with properties }]
    .blank

/-- Read a manifest. -/
def Manifest.read : Json.Reader Manifest :=
  record "Manifest" 0
    [.setting "classes" (propertyMap ClassDescription.read) fun classes m => { m with classes },
      .setting "enums" (propertyMap EnumCase.readList) fun enums m => { m with enums }]
    ⟨.empty, .empty⟩

end Reading

/-! ### Loading -/

/-- Why a manifest cannot be loaded. -/
inductive ManifestError where
  | unreadable (e : FileError)
  | invalid (fault : Json.Fault)
deriving DecidableEq

/-- The wording, given the one for the faults of documents. -/
def ManifestError.message (faultMessage : Json.Fault → String) : ManifestError → String
  | unreadable e => "Failed to read manifest: " ++ e.message
  | invalid fault => "Invalid manifest: " ++ faultMessage fault

/-- Read a manifest from a file. -/
def Manifest.load {m : Type → Type} [Monad m] [FileStore m] (path : Path) :
    m (Except ManifestError Manifest) := do
  match ← FileStore.readText path with
  | .error e => return .error (.unreadable e)
  | .ok text => return (Manifest.read.run text).mapError .invalid

/-! ### Registering -/

/-- The message of a failing construction for which no other message is given. -/
def stockConstructionError : String := "constructor rejected empty input"

/-- The class that is described, under a name in any spelling. -/
def ClassDescription.entry (c : ClassDescription) (name : String) : ClassEntry :=
  let info := ClassInfo.ofNames name c.parent c.isAbstract
    (c.properties.toList.map fun property => ⟨property.1, property.2⟩)
  let success : Except String DtoInstance := .ok (.ofMaps c.casts c.rules c.defaults)
  let failure : Except String DtoInstance :=
    .error (c.constructionError.getD stockConstructionError)
  match c.construction with
  | .standard => ⟨info, some success, some success⟩
  | .bypass => ⟨info, some failure, some success⟩
  | .unavailable => ⟨info, some failure, some failure⟩

namespace Registry

/-- Register the classes of a manifest, and then its enums, in their order. -/
def extend (r : Registry) (m : Manifest) : Registry :=
  m.enums.toList.foldl (fun r described => r.registerEnum described.1 described.2)
    (m.classes.toList.foldl (fun r described => r.register (described.2.entry described.1)) r)

/-- The registry of a manifest alone. -/
def ofManifest (m : Manifest) : Registry := empty.extend m

end Registry

end DtoInterfaces
