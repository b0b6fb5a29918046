import DtoInterfaces.Export.Run
import DtoInterfaces.Json.Reader

/-!
# The configuration of a project

A project is configured by a document in its directory. Every setting can be left out, and an
unknown one is ignored. The directory in which classes are looked for follows from the namespace:
its parts are directories, except that a part `App` in front of others is written in lower case.

## Main definitions

* `Config` — the settings.
* `Config.read` — read them from a document.
* `Config.text` — the document in which they are written.
* `Config.sourcePath`, `Config.outputPath`, `Config.manifestPath` — the paths that follow from
  them in the directory of a project.
-/

namespace DtoInterfaces

/-- The settings for looking at source files. -/
structure ScanSettings where
  extension : String
deriving DecidableEq

/-- The settings for the generated file. -/
structure OutputSettings where
  /-- The directory of the file. -/
  path : String
  filename : String
deriving DecidableEq

/-- The settings of a project. -/
structure Config where
  /-- The namespace of the classes. -/
  classNamespace : String
  /-- The class that exported classes inherit from. -/
  baseClass : String
  /-- The path of the manifest. -/
  manifest : String
  scan : ScanSettings
  output : OutputSettings
deriving DecidableEq

namespace Config

/-- The name of the document in which a project is configured. -/
def filename : String := "dtogen.config.json"

/-! ### Settings that are left out -/

/-- The namespace, unless another one is chosen. -/
def defaultNamespace : String := "App\\DTO"

/-- The settings where nothing is chosen. -/
def standard : Config where
  classNamespace := defaultNamespace
  baseClass := ClassName.defaultBase
  manifest := "dtogen.manifest.json"
  scan := ⟨defaultExtension⟩
  output := ⟨"resources/typescript", defaultFilename⟩

/-! ### Reading and writing -/

section Reading

open Json.Reader

/-- Read the settings for looking at source files. -/
def readScan : Json.Reader ScanSettings :=
  record "ScanConfig" 0 [.setting "extension" text fun extension s => { s with extension }]
    standard.scan

/-- Read the settings for the generated file. -/
def readOutput : Json.Reader OutputSettings :=
  record "TypescriptConfig" 0
    [.setting "outputPath" text fun path s => { s with path },
      .setting "filename" text fun filename s => { s with filename }]
    standard.output

/-- Read the settings of a project. -/
def read : Json.Reader Config :=
  record "Config" 0
    [.setting "namespace" text fun classNamespace c => { c with classNamespace },
      .setting "baseClass" text fun baseClass c => { c with baseClass },
      .setting "manifest" text fun manifest c => { c with manifest },
      .setting "scan" readScan fun scan c => { c with scan },
      .setting "typescript" readOutput fun output c => { c with output }]
    standard

end Reading

/-- The settings as a value. -/
def value (c : Config) : Json.Value :=
  .object
    [("namespace", .string c.classNamespace), ("baseClass", .string c.baseClass),
      ("manifest", .string c.manifest),
      ("scan", .object [("extension", .string c.scan.extension)]),
      ("typescript",
        .object [("outputPath", .string c.output.path), ("filename", .string c.output.filename)])]

/-- The document in which the settings are written. -/
def text (c : Config) : String := String.ofList (c.value.indented 0)

/-! ### Paths -/

/-- The directory of the classes of a namespace: backslashes separate directories, and `App`
is written in lower case wherever a separator follows it. -/
def directoryOfNamespace (cs : List Char) : List Char :=
  Text.replaceAll "App/".toList "app/".toList
    (cs.map fun c => if c = ClassName.separator then '/' else c)

/-- Where classes are looked for. -/
def sourcePath (c : Config) (project : Path) : Path :=
  project.join ⟨String.ofList (directoryOfNamespace c.classNamespace.toList)⟩

/-- The directory of the generated file. -/
def outputPath (c : Config) (project : Path) : Path := project.join ⟨c.output.path⟩

/-- The path of the manifest. -/
def manifestPath (c : Config) (project : Path) : Path := project.join ⟨c.manifest⟩

end Config

end DtoInterfaces
