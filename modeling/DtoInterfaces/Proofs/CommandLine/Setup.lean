import DtoInterfaces.CommandLine.Project
import DtoInterfaces.Proofs.FileStore.Disk
import DtoInterfaces.Proofs.FileStore.DotlessPaths
import DtoInterfaces.Proofs.Json.IndentedValues

/-!
# The configuration of a new project

Setting up a project writes a configuration with the chosen namespace, and the other commands read
it back. What is read is what was meant: each setting is written under the name under which it is
looked for, so none of them falls back to its standard unnoticed, and the namespace is written as a
string, whatever characters it has.

The configuration is written first, and an example of a manifest after it. They have different names
in the directory of the project, so the second leaves the first as it is.

## Main results

* `Config.run_text` — every configuration reads back.
* `CommandLine.initProject_writes` — what setting up a project puts on a disk.
* `CommandLine.loadConfig_initProject` — the configuration of a project that has been set up.
-/

namespace DtoInterfaces

/-! ### Written configurations -/

namespace Config

theorem read_ofValue (c : Config) : read 0 (Json.Doc.ofValue c.value) = .ok c := by
  simp [read, readScan, readOutput, value, Json.Doc.ofValue, Json.Doc.ofMembers, Json.Reader.record,
    Json.Reader.recordMembers, Json.Reader.Field.setting, Json.Reader.inside, Json.Reader.text,
    Json.depthLimit, Except.map, Bind.bind, Except.bind]

/-- **Every configuration reads back** from the text in which it is written. -/
theorem run_text (c : Config) : read.run c.text = .ok c := by
  have hfree : c.value.isNumberFree = true := rfl
  rw [text, Json.Reader.run_indented read hfree, read_ofValue]

theorem isName_filename : Path.IsName filename :=
  ⟨by decide, by decide, by decide, by decide⟩

theorem isName_manifest : Path.IsName standard.manifest :=
  ⟨by decide, by decide, by decide, by decide⟩

end Config

/-! ### Operations on a disk -/

namespace Disk

variable (p : Path) (text : String) (d : Disk)

theorem run_pathExists :
    (FileStore.pathExists p : StateM Disk Bool).run d = (d.pathExists p, d) := rfl

theorem run_isDirectory :
    (FileStore.isDirectory p : StateM Disk Bool).run d = (d.isDirectory p, d) := rfl

theorem run_readText : (FileStore.readText p : StateM Disk (Except FileError String)).run d =
    ((d.readText p).mapError .system, d) := rfl

theorem run_writeText : (FileStore.writeText p text : StateM Disk (Except FileError Unit)).run d =
    d.settle (d.writeBytes p text.toUTF8) := rfl

variable {p text d}

theorem pathExists_of_readText (h : d.readText p = .ok text) : d.pathExists p = true := by
  obtain ⟨t, ht, -⟩ := exists_of_bind_eq_ok h
  rw [pathExists, ht]
  rfl

end Disk

/-! ### Setting up a project -/

namespace CommandLine

variable {d d' : Disk} {project : Path} {classNamespace : String} {force : Bool}
  {outcome : Outcome}

/-- **What setting up a project puts on a disk** if it succeeds and is not stopped by a
configuration that is there: the configuration, and after it the manifest, unless there is one that
stays. -/
theorem initProject_writes
    (hinit : (initProject project classNamespace force : StateM Disk Outcome).run d = (outcome, d'))
    (hsuccess : outcome.failure = none)
    (hfree : force = true ∨ d.pathExists (project.join ⟨Config.filename⟩) = false) :
    ∃ between, d.writeBytes (project.join ⟨Config.filename⟩)
        (Config.text { Config.standard with classNamespace }).toUTF8 = .ok between ∧
      (d' = between ∨ between.writeBytes (project.join ⟨Config.standard.manifest⟩)
        exampleManifest.toUTF8 = .ok d') := by
  have hwrites : ¬ (d.pathExists (project.join ⟨Config.filename⟩) && !force) = true := by
    rcases hfree with hforce | habsent
    · simp [hforce]
    · simp [habsent]
  rw [initProject, run_bind_state, Disk.run_pathExists] at hinit
  dsimp only at hinit
  rw [if_neg hwrites, run_bind_state, Disk.run_writeText] at hinit
  cases hconfig : d.writeBytes (project.join ⟨Config.filename⟩)
      (Config.text { Config.standard with classNamespace }).toUTF8 with
  | error e =>
    rw [hconfig] at hinit
    cases hinit
    cases hsuccess
  | ok between =>
    refine ⟨between, rfl, ?_⟩
    rw [hconfig, Disk.settle] at hinit
    dsimp only at hinit
    rw [run_bind_state, Disk.run_pathExists] at hinit
    dsimp only at hinit
    split at hinit
    · cases hinit
      exact .inl rfl
    · rw [run_bind_state, Disk.run_writeText] at hinit
      cases hmanifest : between.writeBytes (project.join ⟨Config.standard.manifest⟩)
          exampleManifest.toUTF8 with
      | error e =>
        rw [Config.manifestPath, hmanifest] at hinit
        cases hinit
        cases hsuccess
      | ok after =>
        rw [Config.manifestPath, hmanifest] at hinit
        cases hinit
        exact .inr rfl

theorem loadConfig_run_of_readText {text : String}
    (h : d.readText (project.join ⟨Config.filename⟩) = .ok text) :
    (loadConfig project : StateM Disk (Except Failure Config)).run d =
      ((Config.read.run text).mapError .invalidConfig, d) := by
  rw [loadConfig, run_bind_state, Disk.run_pathExists, Disk.pathExists_of_readText h]
  dsimp only
  rw [if_pos rfl, run_bind_state, Disk.run_readText, h]
  rfl

/-- **A new project is configured as it was set up.** If there was no configuration or force is
used, and setting up the project succeeds, then loading the configuration succeeds and gives the
namespace that was chosen, whatever its characters, and the standard for everything else. A disk has
no links, by which the manifest could be written over the configuration. -/
theorem loadConfig_initProject
    (hinit : (initProject project classNamespace force : StateM Disk Outcome).run d = (outcome, d'))
    (hsuccess : outcome.failure = none)
    (hfree : force = true ∨ d.pathExists (project.join ⟨Config.filename⟩) = false) :
    (loadConfig project : StateM Disk (Except Failure Config)).run d' =
      (.ok { Config.standard with classNamespace }, d') := by
  obtain ⟨between, hconfig, hmanifest⟩ := initProject_writes hinit hsuccess hfree
  have hread : d'.readText (project.join ⟨Config.filename⟩) =
      .ok (Config.text { Config.standard with classNamespace }) := by
    rcases hmanifest with rfl | hmanifest
    · exact Disk.readText_writeBytes hconfig
    · refine Disk.readText_writeBytes_writeBytes ?_ hconfig hmanifest
      rw [Path.segments_join Config.isName_filename, Path.segments_join Config.isName_manifest,
        List.getLast?_concat, List.getLast?_concat]
      decide
  rw [loadConfig_run_of_readText hread, Config.run_text]
  rfl

/-- A disk with a project that has a manifest and a broken configuration. -/
def oldProject : Disk where
  root := .directory [("srv", .directory
    [("dtogen.config.json", .file "\x7b".toUTF8), ("dtogen.manifest.json", .file "".toUTF8)])]
  workingDirectory := ["srv"]

/-- A namespace with a quote, a backslash, a control character and a letter outside of the code
table of single bytes. -/
def oddNamespace : String := "App\\\"\u0001λ"

/-- A disk on which the odd project has been set up with force. -/
def newProject : Outcome × Disk :=
  (initProject ⟨""⟩ oddNamespace true : StateM Disk Outcome).run oldProject

/-- Both documents are written over, and the odd namespace reads back. -/
theorem loadConfig_initProject_oddNamespace : newProject.1.failure = none ∧
    oldProject.pathExists ⟨"dtogen.manifest.json"⟩ = true ∧
    (loadConfig ⟨""⟩ : StateM Disk (Except Failure Config)).run newProject.2 =
      (.ok { Config.standard with classNamespace := oddNamespace }, newProject.2) := by
  have hsuccess : newProject.1.failure = none := by decide +kernel
  have hinit : (initProject ⟨""⟩ oddNamespace true : StateM Disk Outcome).run oldProject =
      (newProject.1, newProject.2) := rfl
  exact ⟨hsuccess, by decide +kernel, loadConfig_initProject hinit hsuccess (.inl rfl)⟩

end CommandLine

end DtoInterfaces
