import DtoInterfaces.Proofs.CommandLine.Setup
import DtoInterfaces.Proofs.Export.Accounting
import DtoInterfaces.Proofs.FileStore.Footprint

/-!
# What the command for interfaces touches

The command for interfaces reads three things before it writes anything: the configuration, the
directory of the classes, and the manifest. Each of them can stop it, and then the disk is as it
was. It is as it was, too, if the classes have no interface. Otherwise the one file that is written
is the output, and the directories that are made are the one of the output and those around it.

There is no place between two writes at which the command could be stopped by something that it
reads: whatever it reads, it has read before the directory of the output is made. So the command is
first brought into the form of a few questions to the disk that it finds, with an export at the end.

## Main definitions

* `CommandLine.configOf`, `CommandLine.registryOf` — what the command reads on a disk.
* `CommandLine.outputFile` — where it writes.
* `CommandLine.interfacesOf` — the interfaces that it has to write.

## Main results

* `CommandLine.exportInterfaces_run` — the command, in one equation.
* `CommandLine.exportInterfaces_touches_output` — what it leaves alone.
-/

namespace DtoInterfaces

/-! ### Emitting a file on a disk -/

section Emission

variable {d : Disk} {output : Path} {filename text time : String}

theorem changesOnly_ensureDirectory : d.ChangesOnly output.ancestors []
    ((ensureDirectory output : StateM Disk (Except FileError Unit)).run d).2 := by
  rw [ensureDirectory, run_bind_state, Disk.run_isDirectory]
  by_cases hthere : d.isDirectory output = true
  · rw [if_pos hthere]
    exact .refl d
  · rw [if_neg hthere]
    exact Disk.changesOnly_createChain d output.ancestors

/-- **Emitting a file** changes no other file, whether it succeeds or not. -/
theorem changesOnly_emit : d.ChangesOnly output.ancestors [output.join ⟨filename⟩]
    ((emit output filename text : StateM Disk (Except ExportError Path)).run d).2 := by
  have hmade : d.ChangesOnly output.ancestors []
      ((ensureDirectory output : StateM Disk (Except FileError Unit)).run d).2 :=
    changesOnly_ensureDirectory
  rw [emit_run]
  split
  · rename_i e made hensure
    rw [hensure] at hmade
    exact hmade.mono (List.Subset.refl _) (List.nil_subset _)
  · rename_i made hensure
    rw [hensure] at hmade
    have hwritten := Disk.changesOnly_settle_writeBytes made (output.join ⟨filename⟩) text.toUTF8
    rw [← Disk.run_writeText] at hwritten
    have hboth := hmade.trans hwritten
    rw [List.append_nil, List.nil_append] at hboth
    split
    · rename_i e after hwrite
      rwa [hwrite] at hboth
    · rename_i after hwrite
      rwa [hwrite] at hboth

/-- Publishing what has come of some classes changes no other file than the output. -/
theorem changesOnly_publish {harvest : Session.Harvest} :
    d.ChangesOnly output.ancestors [output.join ⟨filename⟩]
      ((Exporter.publish (pure time) output filename harvest :
        StateM Disk (Except ExportError ExportReport)).run d).2 := by
  rw [publish_run]
  split
  · exact .refl d
  · have hemitted : d.ChangesOnly output.ancestors [output.join ⟨filename⟩]
        ((emit output filename (fileText (harvest.interfaces.map Interface.write) time) :
          StateM Disk (Except ExportError Path)).run d).2 :=
      changesOnly_emit
    split
    · rename_i e after hemit
      rwa [hemit] at hemitted
    · rename_i path after hemit
      rwa [hemit] at hemitted

end Emission

namespace Exporter

variable {e : Exporter} {root output : Path} {filename time : String} {d : Disk}

theorem selected_of_empty (h : e.registry = .empty) : e.selected root d = [] := by
  have hnone : ∀ names, Registry.empty.exportable e.baseClass names = [] := by
    intro names
    rw [Registry.exportable, List.filter_eq_nil_iff]
    intro name _
    rw [Bool.not_eq_true]
    rfl
  rw [selected, h, hnone]
  rfl

theorem runIn_run_of_nil {s : Session}
    (h : (e.selected root d).filterMap e.registry.exportOf? = []) :
    (e.runIn s (pure time) root output filename :
      StateM Disk (Except ExportError ExportReport × Session)).run d =
    ((.ok ⟨0, none, (e.selected root d).filterMap e.registry.skipOf?⟩,
      ⟨(e.selected root d).reverse⟩), d) := by
  rw [runIn_run]
  simp only [h, publish_run, if_true]

theorem changesOnly_runIn {s : Session} : d.ChangesOnly output.ancestors [output.join ⟨filename⟩]
    ((e.runIn s (pure time) root output filename :
      StateM Disk (Except ExportError ExportReport × Session)).run d).2 := by
  rw [runIn_run]
  exact changesOnly_publish

end Exporter

namespace CommandLine

variable {d : Disk} {project : Path} {source output filename : Option String} {config : Config}
  {registry : Registry} {time : String}

/-! ### What is read -/

/-- The configuration that the command finds. -/
def configOf (d : Disk) (project : Path) : Except Failure Config :=
  ((loadConfig project : StateM Disk (Except Failure Config)).run d).1

/-- The classes that the command finds in a manifest. -/
def registryOf (d : Disk) (manifest : Path) : Except Failure Registry :=
  ((loadRegistry manifest : StateM Disk (Except Failure Registry)).run d).1

/-- The directory of the classes. -/
def sourceDirectory (config : Config) (project : Path) (source : Option String) : Path :=
  source.elim (config.sourcePath project) fun p => project.join ⟨p⟩

/-- The directory of the output. -/
def outputDirectory (config : Config) (project : Path) (output : Option String) : Path :=
  output.elim (config.outputPath project) fun p => project.join ⟨p⟩

/-- **The output.** -/
def outputFile (config : Config) (project : Path) (output filename : Option String) : Path :=
  (outputDirectory config project output).join ⟨filename.getD config.output.filename⟩

/-- The exporter for some classes. -/
def exporterOf (config : Config) (registry : Registry) : Exporter :=
  ⟨registry, .sourceFiles config.scan.extension, config.baseClass⟩

/-- The interfaces that there are to write. -/
def interfacesOf (d : Disk) (config : Config) (registry : Registry) (root : Path) :
    List Interface :=
  ((exporterOf config registry).selected root d).filterMap registry.exportOf?

theorem loadConfig_run : (loadConfig project : StateM Disk (Except Failure Config)).run d =
    (configOf d project, d) := by
  refine Prod.ext rfl ?_
  rw [loadConfig, run_bind_state, Disk.run_pathExists]
  dsimp only
  split
  · rw [run_bind_state, Disk.run_readText]
    dsimp only
    split
    · rfl
    · rfl
  · rfl

theorem manifest_load_state (manifest : Path) (d : Disk) :
    ((Manifest.load manifest : StateM Disk (Except ManifestError Manifest)).run d).2 = d := by
  rw [Manifest.load, run_bind_state, Disk.run_readText]
  dsimp only
  split
  · rfl
  · rfl

theorem loadRegistry_run {manifest : Path} :
    (loadRegistry manifest : StateM Disk (Except Failure Registry)).run d =
      (registryOf d manifest, d) := by
  refine Prod.ext rfl ?_
  rw [loadRegistry, run_bind_state, Disk.run_pathExists]
  dsimp only
  split
  · rw [run_bind_state, manifest_load_state]
    split
    · rfl
    · rfl
  · rfl

theorem registryOf_of_missing {manifest : Path} (h : d.pathExists manifest = false) :
    registryOf d manifest = .ok .empty := by
  rw [registryOf, loadRegistry, run_bind_state, Disk.run_pathExists, h]
  rfl

/-! ### The command -/

/-- What an export has come to is said at the end of the command. -/
def conclude : Except ExportError ExportReport → Outcome
  | .error e => .failed [exportHeadline] (.exportFailed e)
  | .ok report => .success (exportHeadline :: reportLines report)

/-- **The command, in one equation:** the questions to the disk that it finds, and then the
export. -/
theorem exportInterfaces_run :
    (exportInterfaces (pure time) project source output filename : StateM Disk Outcome).run d =
    match configOf d project with
    | .error e => (.failed [] e, d)
    | .ok config =>
      let root := sourceDirectory config project source
      if d.isDirectory root = true then
        match registryOf d (config.manifestPath project) with
        | .error e => (.failed [] e, d)
        | .ok registry =>
          let exported := ((exporterOf config registry).runIn .fresh (pure time) root
            (outputDirectory config project output) (filename.getD config.output.filename) :
              StateM Disk (Except ExportError ExportReport × Session)).run d
          (conclude exported.1.1, exported.2)
      else (.failed [] (.noSourceDirectory root), d) := by
  rw [exportInterfaces, run_bind_state, loadConfig_run]
  cases configOf d project with
  | error e => rfl
  | ok config =>
    dsimp only
    rw [run_bind_state, Disk.run_isDirectory, ← sourceDirectory, ← outputDirectory]
    by_cases hthere : d.isDirectory (sourceDirectory config project source) = true
    · simp only [hthere, Bool.not_true, Bool.false_eq_true, if_false, if_true]
      rw [run_bind_state, loadRegistry_run]
      cases registryOf d (config.manifestPath project) with
      | error e => rfl
      | ok registry =>
        dsimp only
        rw [run_bind_state, Exporter.run, ← exporterOf]
        rcases ((exporterOf config registry).runIn .fresh (pure time)
            (sourceDirectory config project source) (outputDirectory config project output)
            (filename.getD config.output.filename) :
              StateM Disk (Except ExportError ExportReport × Session)).run d with
          ⟨⟨e | report, _⟩, _⟩
        · rfl
        · rfl
    · rw [Bool.not_eq_true] at hthere
      simp only [hthere, Bool.not_false, if_true, Bool.false_eq_true, if_false]
      rfl

/-- **The command touches nothing but its output.** On every disk and for all arguments: if the
configuration cannot be loaded, the directory of the classes is none, or the manifest cannot be
loaded, the command fails and the disk is as it was; if there is no interface to write, for example
because there is no manifest, it succeeds and the disk is as it was; and whatever comes of it, the
output is the only file that may be new or have other contents, and the directories around it are
the only ones that may be new. A disk has no links, by which the output could be a second file. -/
theorem exportInterfaces_touches_output (d : Disk) (time : String) (project : Path)
    (source output filename : Option String) :
    let done := (exportInterfaces (pure time) project source output filename :
      StateM Disk Outcome).run d
    (∀ e, configOf d project = .error e → done = (.failed [] e, d)) ∧
    ∀ config, configOf d project = .ok config →
      let root := sourceDirectory config project source
      let manifest := config.manifestPath project
      d.ChangesOnly (outputDirectory config project output).ancestors
        [outputFile config project output filename] done.2 ∧
      (d.isDirectory root = false → done = (.failed [] (.noSourceDirectory root), d)) ∧
      (d.isDirectory root = true →
        (∀ e, registryOf d manifest = .error e → done = (.failed [] e, d)) ∧
        (∀ registry, registryOf d manifest = .ok registry →
          interfacesOf d config registry root = [] → done.1.failure = none ∧ done.2 = d) ∧
        (d.pathExists manifest = false →
          done = (.success [exportHeadline, "No DTO classes found to export."], d))) := by
  intro done
  have hdone : done = _ := exportInterfaces_run
  refine ⟨fun e he => ?_, fun config hconfig => ?_⟩
  · rw [hdone, he]
  · intro root manifest
    rw [hconfig] at hdone
    dsimp only at hdone
    refine ⟨?_, fun hroot => ?_, fun hroot => ?_⟩
    · rw [hdone]
      split
      · split
        · exact .refl d
        · exact Exporter.changesOnly_runIn
      · exact .refl d
    · rw [hdone, hroot]
      rfl
    · rw [if_pos hroot] at hdone
      refine ⟨fun e he => ?_, fun registry hregistry hnil => ?_, fun hmissing => ?_⟩
      · rw [hdone, he]
      · rw [hregistry] at hdone
        dsimp only at hdone
        have hnothing : ((exporterOf config registry).selected root d).filterMap
            (exporterOf config registry).registry.exportOf? = [] := hnil
        rw [Exporter.runIn_run_of_nil hnothing] at hdone
        rw [hdone]
        exact ⟨rfl, rfl⟩
      · rw [registryOf_of_missing hmissing] at hdone
        dsimp only at hdone
        have hnone : (exporterOf config .empty).selected root d = [] :=
          Exporter.selected_of_empty rfl
        rw [Exporter.runIn_run_of_nil (by rw [hnone]; rfl), hnone] at hdone
        rw [hdone]
        rfl

end CommandLine

end DtoInterfaces
