import DtoInterfaces.Proofs.Export.Effect
import Mathlib.Data.List.Basic

/-!
# Exporting again

An export that has ended well can be repeated: it gives the same report and changes nothing. Two
things could get in the way. The exporter remembers what it has dealt with, and the first export
has changed the files that the second one scans. The first is no obstacle because an export clears
its session before it starts. The second is one only if the file that is written is itself scanned,
so the written path has to lie outside the root or to have another extension.

## What an export reads

Of the store an export reads the scanned files for its candidates, and the directories and the
denied places for its file. Writing one file that is not scanned changes none of these, and making
the directory changes only what the second export then finds in place.

## Main definitions

* `Exporter.IsScanned` — whether an export takes a path for a source file.

## Main results

* `Exporter.candidatesIn_insert` — a file that is not scanned does not change the candidates.
* `emit_again` — emitting a file that has just been emitted changes nothing.
* `Exporter.runIn_again` — exporting again.
-/

namespace DtoInterfaces

/-! ### Emitting again -/

section Emission

variable {s s' : MemoryFiles} {output path : Path} {filename text : String}

/-- A file that is emitted is accepted by the store with the directory in place. -/
theorem writeText_of_emit
    (h : (emit (m := StateM MemoryFiles) output filename text).run s = (.ok path, s')) :
    ¬ (s.isDirectory output = false ∧ s.isDenied output = true) ∧ path = output.join ⟨filename⟩ ∧
      (s.withDirectory output).writeText path text = (.ok (), s') := by
  rw [emit_run_memory] at h
  split at h
  · cases h
  · refine ⟨‹_›, ?_⟩
    split at h
    · cases h
    · rename_i after hwrite
      cases h
      exact ⟨rfl, hwrite⟩

/-- **Emitting a file again** changes nothing. The directory is in place now, or it is the empty
path, which was allowed to be made and still is; the file is written over with its own contents. -/
theorem emit_again
    (h : (emit (m := StateM MemoryFiles) output filename text).run s = (.ok path, s')) :
    (emit (m := StateM MemoryFiles) output filename text).run s' = (.ok path, s') := by
  obtain ⟨hallowed, rfl, hwrite⟩ := writeText_of_emit h
  have hgrown := MemoryFiles.hasGrown_of_writeText hwrite
  have hstill : ¬ (s'.isDirectory output = false ∧ s'.isDenied output = true) := by
    rintro ⟨hmissing, hdenied⟩
    rw [MemoryFiles.isDenied_congr hgrown.denied_eq] at hdenied
    refine hallowed ⟨?_, hdenied⟩
    by_contra hthere
    rw [Bool.not_eq_false] at hthere
    rw [hgrown.isDirectory_of_isDirectory hthere] at hmissing
    cases hmissing
  have hplace : s'.withDirectory output = s' := by
    obtain ⟨-, -, hs'⟩ := MemoryFiles.writeText_eq_ok_iff.1 hwrite
    rw [hs', MemoryFiles.withDirectory_files, MemoryFiles.withDirectory_withDirectory]
  rw [emit_run_memory, if_neg hstill, hplace, MemoryFiles.writeText_again hwrite]

end Emission

/-! ### Scanning again -/

namespace Exporter

variable {e : Exporter} {root output path : Path} {files files' : MemoryFiles}
  {filename time text : String} {s s' : Session} {report : ExportReport}

/-- Whether an export takes a path for the path of a source file. -/
def IsScanned (e : Exporter) (root path : Path) : Prop :=
  ∃ extension, e.discovery = .sourceFiles extension ∧ path.isBelow root = true ∧
    path.extension? = some extension

/-- The classes that some files declare, by what the files hold. -/
theorem declaredClasses_run (ps : List Path) (files : MemoryFiles) :
    (declaredClasses (m := StateM MemoryFiles) ps).run files =
      (ps.flatMap fun p => ((files.contents? p).bind SourceScan.declaredClass?).toList, files) := by
  induction ps with
  | nil => rfl
  | cons p ps ih =>
    have hread : (FileStore.readText p : StateM MemoryFiles (Except FileError String)).run files =
        (files.readText p, files) := rfl
    rw [declaredClasses, run_bind_state, hread, List.flatMap_cons, MemoryFiles.readText]
    cases files.contents? p with
    | none =>
      simp only [run_bind_state, ih]
      rfl
    | some source =>
      simp only [run_bind_state, ih]
      rfl

/-- The candidates of an export, by the files below the root. -/
theorem candidatesIn_eq :
    e.candidatesIn root files =
      match e.discovery with
      | .sourceFiles extension => (files.filesBelow root extension).flatMap fun p =>
          ((files.contents? p).bind SourceScan.declaredClass?).toList
      | .registered => e.registry.classNames := by
  unfold candidatesIn Discovery.candidates
  cases e.discovery with
  | registered => rfl
  | sourceFiles extension => exact congrArg Prod.fst (declaredClasses_run _ files)

theorem candidatesIn_congr (h : files'.files = files.files) :
    e.candidatesIn root files' = e.candidatesIn root files := by
  rw [candidatesIn_eq, candidatesIn_eq]
  unfold MemoryFiles.filesBelow MemoryFiles.contents?
  rw [h]

/-- **A file that is not scanned** does not change the candidates when it is written. -/
theorem candidatesIn_insert (h : ¬ e.IsScanned root path) :
    e.candidatesIn root { files with files := files.files.insert path text } =
      e.candidatesIn root files := by
  rw [candidatesIn_eq, candidatesIn_eq]
  cases hd : e.discovery with
  | registered => rfl
  | sourceFiles extension =>
    have hunscanned : ∀ q : Path, path.components = q.components →
        (q.isBelow root && q.extension? == some extension) = false := by
      intro q hq
      by_contra hscanned
      rw [Bool.not_eq_false, Bool.and_eq_true, beq_iff_eq] at hscanned
      refine h ⟨extension, hd, ?_, ?_⟩
      · rw [Path.isBelow, hq]
        exact hscanned.1
      · rw [Path.extension?, hq]
        exact hscanned.2
    have hlist : MemoryFiles.filesBelow { files with files := files.files.insert path text } root
        extension = files.filesBelow root extension :=
      SortedMap.filter_keys_insert fun q hq => hunscanned q (Path.compare_eq_iff.1 hq)
    simp only [hlist]
    refine List.flatMap_congr fun q hq => ?_
    have hother : q.components ≠ path.components := by
      intro hsame
      have hscanned := (List.mem_filter.1 hq).2
      rw [hunscanned q hsame.symm] at hscanned
      cases hscanned
    rw [MemoryFiles.contents?_insert_of_ne hother]

/-! ### Exporting again -/

variable {harvest : Session.Harvest}

/-- Publishing again gives the same report and changes nothing. -/
theorem publish_again
    (h : (publish (m := StateM MemoryFiles) (pure time) output filename harvest).run files =
      (.ok report, files')) :
    (publish (m := StateM MemoryFiles) (pure time) output filename harvest).run files' =
      (.ok report, files') := by
  rw [publish_run] at h ⊢
  split at h
  · cases h
    rw [if_pos ‹_›]
  · rw [if_neg ‹_›]
    split at h
    · cases h
    · rename_i path after hemit
      cases h
      rw [emit_again hemit]

/-- Publishing does not change the candidates if the published file is not scanned. -/
theorem candidatesIn_publish
    (h : (publish (m := StateM MemoryFiles) (pure time) output filename harvest).run files =
      (.ok report, files'))
    (hwritten : ∀ path, report.file = some path → ¬ e.IsScanned root path) :
    e.candidatesIn root files' = e.candidatesIn root files := by
  rw [publish_run] at h
  split at h
  · cases h
    rfl
  · split at h
    · cases h
    · rename_i path after hemit
      cases h
      obtain ⟨-, -, hwrite⟩ := writeText_of_emit hemit
      obtain ⟨-, -, rfl⟩ := MemoryFiles.writeText_eq_ok_iff.1 hwrite
      rw [candidatesIn_insert (hwritten path rfl)]
      exact candidatesIn_congr MemoryFiles.files_withDirectory

/-- **Exporting again.** An export that has ended well, in whatever session, ends in the same way
when it is repeated in whatever session on the files that it has left: with the same report, and
without any change, as long as the written file is not scanned. The report and the files that are
left do not depend on the session in the first place. -/
theorem runIn_again {e : Exporter} {s s' : Session} {files files' : MemoryFiles}
    {root output : Path} {filename time : String} {report : ExportReport}
    (h : (e.runIn (m := StateM MemoryFiles) s (pure time) root output filename).run files =
      ((.ok report, s'), files'))
    (hwritten : ∀ path, report.file = some path → ¬ e.IsScanned root path) :
    (∀ later, (e.runIn (m := StateM MemoryFiles) later (pure time) root output filename).run
      files' = ((.ok report, s'), files')) ∧
    ∀ other, (e.runIn (m := StateM MemoryFiles) other (pure time) root output filename).run files =
      ((.ok report, s'), files') := by
  refine ⟨fun later => ?_, fun other => ?_⟩
  · rw [runIn_run_harvest] at h
    obtain ⟨hanswer, hfiles⟩ := Prod.mk.inj h
    obtain ⟨hreport, hsession⟩ := Prod.mk.inj hanswer
    have hpublish : (publish (m := StateM MemoryFiles) (pure time) output filename
        (e.harvest s (e.registry.exportable e.baseClass (e.candidatesIn root files)))).run files =
        (.ok report, files') := Prod.ext hreport hfiles
    have hforgets : ∀ names, e.harvest later names = e.harvest s names := fun names => by
      rw [harvest_eq, harvest_eq]
    rw [runIn_run_harvest, candidatesIn_publish hpublish hwritten, hforgets]
    simp only [publish_again hpublish, hsession]
  · rw [runIn_run] at h ⊢
    exact h

/-! ### Two exports in a row -/

/-- An exporter that scans source files and knows a class with one property. -/
def tagExporter : Exporter where
  registry := Registry.empty.register
    ⟨.ofNames "App\\Tag" (some "Base") false [],
      some (.ok (.ofMaps (some (.ofList [("label", .primitive .string)])) none none)), none⟩
  discovery := .sourceFiles defaultExtension
  baseClass := "Base"

/-- A source file that declares the class. -/
def tagFiles : MemoryFiles :=
  MemoryFiles.empty.addFile ⟨"/src/Tag.php"⟩ "namespace App; class Tag"

/-- The interface of the class. -/
def tagInterface : Interface := ⟨"TagInterface", [("label", ⟨.string, true⟩)]⟩

/-- Where the interface is written, which is outside the scanned directory. -/
def tagPath : Path := (⟨"/out"⟩ : Path).join ⟨"dtos.ts"⟩

/-- The report of the export. -/
def tagReport : ExportReport := ⟨1, some tagPath, []⟩

/-- The files that the export leaves behind. -/
def tagFilesAfter : MemoryFiles :=
  let made := tagFiles.addDirectory ⟨"/out"⟩
  { made with files := made.files.insert tagPath (fileText [tagInterface.write] "now") }

/-- Two exports in a row, each in a session of its own. The first one makes the directory and writes
the file, the second one finds both. -/
theorem runIn_again_tagExporter :
    (tagExporter.runIn (m := StateM MemoryFiles) ⟨["App\\Tag"]⟩ (pure "now") ⟨"/src"⟩ ⟨"/out"⟩
      "dtos.ts").run tagFiles = ((.ok tagReport, ⟨["App\\Tag"]⟩), tagFilesAfter) ∧
    ¬ tagExporter.IsScanned ⟨"/src"⟩ tagPath ∧
    (tagExporter.runIn (m := StateM MemoryFiles) ⟨["Base"]⟩ (pure "now") ⟨"/src"⟩ ⟨"/out"⟩
      "dtos.ts").run tagFilesAfter = ((.ok tagReport, ⟨["App\\Tag"]⟩), tagFilesAfter) := by
  have hselected : tagExporter.selected (σ := MemoryFiles) ⟨"/src"⟩ tagFiles = ["App\\Tag"] := by
    decide +kernel
  have hexport : ["App\\Tag"].filterMap tagExporter.registry.exportOf? = [tagInterface] := by
    rfl
  have hskip : ["App\\Tag"].filterMap tagExporter.registry.skipOf? = [] := by
    rfl
  have hrun : (tagExporter.runIn (m := StateM MemoryFiles) ⟨["App\\Tag"]⟩ (pure "now") ⟨"/src"⟩
      ⟨"/out"⟩ "dtos.ts").run tagFiles = ((.ok tagReport, ⟨["App\\Tag"]⟩), tagFilesAfter) := by
    refine runIn_run_missing hselected hexport (List.cons_ne_nil _ _) hskip ?_ ?_ ?_ ?_
    all_goals decide +kernel
  have hunscanned : ¬ tagExporter.IsScanned ⟨"/src"⟩ tagPath := by
    rintro ⟨extension, -, hbelow, -⟩
    exact absurd hbelow (by decide +kernel)
  have hwritten : ∀ path, tagReport.file = some path → ¬ tagExporter.IsScanned ⟨"/src"⟩ path := by
    intro path hpath
    cases hpath
    exact hunscanned
  exact ⟨hrun, hunscanned, (runIn_again hrun hwritten).1 ⟨["Base"]⟩⟩

end Exporter

end DtoInterfaces
