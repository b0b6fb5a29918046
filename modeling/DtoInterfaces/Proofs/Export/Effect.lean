import DtoInterfaces.Proofs.Export.Accounting
import DtoInterfaces.Proofs.FileStore.Memory

/-!
# What an export leaves behind

An export into files in memory ends in one of four ways, and each of them says exactly what has
changed. If there is nothing to write nothing changes. If the directory is missing and cannot be
made nothing changes either. If the file is refused the directory has been made and stays. If the
export ends well the file has its contents, and the directory is there.

## The half-done case

The file is refused by the store that has the directory already, so what is left behind is that
store and not the one before. The reason is to be looked for there as well: a place that was
missing before may have come with the directory.

## Main definitions

* `Exporter.blocks` — the interfaces that an export writes, as they are written.
* `Exporter.Effect` — what has changed, by the answer.

## Main results

* `emit_run_memory` — emitting a file, in one equation.
* `Exporter.runIn_effect` — the effect of an export.
-/

namespace DtoInterfaces

/-! ### Emitting a file -/

section Emission

variable {s s' : MemoryFiles} {output path : Path} {filename text : String}

/-- Making the directory of a file: only where it is missing and denied this fails. -/
theorem ensureDirectory_run :
    (ensureDirectory output : StateM MemoryFiles (Except FileError Unit)).run s =
      if s.isDirectory output = false ∧ s.isDenied output = true then (.error (.denied output), s)
      else (.ok (), s.withDirectory output) := by
  have hlook : (FileStore.isDirectory output : StateM MemoryFiles Bool).run s =
      (s.isDirectory output, s) := rfl
  have hmake : (FileStore.createDirectories output : StateM MemoryFiles (Except FileError Unit)).run
      s = s.createDirectories output := rfl
  rw [ensureDirectory, run_bind_state, hlook]
  cases hthere : s.isDirectory output with
  | true =>
    simp only [if_true, MemoryFiles.withDirectory, hthere, Bool.true_eq_false, false_and, if_false]
    rfl
  | false =>
    simp only [Bool.false_eq_true, if_false, hmake, MemoryFiles.createDirectories,
      MemoryFiles.withDirectory, hthere, MemoryFiles.addDirectory, true_and]

/-- **Emitting a file, in one equation.** The answer tells how far it has come. -/
theorem emit_run_memory :
    (emit output filename text : StateM MemoryFiles (Except ExportError Path)).run s =
      if s.isDirectory output = false ∧ s.isDenied output = true then
        (.error (.createDirectory output (.denied output)), s)
      else
        match (s.withDirectory output).writeText (output.join ⟨filename⟩) text with
        | (.error e, after) => (.error (.write (output.join ⟨filename⟩) e), after)
        | (.ok (), after) => (.ok (output.join ⟨filename⟩), after) := by
  have hwrite : (FileStore.writeText (output.join ⟨filename⟩) text :
      StateM MemoryFiles (Except FileError Unit)).run (s.withDirectory output) =
      (s.withDirectory output).writeText (output.join ⟨filename⟩) text := rfl
  rw [emit_run, ensureDirectory_run]
  by_cases hrefused : s.isDirectory output = false ∧ s.isDenied output = true
  · rw [if_pos hrefused, if_pos hrefused]
  · rw [if_neg hrefused, if_neg hrefused]
    simp only [hwrite]
    rcases (s.withDirectory output).writeText (output.join ⟨filename⟩) text with ⟨e | _, after⟩
    · rfl
    · rfl

-- the half-done case: there is no place for the file, and the directory has been made
example :
    ((emit ⟨"/out"⟩ "a/b.ts" "x" : StateM MemoryFiles (Except ExportError Path)).run
      .empty).2.directories.keys = [⟨"/"⟩, ⟨"/out"⟩] := by
  decide +kernel

end Emission

/-! ### The export -/

namespace Exporter

/-- The interfaces that an export writes, as they are written. -/
def blocks (e : Exporter) (root : Path) (files : MemoryFiles) : List (List Char) :=
  ((e.selected root files).filterMap e.registry.exportOf?).map Interface.write

/-- What has changed from `before` to `after` behind an export of some blocks to a file in the
directory `output`, by its answer. -/
def Effect (blocks : List (List Char)) (time : String) (output : Path) (filename : String)
    (before after : MemoryFiles) : Except ExportError ExportReport → Prop
  | .ok ⟨_, none, _⟩ => blocks = [] ∧ after = before
  | .ok ⟨_, some path, _⟩ =>
    blocks ≠ [] ∧ path = output.join ⟨filename⟩ ∧
      after.readText path = .ok (fileText blocks time) ∧
      (∀ other, other.components ≠ path.components →
        after.contents? other = before.contents? other) ∧
      MemoryFiles.HasGrown before after output
  | .error (.createDirectory path _) =>
    blocks ≠ [] ∧ path = output ∧
      before.isDirectory output = false ∧ before.isDenied output = true ∧ after = before
  | .error (.write path _) =>
    blocks ≠ [] ∧ path = output.join ⟨filename⟩ ∧
      (after.hasPlaceFor path = false ∨ after.isDenied path = true) ∧
      after.files = before.files ∧ MemoryFiles.HasGrown before after output

/-- The effect of publishing what has come of some classes, case by case: there is nothing to write,
the directory is refused, the file is refused, or the file is written. -/
theorem publish_effect (harvest : Session.Harvest) (files : MemoryFiles) (output : Path)
    (filename time : String) :
    let published :=
      (publish (m := StateM MemoryFiles) (pure time) output filename harvest).run files
    Effect (harvest.interfaces.map Interface.write) time output filename files published.2
      published.1 := by
  rw [publish_run, emit_run_memory]
  by_cases hnil : harvest.interfaces = []
  · rw [if_pos hnil]
    exact ⟨by rw [hnil, List.map_nil], rfl⟩
  · rw [if_neg hnil]
    have hsome : harvest.interfaces.map Interface.write ≠ [] := by simpa using hnil
    by_cases hrefused : files.isDirectory output = false ∧ files.isDenied output = true
    · rw [if_pos hrefused]
      exact ⟨hsome, rfl, hrefused.1, hrefused.2, rfl⟩
    · rw [if_neg hrefused]
      rcases hwrite : (files.withDirectory output).writeText (output.join ⟨filename⟩)
          (fileText (harvest.interfaces.map Interface.write) time) with ⟨cause | _, after⟩
      · obtain ⟨rfl, hreason⟩ := MemoryFiles.writeText_eq_error hwrite
        exact ⟨hsome, rfl, hreason, MemoryFiles.files_withDirectory,
          MemoryFiles.hasGrown_withDirectory files output⟩
      · have hgrown := MemoryFiles.hasGrown_of_writeText hwrite
        obtain ⟨-, -, rfl⟩ := MemoryFiles.writeText_eq_ok_iff.1 hwrite
        refine ⟨hsome, rfl, ?_, fun other hother => ?_, hgrown⟩
        · rw [MemoryFiles.readText, MemoryFiles.contents?_insert]
        · rw [MemoryFiles.contents?_insert_of_ne hother, MemoryFiles.contents?,
            MemoryFiles.files_withDirectory, MemoryFiles.contents?]

/-- **The effect of an export.** Whatever the exporter, its session, the files and the place to
write to are: the answer of an export says exactly what it has changed. -/
theorem runIn_effect (e : Exporter) (s : Session) (files : MemoryFiles) (root output : Path)
    (filename time : String) :
    let done := (e.runIn (m := StateM MemoryFiles) s (pure time) root output filename).run files
    Effect (e.blocks root files) time output filename files done.2 done.1.1 := by
  rw [runIn_run]
  exact publish_effect _ files output filename time

/-- An export whose directory is missing and can be made: afterwards there is the directory, and the
file with what the selected classes have become. -/
theorem runIn_run_missing {e : Exporter} {s : Session} {files : MemoryFiles} {root output : Path}
    {filename time : String} {names : List String} {is : List Interface}
    {skipped : List SkippedClass} (hselected : e.selected root files = names)
    (hexport : names.filterMap e.registry.exportOf? = is) (hsome : is ≠ [])
    (hskip : names.filterMap e.registry.skipOf? = skipped)
    (hmissing : files.isDirectory output = false) (hallowed : files.isDenied output = false)
    (hplace : (files.addDirectory output).hasPlaceFor (output.join ⟨filename⟩) = true)
    (hopen : files.isDenied (output.join ⟨filename⟩) = false) :
    (e.runIn (m := StateM MemoryFiles) s (pure time) root output filename).run files =
      ((.ok ⟨is.length, some (output.join ⟨filename⟩), skipped⟩, ⟨names.reverse⟩),
        { files.addDirectory output with
          files := files.files.insert (output.join ⟨filename⟩)
            (fileText (is.map Interface.write) time) }) := by
  have hmade : files.withDirectory output = files.addDirectory output :=
    if_neg (by simp [hmissing])
  have hwrite : (files.addDirectory output).writeText (output.join ⟨filename⟩)
      (fileText (is.map Interface.write) time) =
        (.ok (), { files.addDirectory output with
          files := files.files.insert (output.join ⟨filename⟩)
            (fileText (is.map Interface.write) time) }) :=
    MemoryFiles.writeText_eq_ok_iff.2 ⟨hplace, hopen, rfl⟩
  rw [runIn_run]
  simp only [hselected, hexport, hskip, publish_run, if_neg hsome, emit_run_memory, hallowed,
    Bool.false_eq_true, and_false, if_false, hmade, hwrite]

end Exporter

end DtoInterfaces
