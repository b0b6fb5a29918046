import DtoInterfaces.Proofs.Export.InterfaceNames
import DtoInterfaces.Proofs.Export.Repetition
import DtoInterfaces.Proofs.FileStore.Scans
import DtoInterfaces.Proofs.Registry.Registrations

/-!
# The order in which inputs are supplied

Classes and enums are registered one after another, and so are files put in place. As long as no two
of them go by one name or one path, an export does not show in which order that was done: neither in
what it reports nor in what it leaves behind.

## What remembers the order

The tables of the registry and the table of files do not: a key that is written once has one place
in a sorted table, whenever it is written. The table of directories does. A directory is recorded
under the spelling of the first file that needs it, and a later file that spells it in another way
does not change that. So stores filled in different orders are not the same, and what they have in
common is all that an export looks at: the files, the denied places, and which paths are
directories.

## Main definitions

* `Registry.supply`, `MemoryFiles.addFiles` — register classes and enums, put files in place.
* `MemoryFiles.Agree` — stores that differ at most in the spellings of directories.

## Main results

* `Registry.supply_perm` — the order of registrations does not matter.
* `MemoryFiles.agree_addFiles_perm` — the order of files matters only to the spellings of
  directories.
* `Exporter.runIn_agree` — an export takes stores that agree to stores that agree.
* `Exporter.runIn_supply_perm` — an export does not show the order of what has been supplied.
-/

namespace DtoInterfaces

/-! ### Registrations -/

namespace Registry

/-- Register some classes and some enums. -/
def supply (r : Registry) (classes : List ClassEntry) (enums : List (String × List EnumCase)) :
    Registry :=
  enums.foldl (fun r e => r.registerEnum e.1 e.2) (classes.foldl register r)

variable {classes classes' : List ClassEntry} {enums enums' : List (String × List EnumCase)}

theorem classes_supply (r : Registry) (classes : List ClassEntry)
    (enums : List (String × List EnumCase)) :
    (r.supply classes enums).classes =
      classes.foldl (fun table c => table.insert c.info.name c) r.classes := by
  rw [supply, foldl_keeps Registry.classes
    (fun r (e : String × List EnumCase) => r.registerEnum e.1 e.2) fun _ _ => rfl]
  exact (List.foldl_hom Registry.classes fun _ _ => rfl).symm

theorem enums_supply (r : Registry) (classes : List ClassEntry)
    (enums : List (String × List EnumCase)) :
    (r.supply classes enums).enums =
      enums.foldl (fun table e => table.insert (ClassName.normalize e.1) e.2) r.enums := by
  rw [supply, ← foldl_keeps Registry.enums register (fun _ _ => rfl) classes r]
  exact (List.foldl_hom Registry.enums fun _ _ => rfl).symm

/-- **The order of registrations does not matter** if no class and no enum is registered twice. A
class is registered under the name that it carries, which is a normal form if its facts are stated by
`ClassInfo.ofNames`; an enum is registered under the normal form of the name that is given. -/
theorem supply_perm (hclasses : classes.Perm classes') (henums : enums.Perm enums')
    (hclassNames : (classes.map (·.info.name)).Nodup)
    (henumNames : (enums.map fun e => ClassName.normalize e.1).Nodup) (r : Registry) :
    r.supply classes enums = r.supply classes' enums' := by
  have hclassTable : (r.supply classes enums).classes = (r.supply classes' enums').classes := by
    rw [classes_supply, classes_supply]
    exact SortedMap.foldl_insert_perm id hclasses hclassNames r.classes
  have henumTable : (r.supply classes enums).enums = (r.supply classes' enums').enums := by
    rw [enums_supply, enums_supply]
    exact SortedMap.foldl_insert_perm Prod.snd henums henumNames r.enums
  calc r.supply classes enums
      = ⟨(r.supply classes enums).classes, (r.supply classes enums).enums⟩ := rfl
    _ = ⟨(r.supply classes' enums').classes, (r.supply classes' enums').enums⟩ := by
      rw [hclassTable, henumTable]

end Registry

/-! ### Files -/

namespace MemoryFiles

variable {s s' s'' : MemoryFiles} {p q : Path} {text text' : String}
  {files files' : List (Path × String)}

/-- Stores that differ at most in the spellings of directories. -/
structure Agree (s s' : MemoryFiles) : Prop where
  files_eq : s.files = s'.files
  denied_eq : s.denied = s'.denied
  isDirectory_eq : ∀ p, s.isDirectory p = s'.isDirectory p

namespace Agree

theorem refl (s : MemoryFiles) : s.Agree s := ⟨rfl, rfl, fun _ => rfl⟩

theorem symm (h : s.Agree s') : s'.Agree s :=
  ⟨h.files_eq.symm, h.denied_eq.symm, fun p => (h.isDirectory_eq p).symm⟩

theorem trans (h : s.Agree s') (h' : s'.Agree s'') : s.Agree s'' :=
  ⟨h.files_eq.trans h'.files_eq, h.denied_eq.trans h'.denied_eq,
    fun p => (h.isDirectory_eq p).trans (h'.isDirectory_eq p)⟩

theorem hasPlaceFor_eq (h : s.Agree s') (p : Path) : s.hasPlaceFor p = s'.hasPlaceFor p := by
  simp only [hasPlaceFor, h.isDirectory_eq]

theorem mem_components_directories (h : s.Agree s') {cs : List Component}
    (hcs : cs ∈ s.directories.keys.map Path.components) :
    cs ∈ s'.directories.keys.map Path.components := by
  obtain ⟨p, hp, rfl⟩ := List.mem_map.1 hcs
  have hthere : s.isDirectory p = true := SortedMap.contains_path_iff.2 ⟨p, hp, rfl⟩
  rw [h.isDirectory_eq] at hthere
  obtain ⟨q, hq, hcomponents⟩ := SortedMap.contains_path_iff.1 hthere
  exact List.mem_map.2 ⟨q, hq, hcomponents⟩

theorem map_components_directories (h : s.Agree s') :
    s.directories.keys.map Path.components = s'.directories.keys.map Path.components :=
  map_components_eq s.directories.pairwise_keys s'.directories.pairwise_keys fun _ =>
    ⟨h.mem_components_directories, h.symm.mem_components_directories⟩

/-- Recording directories, in whatever spellings, keeps stores in agreement. -/
theorem addDirectories (h : s.Agree s') (ps : List Path) :
    (s.addDirectories ps).Agree (s'.addDirectories ps) where
  files_eq := h.files_eq
  denied_eq := h.denied_eq
  isDirectory_eq q := by
    rw [Bool.eq_iff_iff, isDirectory_addDirectories_iff, isDirectory_addDirectories_iff,
      h.isDirectory_eq]

theorem insert (h : s.Agree s') (p : Path) (text : String) :
    Agree { s with files := s.files.insert p text } { s' with files := s'.files.insert p text } where
  files_eq := congrArg (·.insert p text) h.files_eq
  denied_eq := h.denied_eq
  isDirectory_eq := h.isDirectory_eq

theorem addFile (h : s.Agree s') (p : Path) (text : String) :
    (s.addFile p text).Agree (s'.addFile p text) :=
  (h.addDirectories p.enclosing).insert p text

theorem withDirectory (h : s.Agree s') (p : Path) :
    (s.withDirectory p).Agree (s'.withDirectory p) := by
  rw [MemoryFiles.withDirectory, MemoryFiles.withDirectory, h.isDirectory_eq]
  split
  · exact h
  · exact h.addDirectories p.ancestors

/-- Stores that agree take a file or refuse it with one answer, and still agree. -/
theorem writeText (h : s.Agree s') (p : Path) (text : String) :
    (s.writeText p text).1 = (s'.writeText p text).1 ∧
      (s.writeText p text).2.Agree (s'.writeText p text).2 := by
  rw [MemoryFiles.writeText, MemoryFiles.writeText, h.hasPlaceFor_eq,
    isDenied_congr h.denied_eq]
  split
  · exact ⟨rfl, h⟩
  · split
    · exact ⟨rfl, h⟩
    · exact ⟨rfl, h.insert p text⟩

end Agree

/-- Put some files in place. -/
def addFiles (s : MemoryFiles) (files : List (Path × String)) : MemoryFiles :=
  files.foldl (fun s f => s.addFile f.1 f.2) s

theorem Agree.addFiles (h : s.Agree s') (files : List (Path × String)) :
    (s.addFiles files).Agree (s'.addFiles files) := by
  induction files generalizing s s' with
  | nil => exact h
  | cons f files ih => exact ih (h.addFile f.1 f.2)

/-- **Two files of different paths** can be put in place in either order. A directory that both of
them need may come out in either of two spellings. -/
theorem agree_addFile_comm (h : p.components ≠ q.components) :
    ((s.addFile p text).addFile q text').Agree ((s.addFile q text').addFile p text) where
  files_eq := SortedMap.insert_comm (fun heq => h (Path.compare_eq_iff.1 heq)) s.files
  denied_eq := rfl
  isDirectory_eq d := by
    have hfile : ∀ (s : MemoryFiles) p text, (s.addFile p text).isDirectory d =
        (s.addDirectories p.enclosing).isDirectory d := fun _ _ _ => rfl
    rw [Bool.eq_iff_iff]
    simp only [hfile, isDirectory_addDirectories_iff]
    exact or_right_comm

/-- **The order of files** matters only to the spellings of directories. By induction on the
exchanges that lead from one order to the other. -/
theorem agree_addFiles_perm (hfiles : files.Perm files')
    (hpaths : (files.map (·.1.components)).Nodup) (s : MemoryFiles) :
    (s.addFiles files).Agree (s.addFiles files') := by
  induction hfiles generalizing s with
  | nil => exact .refl s
  | cons f _ ih => exact ih (List.nodup_cons.1 hpaths).2 (s.addFile f.1 f.2)
  | swap f g files =>
    have hne : g.1.components ≠ f.1.components := by
      intro heq
      rw [List.map_cons, List.map_cons, heq] at hpaths
      exact (List.nodup_cons.1 hpaths).1 List.mem_cons_self
    exact (agree_addFile_comm hne).addFiles files
  | trans hfirst _ ihfirst ihsecond =>
    exact (ihfirst hpaths s).trans (ihsecond ((hfirst.map _).nodup_iff.1 hpaths) s)

end MemoryFiles

/-! ### The export -/

/-- Emitting a file to stores that agree: one answer, and stores that agree. -/
theorem emit_agree {s s' : MemoryFiles} (h : s.Agree s') (output : Path) (filename text : String) :
    ((emit (m := StateM MemoryFiles) output filename text).run s).1 =
      ((emit (m := StateM MemoryFiles) output filename text).run s').1 ∧
    ((emit (m := StateM MemoryFiles) output filename text).run s).2.Agree
      ((emit (m := StateM MemoryFiles) output filename text).run s').2 := by
  have hmade := h.withDirectory output
  rw [emit_run_memory, emit_run_memory, h.isDirectory_eq,
    MemoryFiles.isDenied_congr h.denied_eq]
  split
  · exact ⟨rfl, h⟩
  · obtain ⟨hanswer, hagree⟩ := hmade.writeText (output.join ⟨filename⟩) text
    rcases hwritten : (s.withDirectory output).writeText (output.join ⟨filename⟩) text with
      ⟨answer, t⟩
    rcases hwritten' : (s'.withDirectory output).writeText (output.join ⟨filename⟩) text with
      ⟨answer', t'⟩
    rw [hwritten, hwritten'] at hanswer hagree
    obtain rfl : answer = answer' := hanswer
    cases answer with
    | error e => exact ⟨rfl, hagree⟩
    | ok _ => exact ⟨rfl, hagree⟩

namespace Exporter

variable {files files' : MemoryFiles}

/-- Publishing to stores that agree: one report, and stores that agree. -/
theorem publish_agree (h : files.Agree files') (output : Path) (filename time : String)
    (harvest : Session.Harvest) :
    ((publish (m := StateM MemoryFiles) (pure time) output filename harvest).run files).1 =
      ((publish (m := StateM MemoryFiles) (pure time) output filename harvest).run files').1 ∧
    ((publish (m := StateM MemoryFiles) (pure time) output filename harvest).run files).2.Agree
      ((publish (m := StateM MemoryFiles) (pure time) output filename harvest).run files').2 := by
  rw [publish_run, publish_run]
  split
  · exact ⟨rfl, h⟩
  · obtain ⟨hanswer, hagree⟩ := emit_agree h output filename
      (fileText (harvest.interfaces.map Interface.write) time)
    generalize (emit output filename _ : StateM MemoryFiles _).run files = done at hanswer hagree
    generalize (emit output filename _ : StateM MemoryFiles _).run files' = done' at hanswer hagree
    obtain ⟨answer, after⟩ := done
    obtain ⟨answer', after'⟩ := done'
    subst hanswer
    cases answer <;> exact ⟨rfl, hagree⟩

/-- **An export takes stores that agree to stores that agree**, with one answer. It scans the files
alone, and they are the same. -/
theorem runIn_agree (h : files.Agree files') (e : Exporter) (s s' : Session) (root output : Path)
    (filename time : String) :
    ((e.runIn (m := StateM MemoryFiles) s (pure time) root output filename).run files).1 =
      ((e.runIn (m := StateM MemoryFiles) s' (pure time) root output filename).run files').1 ∧
    ((e.runIn (m := StateM MemoryFiles) s (pure time) root output filename).run files).2.Agree
      ((e.runIn (m := StateM MemoryFiles) s' (pure time) root output filename).run files').2 := by
  have hselected : e.selected root files = e.selected root files' := by
    rw [selected, selected, candidatesIn_congr h.files_eq]
  rw [runIn_run, runIn_run, hselected]
  obtain ⟨hanswer, hagree⟩ := publish_agree h output filename time
    ⟨(e.selected root files').filterMap e.registry.exportOf?,
      (e.selected root files').filterMap e.registry.skipOf?, ⟨(e.selected root files').reverse⟩⟩
  exact ⟨Prod.ext hanswer rfl, hagree⟩

/-- **An export does not show the order of what has been supplied.** Take classes of different names,
enums whose names have different normal forms and files of different paths, and register and put in
place all of them in two orders, on top of whatever there was before. Wherever candidates come from,
whatever the base class, the root, the place to write to and the time are, and in whatever sessions
the two exports start: they have one answer, they leave the same files, and the same directories up
to their spellings. -/
theorem runIn_supply_perm (r : Registry) (d : Discovery) (base : String) (before : MemoryFiles)
    {classes classes' : List ClassEntry} {enums enums' : List (String × List EnumCase)}
    {sources sources' : List (Path × String)} (hclasses : classes.Perm classes')
    (henums : enums.Perm enums') (hsources : sources.Perm sources')
    (hclassNames : (classes.map (·.info.name)).Nodup)
    (henumNames : (enums.map fun e => ClassName.normalize e.1).Nodup)
    (hpaths : (sources.map (·.1.components)).Nodup)
    (s s' : Session) (root output : Path) (filename time : String) :
    let done := (runIn (m := StateM MemoryFiles) ⟨r.supply classes enums, d, base⟩ s (pure time) root
      output filename).run (before.addFiles sources)
    let done' := (runIn (m := StateM MemoryFiles) ⟨r.supply classes' enums', d, base⟩ s' (pure time)
      root output filename).run (before.addFiles sources')
    done.1 = done'.1 ∧ done.2.files = done'.2.files ∧
      done.2.directories.keys.map Path.components =
        done'.2.directories.keys.map Path.components := by
  rw [← Registry.supply_perm hclasses henums hclassNames henumNames r]
  obtain ⟨hanswer, hagree⟩ := runIn_agree
    (MemoryFiles.agree_addFiles_perm hsources hpaths before) ⟨r.supply classes enums, d, base⟩ s s'
    root output filename time
  exact ⟨hanswer, hagree.files_eq, hagree.map_components_directories⟩

/-! ### Two classes in two orders -/

/-- Two classes. -/
def suppliedClasses : List ClassEntry := [userEntry "App\\UserDTO", userEntry "App\\TagDTO"]

/-- Two enums, one of them under a name that is not a normal form. -/
def suppliedEnums : List (String × List EnumCase) :=
  [("App\\Role", [⟨"Admin", none⟩]), ("\\App\\State", [])]

/-- The source files of the classes, in one directory that is spelled in two ways. -/
def suppliedFiles : List (Path × String) :=
  [(⟨"/src/a/User.php"⟩, "namespace App; class UserDTO"),
    (⟨"/src//a/Tag.php"⟩, "namespace App; class TagDTO")]

/-- An exporter that scans source files and has been told of some classes and enums. -/
def supplied (classes : List ClassEntry) (enums : List (String × List EnumCase)) : Exporter :=
  ⟨Registry.empty.supply classes enums, .sourceFiles defaultExtension, "Base"⟩

/-- The other order spells a directory in another way, and the export gives the same answer. -/
theorem runIn_supply_perm_reverse :
    (suppliedClasses.map (·.info.name)).Nodup ∧
    (suppliedEnums.map fun e => ClassName.normalize e.1).Nodup ∧
    (suppliedFiles.map (·.1.components)).Nodup ∧
    (MemoryFiles.empty.addFiles suppliedFiles).directories.keys = [⟨"/"⟩, ⟨"/src"⟩, ⟨"/src/a"⟩] ∧
    (MemoryFiles.empty.addFiles suppliedFiles.reverse).directories.keys =
      [⟨"/"⟩, ⟨"/src"⟩, ⟨"/src//a"⟩] ∧
    ((runIn (m := StateM MemoryFiles) (supplied suppliedClasses.reverse suppliedEnums.reverse) .fresh
      (pure "now") ⟨"/src"⟩ ⟨"/out"⟩ "dtos.ts").run
        (MemoryFiles.empty.addFiles suppliedFiles.reverse)).1 =
      (.ok ⟨2, some userPath, []⟩, ⟨["App\\UserDTO", "App\\TagDTO"]⟩) := by
  have hclassNames : (suppliedClasses.map (·.info.name)).Nodup := by decide +kernel
  have henumNames : (suppliedEnums.map fun e => ClassName.normalize e.1).Nodup := by decide +kernel
  have hpaths : (suppliedFiles.map (·.1.components)).Nodup := by decide +kernel
  have hselected : (supplied suppliedClasses suppliedEnums).selected ⟨"/src"⟩
      (MemoryFiles.empty.addFiles suppliedFiles) = ["App\\TagDTO", "App\\UserDTO"] := by
    decide +kernel
  have hexport : ["App\\TagDTO", "App\\UserDTO"].filterMap
      (supplied suppliedClasses suppliedEnums).registry.exportOf? =
        ["TagInterface", "UserInterface"].map fun name => ⟨name, [("id", ⟨.number, true⟩)]⟩ := by
    rfl
  have hskip : ["App\\TagDTO", "App\\UserDTO"].filterMap
      (supplied suppliedClasses suppliedEnums).registry.skipOf? = [] := by
    rfl
  have hrun : ((runIn (m := StateM MemoryFiles) (supplied suppliedClasses suppliedEnums) .fresh
      (pure "now") ⟨"/src"⟩ ⟨"/out"⟩ "dtos.ts").run (MemoryFiles.empty.addFiles suppliedFiles)).1 =
      (.ok ⟨2, some userPath, []⟩, ⟨["App\\UserDTO", "App\\TagDTO"]⟩) := by
    rw [runIn_run_missing hselected hexport (List.cons_ne_nil _ _) hskip]
    · rfl
    all_goals decide +kernel
  obtain ⟨hanswer, -, -⟩ := runIn_supply_perm .empty (.sourceFiles defaultExtension) "Base" .empty
    (List.reverse_perm suppliedClasses).symm (List.reverse_perm suppliedEnums).symm
    (List.reverse_perm suppliedFiles).symm hclassNames henumNames hpaths .fresh .fresh ⟨"/src"⟩
    ⟨"/out"⟩ "dtos.ts" "now"
  refine ⟨hclassNames, henumNames, hpaths, by decide +kernel, by decide +kernel, ?_⟩
  exact hanswer.symm.trans hrun

end Exporter

end DtoInterfaces
