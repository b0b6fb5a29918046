import DtoInterfaces.Proofs.Export.Effect
import DtoInterfaces.Proofs.Text.Endings
import Mathlib.Data.List.Nodup

/-!
# The names in a generated file

An export deals with names of classes and keeps those apart, and an interface is named after the
short name of its class, without the namespace and without one ending `DTO`. So no name of a class
is exported twice, and yet a file can hold two interfaces of one name: those of `App\A\UserDTO` and
of `App\B\User`. A property that is cast to one of the two classes refers to that name, and the
reference does not say which of them is meant.

What is lost between the two names is all but the stem of the name of the class. The names in a file
are pairwise distinct exactly if no two of the exported names are namesakes, and this is what
decides whether a reference leads to the interface of one of them only. Two names that stand for one
registered class are namesakes like any others.

## Main definitions

* `ClassName.stem` — what the name of an interface keeps of the name of its class.
* `ClassName.Namesakes` — names whose short names differ by at most one ending `DTO`.
* `Exporter.exported`, `Exporter.written` — the names of classes whose interfaces an export writes,
  and the interfaces.

## Main results

* `ClassName.stem_eq_iff` — namesakes are the names with one stem.
* `Exporter.map_name_written` — the names of the interfaces, in order.
* `Exporter.nodup_names_iff` — when the names in a generated file are pairwise distinct.
-/

namespace DtoInterfaces

namespace ClassName

/-! ### Stems -/

/-- What the name of an interface keeps of the name of its class. -/
def stem (name : String) : List Char := Text.withoutEnd dtoEnding (short name).toList

/-- Two names have the same short name, up to one `DTO` at the end. If one of the short names is the
other one with `DTO` behind it, that other one must not end in `DTO` as well, since only one ending
is taken off. -/
def Namesakes (name name' : String) : Prop :=
  short name = short name' ∨
  (short name = short name' ++ "DTO" ∧ ¬ "DTO".toList <:+ (short name').toList) ∨
  (short name' = short name ++ "DTO" ∧ ¬ "DTO".toList <:+ (short name).toList)

theorem toList_dto : "DTO".toList = dtoEnding := rfl

/-- **Namesakes** are the names with one stem. -/
theorem stem_eq_iff {name name' : String} : stem name = stem name' ↔ Namesakes name name' := by
  have happend : ∀ s : String, (s ++ "DTO").toList = s.toList ++ dtoEnding := fun s => by
    rw [String.toList_append, toList_dto]
  simp only [Namesakes, ← String.toList_inj, happend, toList_dto, stem]
  generalize (short name).toList = cs
  generalize (short name').toList = cs'
  rcases Text.withoutEnd_cases dtoEnding cs with ⟨hend, hcs⟩ | ⟨hend, hcs⟩ <;>
    rcases Text.withoutEnd_cases dtoEnding cs' with ⟨hend', hcs'⟩ | ⟨hend', hcs'⟩
  · -- both endings are taken off, and putting them back is injective
    rw [← List.append_left_inj dtoEnding, hcs, hcs']
    simp [hend, hend']
  · rw [← List.append_left_inj dtoEnding, hcs, hcs']
    refine ⟨fun h => .inr (.inl ⟨h, hend'⟩), ?_⟩
    rintro (rfl | ⟨h, -⟩ | ⟨-, h⟩)
    · exact absurd hend hend'
    · exact h
    · exact absurd hend h
  · rw [eq_comm, ← List.append_left_inj dtoEnding, hcs, hcs']
    refine ⟨fun h => .inr (.inr ⟨h, hend⟩), ?_⟩
    rintro (rfl | ⟨-, h⟩ | ⟨h, -⟩)
    · exact absurd hend' hend
    · exact absurd hend' h
    · exact h
  · rw [hcs, hcs']
    refine ⟨.inl, ?_⟩
    rintro (h | ⟨rfl, -⟩ | ⟨rfl, -⟩)
    · exact h
    · exact absurd (List.suffix_append _ _) hend
    · exact absurd (List.suffix_append _ _) hend'

theorem interfaceName_eq (name : String) :
    interfaceName name = String.ofList (stem name) ++ "Interface" := rfl

/-- The name of an interface, spelled out: what is left of the short name of the class when one
ending `DTO` is taken off, if it is there, and `Interface` behind that. -/
theorem interfaceName_cases (name : String) : ∃ front, interfaceName name = front ++ "Interface" ∧
    (short name = front ++ "DTO" ∨ short name = front ∧ ¬ "DTO".toList <:+ front.toList) := by
  refine ⟨String.ofList (stem name), interfaceName_eq name, ?_⟩
  simp only [← String.toList_inj, String.toList_append, String.toList_ofList, toList_dto, stem]
  rcases Text.withoutEnd_cases dtoEnding (short name).toList with ⟨-, hcs⟩ | ⟨hend, hcs⟩
  · exact .inl hcs.symm
  · rw [hcs]
    exact .inr ⟨rfl, hend⟩

theorem interfaceName_eq_iff {name name' : String} :
    interfaceName name = interfaceName name' ↔ Namesakes name name' := by
  rw [interfaceName_eq, interfaceName_eq, String.append_left_inj, String.ofList_inj, stem_eq_iff]

end ClassName

/-! ### The names of the interfaces -/

namespace Registry

theorem name_of_exportOf? {r : Registry} {name : String} {i : Interface}
    (h : r.exportOf? name = some i) : i.name = ClassName.interfaceName name := by
  unfold exportOf? at h
  cases hshape : r.extractShape name with
  | error e =>
    rw [hshape] at h
    cases h
  | ok shape =>
    simp only [hshape] at h
    obtain ⟨-, hi⟩ := Option.ite_none_left_eq_some.1 h
    rw [← Option.some.inj hi]
    rfl

end Registry

namespace Exporter

section Names

variable {σ : Type} [FileStore (StateM σ)] {files files' : σ} {e : Exporter} {s s' : Session}
  {root output path : Path} {filename time : String} {report : ExportReport}

/-- The names of classes whose interfaces an export writes. -/
def exported (e : Exporter) (root : Path) (files : σ) : List String :=
  (e.selected root files).filter fun name => (e.registry.exportOf? name).isSome

/-- The interfaces that an export writes. -/
def written (e : Exporter) (root : Path) (files : σ) : List Interface :=
  (e.selected root files).filterMap e.registry.exportOf?

/-- No name of a class is exported twice. A class that is registered once can come under two
names. -/
theorem nodup_exported : (e.exported root files).Nodup := (nodup_eraseDups _).filter _

/-- The names of the interfaces are made of the names of their classes, one by one. -/
theorem map_name_written :
    (e.written root files).map (·.name) =
      (e.exported root files).map ClassName.interfaceName := by
  unfold written exported
  induction e.selected root files with
  | nil => rfl
  | cons name names ih =>
    rw [List.filterMap_cons, List.filter_cons]
    cases hexport : e.registry.exportOf? name with
    | none => exact ih
    | some i =>
      rw [Option.isSome_some, if_pos rfl, List.map_cons, List.map_cons, ih,
        Registry.name_of_exportOf? hexport]

theorem nodup_map_name_written :
    ((e.written root files).map (·.name)).Nodup ↔
      ∀ c ∈ e.exported root files, ∀ c' ∈ e.exported root files,
        ClassName.Namesakes c c' → c = c' := by
  rw [map_name_written, List.nodup_map_iff_inj_on nodup_exported]
  simp only [ClassName.interfaceName_eq_iff]

/-- **The names in a generated file.** Whatever the files, the registry, the way of discovery, the
base class and the session: when an export writes a file, the file holds an interface for every
exported name of a class, and is named after that. These names are pairwise distinct, as texts, and
they are among those that the session has processed then. The names of the interfaces are pairwise
distinct exactly if no two of them are namesakes, and exactly if no nested class is a reference to
the interfaces of two of them. -/
theorem nodup_names_iff [LawfulFileStore σ]
    (h : (e.runIn s (pure time) root output filename :
      StateM σ (Except ExportError ExportReport × Session)).run files = ((.ok report, s'), files'))
    (hpath : report.file = some path) :
    (FileStore.readText path : StateM σ (Except FileError String)).run files' =
      (.ok (fileText ((e.written root files).map Interface.write) time), files') ∧
    (e.exported root files).Nodup ∧ (∀ c ∈ e.exported root files, c ∈ s'.processed) ∧
    (e.written root files).map (·.name) = (e.exported root files).map ClassName.interfaceName ∧
    (∀ c ∈ e.exported root files, ∃ front, ClassName.interfaceName c = front ++ "Interface" ∧
      (ClassName.short c = front ++ "DTO" ∨
        ClassName.short c = front ∧ ¬ "DTO".toList <:+ front.toList)) ∧
    (((e.written root files).map (·.name)).Nodup ↔
      ∀ c ∈ e.exported root files, ∀ c' ∈ e.exported root files,
        ClassName.Namesakes c c' → c = c') ∧
    (((e.written root files).map (·.name)).Nodup ↔
      ∀ nested : String, ∀ c ∈ e.exported root files, ∀ c' ∈ e.exported root files,
        e.registry.typeOfCast (.nested nested) = .reference (ClassName.interfaceName c) →
        e.registry.typeOfCast (.nested nested) = .reference (ClassName.interfaceName c') →
        c = c') := by
  obtain ⟨-, -, -, hfile⟩ := runIn_eq_ok h
  refine ⟨(hfile path hpath).2, nodup_exported,
    fun c hc => (mem_processed_iff h).2 (List.mem_of_mem_filter hc), map_name_written,
    fun c _ => ClassName.interfaceName_cases c, nodup_map_name_written, ?_⟩
  rw [nodup_map_name_written]
  constructor
  · intro hnames nested c hc c' hc' href href'
    refine hnames c hc c' hc' (ClassName.interfaceName_eq_iff.1 ?_)
    exact TypeExpr.reference.inj (href.symm.trans href')
  · intro href c hc c' hc' hnames
    refine href c c hc c' hc' rfl ?_
    rw [← ClassName.interfaceName_eq_iff.2 hnames]
    rfl

end Names

/-! ### Two exporters of two classes -/

/-- A class with one property, below the base class. -/
def userEntry (name : String) : ClassEntry :=
  ⟨.ofNames name (some "Base") false [],
    some (.ok (.ofMaps (some (.ofList [("id", .primitive .integer)])) none none)), none⟩

/-- An exporter that knows the class `App\A\UserDTO` and another one. -/
def userExporter (other : String) : Exporter where
  registry := (Registry.empty.register (userEntry "App\\A\\UserDTO")).register (userEntry other)
  discovery := .registered
  baseClass := "Base"

/-- The interfaces that it writes. -/
def userInterfaces (other : String) : List Interface :=
  ["UserInterface", other].map fun name => ⟨name, [("id", ⟨.number, true⟩)]⟩

/-- Where it writes. -/
def userPath : Path := (⟨"/out"⟩ : Path).join ⟨"dtos.ts"⟩

/-- The files that it leaves behind in an empty store. -/
def userFiles (is : List Interface) : MemoryFiles :=
  let made := MemoryFiles.empty.addDirectory ⟨"/out"⟩
  { made with files := made.files.insert userPath (fileText (is.map Interface.write) "now") }

/-- An export of two classes into an empty store, for whatever interfaces they become. -/
theorem runIn_userExporter {other : String} {i i' : Interface}
    (hselected : (userExporter other).selected (σ := MemoryFiles) ⟨"/src"⟩ .empty =
      ["App\\A\\UserDTO", other])
    (hexport : ["App\\A\\UserDTO", other].filterMap (userExporter other).registry.exportOf? =
      [i, i'])
    (hskip : ["App\\A\\UserDTO", other].filterMap (userExporter other).registry.skipOf? = []) :
    ((userExporter other).runIn (m := StateM MemoryFiles) .fresh (pure "now") ⟨"/src"⟩ ⟨"/out"⟩
      "dtos.ts").run .empty =
        ((.ok ⟨2, some userPath, []⟩, ⟨[other, "App\\A\\UserDTO"]⟩), userFiles [i, i']) := by
  refine runIn_run_missing hselected hexport (List.cons_ne_nil _ _) hskip ?_ ?_ ?_ ?_
  all_goals decide +kernel

/-- Two names that are no namesakes, since only one ending is taken off. The names in the file differ
as well, and a reference leads to the interface of one class. -/
theorem nodup_names_iff_userDtoDto :
    ((userExporter "App\\B\\UserDTODTO").runIn (m := StateM MemoryFiles) .fresh (pure "now")
      ⟨"/src"⟩ ⟨"/out"⟩ "dtos.ts").run .empty =
        ((.ok ⟨2, some userPath, []⟩, ⟨["App\\B\\UserDTODTO", "App\\A\\UserDTO"]⟩),
          userFiles (userInterfaces "UserDTOInterface")) ∧
    (userExporter "App\\B\\UserDTODTO").exported (σ := MemoryFiles) ⟨"/src"⟩ .empty =
      ["App\\A\\UserDTO", "App\\B\\UserDTODTO"] ∧
    (["App\\A\\UserDTO", "App\\B\\UserDTODTO"].map ClassName.interfaceName).Nodup ∧
    ∀ c ∈ ["App\\A\\UserDTO", "App\\B\\UserDTODTO"],
      ∀ c' ∈ ["App\\A\\UserDTO", "App\\B\\UserDTODTO"],
        ClassName.Namesakes c c' → c = c' := by
  have hselected : (userExporter "App\\B\\UserDTODTO").selected (σ := MemoryFiles) ⟨"/src"⟩ .empty =
      ["App\\A\\UserDTO", "App\\B\\UserDTODTO"] := by
    decide +kernel
  have hexport : ["App\\A\\UserDTO", "App\\B\\UserDTODTO"].filterMap
      (userExporter "App\\B\\UserDTODTO").registry.exportOf? =
        userInterfaces "UserDTOInterface" := by
    rfl
  have hexported : (userExporter "App\\B\\UserDTODTO").exported (σ := MemoryFiles) ⟨"/src"⟩ .empty =
      ["App\\A\\UserDTO", "App\\B\\UserDTODTO"] := by
    rw [exported, hselected]
    rfl
  have hdistinct :
      (["App\\A\\UserDTO", "App\\B\\UserDTODTO"].map ClassName.interfaceName).Nodup := by
    decide +kernel
  have hrun := runIn_userExporter hselected hexport rfl
  obtain ⟨-, -, -, hnames, -, hnamesakes, -⟩ := nodup_names_iff hrun rfl
  rw [hnames, hexported] at hnamesakes
  exact ⟨hrun, hexported, hdistinct, hnamesakes.1 hdistinct⟩

/-- **Two interfaces of one name.** A class and another one with the ending `DTO`, in namespaces of
their own, are exported to one file, and a reference to the one is a reference to the other. -/
theorem names_clash_user :
    ((userExporter "App\\B\\User").runIn (m := StateM MemoryFiles) .fresh (pure "now")
      ⟨"/src"⟩ ⟨"/out"⟩ "dtos.ts").run .empty =
        ((.ok ⟨2, some userPath, []⟩, ⟨["App\\B\\User", "App\\A\\UserDTO"]⟩),
          userFiles (userInterfaces "UserInterface")) ∧
    (userFiles (userInterfaces "UserInterface")).readText userPath =
      .ok (fileText ((userInterfaces "UserInterface").map Interface.write) "now") ∧
    ¬ ((userInterfaces "UserInterface").map (·.name)).Nodup ∧
    (userExporter "App\\B\\User").registry.typeOfCast (.nested "App\\A\\UserDTO") =
      (userExporter "App\\B\\User").registry.typeOfCast (.nested "App\\B\\User") := by
  have hselected : (userExporter "App\\B\\User").selected (σ := MemoryFiles) ⟨"/src"⟩ .empty =
      ["App\\A\\UserDTO", "App\\B\\User"] := by
    decide +kernel
  have hexport : ["App\\A\\UserDTO", "App\\B\\User"].filterMap
      (userExporter "App\\B\\User").registry.exportOf? = userInterfaces "UserInterface" := by
    rfl
  refine ⟨runIn_userExporter hselected hexport rfl, ?_, ?_, ?_⟩
  · rw [MemoryFiles.readText, userFiles, MemoryFiles.contents?_insert]
  · decide +kernel
  · have hname : ClassName.interfaceName "App\\A\\UserDTO" =
        ClassName.interfaceName "App\\B\\User" := by
      decide +kernel
    exact congrArg TypeExpr.reference hname

end Exporter

end DtoInterfaces
