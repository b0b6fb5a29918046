import DtoInterfaces.Proofs.Export.FileReader
import DtoInterfaces.Proofs.Export.InterfaceNames
import DtoInterfaces.Proofs.Registry.Listing

/-!
# References between interfaces

A property that is cast to a nested class refers to the interface of that class by name, and the
name is made of the text that the cast has been written with. The interface is declared under a name
that is made of the normal form of a candidate. Nothing compares the two texts: the class may be
written in any spelling, may come later, or may never be exported at all.

The two names agree all the same whenever both texts lead to one entry of the registry. An entry is
found under the normal form of the text that is asked for, and it carries the name under which it
has been registered, so both texts have that name as their normal form. An interface is named after
the normal form of whatever names its class. It does not matter that the text of a candidate is a
normal form already and need not be its own.

## Main definitions

* `Registry.CastsTo` — a property of a class is cast to a nested class.

## Main results

* `Registry.exists_exportOf?_of_castsTo` — what the interface says of such a property.
* `Interface.write_eq_openingLine`, `Interface.exists_write_eq_propertyLine` — the lines of a block
  that show the two names.
* `Exporter.reference_eq_declared` — a reference is the name under which the interface is declared.
-/

namespace DtoInterfaces

/-! ### Nested classes -/

theorem ClassName.interfaceName_congr {name name' : String}
    (h : ClassName.normalize name = ClassName.normalize name') :
    interfaceName name = interfaceName name' := by
  rw [interfaceName, interfaceName, short, short, h]

theorem Shape.mem_propertyNames_of_cast {s : Shape} {property : String} {cast : Cast}
    (h : s.casts.get? property = some cast) : property ∈ s.propertyNames := by
  rw [propertyNames, List.mem_eraseDups, List.mem_append, List.mem_append]
  exact .inl (.inl (PropertyMap.mem_keys_iff.2 (Option.isSome_of_eq_some h)))

namespace Registry

variable {r : Registry} {name property nested : String}

/-- The shape of a class casts a property to a nested class, which is named by some text. -/
def CastsTo (r : Registry) (name property nested : String) : Prop :=
  ∃ shape, r.extractShape name = .ok shape ∧ shape.casts.get? property = some (.nested nested)

/-- **A property that is cast to a nested class** has a place in the interface of its class. Of its
type the interface says only how the interface of the nested class is called. -/
theorem exists_exportOf?_of_castsTo (h : r.CastsTo name property nested) :
    ∃ j, r.exportOf? name = some j ∧ property ∈ j.properties.map Prod.fst ∧
      ∀ p, (property, p) ∈ j.properties →
        p.type = .reference (ClassName.interfaceName nested) := by
  obtain ⟨shape, hshape, hcast⟩ := h
  have hmem : property ∈ shape.propertyNames := Shape.mem_propertyNames_of_cast hcast
  refine ⟨r.interface name shape, ?_, ?_, fun p hp => ?_⟩
  · rw [exportOf?, hshape]
    exact if_neg (List.ne_nil_of_mem hmem)
  · rw [interface, List.map_map]
    exact List.mem_map.2 ⟨property, hmem, rfl⟩
  · obtain ⟨property', -, hproperty'⟩ := List.mem_map.1 hp
    obtain ⟨rfl, rfl⟩ := Prod.mk.inj hproperty'
    simp only [typeOfProperty, hcast, typeOfCast]

end Registry

/-! ### The lines that show a name -/

namespace Interface

/-- A block starts with its opening line. Other lines follow. -/
theorem write_eq_openingLine (i : Interface) :
    i.write = openingLine i.name ++
      '\n' :: ['\n'].intercalate (i.properties.map propertyLine ++ [['\x7d']]) := by
  have hrest : i.properties.map propertyLine ++ [['\x7d']] ≠ [] := by
    simp
  rw [write, lines, List.cons_append, List.intercalate_cons_of_ne_nil hrest, List.append_assoc,
    List.singleton_append]

/-- A block has a line for each of its properties. It is neither the first line nor the last. -/
theorem exists_write_eq_propertyLine {i : Interface} {property : String × PropertyType}
    (h : property ∈ i.properties) :
    ∃ above below, i.write = above ++ '\n' :: propertyLine property ++ '\n' :: below := by
  obtain ⟨before, after, hproperties⟩ := List.append_of_mem h
  have hlines : i.lines = (openingLine i.name :: before.map propertyLine) ++
      ([propertyLine property] ++ (after.map propertyLine ++ [['\x7d']])) := by
    rw [lines, hproperties]
    simp
  have hbelow : after.map propertyLine ++ [['\x7d']] ≠ [] := by
    simp
  have hfrom : [propertyLine property] ++ (after.map propertyLine ++ [['\x7d']]) ≠ [] :=
    List.cons_ne_nil _ _
  refine ⟨['\n'].intercalate (openingLine i.name :: before.map propertyLine),
    ['\n'].intercalate (after.map propertyLine ++ [['\x7d']]), ?_⟩
  rw [write, hlines, FileReader.intercalate_append _ (List.cons_ne_nil _ _) hfrom,
    FileReader.intercalate_append _ (List.cons_ne_nil _ _) hbelow, List.intercalate_singleton]
  simp only [List.append_assoc, List.cons_append, List.nil_append]

end Interface

/-! ### References -/

namespace Exporter

variable {σ : Type} [FileStore (StateM σ)] {files files' : σ} {e : Exporter} {s s' : Session}
  {root output : Path} {name filename time : String} {answer : Except ExportError ExportReport}

theorem mem_written {i : Interface} (hname : name ∈ e.selected root files)
    (hexport : e.registry.exportOf? name = some i) : i ∈ e.written root files :=
  List.mem_filterMap.2 ⟨name, hname, hexport⟩

variable [LawfulFileStore σ]

/-- **A reference is the name under which the interface is declared.** Whatever has been registered,
wherever candidates come from and however the export ends: take two classes that it has dealt with,
and a property of the second one with a cast to a class that is named in some spelling. If that
spelling leads to the entry of the first class, then the interface of the second one is written with
a line for that property, whose type is the name of the interface of the first one; and where the
latter is written, its block opens with a declaration of that name. The file that the export reports
holds all of these blocks. -/
theorem reference_eq_declared (hr : e.registry.Filled)
    (h : (e.runIn s (pure time) root output filename :
      StateM σ (Except ExportError ExportReport × Session)).run files = ((answer, s'), files'))
    {x y property nested : String} {info : ClassInfo} (hx : x ∈ s'.processed)
    (hy : y ∈ s'.processed) (hcast : e.registry.CastsTo y property nested)
    (hinfo : e.registry.classInfo? x = some info)
    (hinfo' : e.registry.classInfo? nested = some info) :
    (∃ j, e.registry.exportOf? y = some j ∧ j ∈ e.written root files ∧
      property ∈ j.properties.map Prod.fst ∧
      ∀ p, (property, p) ∈ j.properties →
        p.type = .reference (ClassName.interfaceName x) ∧
        (∃ above below,
          j.write = above ++ '\n' :: Interface.propertyLine (property, p) ++ '\n' :: below) ∧
        ∀ i, e.registry.exportOf? x = some i →
          i ∈ e.written root files ∧ p.type.text = i.name ∧
          i.lines.head? = some (Interface.openingLine p.type.text) ∧
          ∃ below, i.write = Interface.openingLine p.type.text ++ '\n' :: below) ∧
    ∀ report path, answer = .ok report → report.file = some path →
      (FileStore.readText path : StateM σ (Except FileError String)).run files' =
        (.ok (fileText ((e.written root files).map Interface.write) time), files') := by
  have hname : ClassName.interfaceName nested = ClassName.interfaceName x :=
    ClassName.interfaceName_congr (hr.normalize_eq hinfo' hinfo)
  constructor
  · obtain ⟨j, hexport, hproperty, htype⟩ := Registry.exists_exportOf?_of_castsTo hcast
    refine ⟨j, hexport, mem_written ((mem_processed_iff h).1 hy) hexport, hproperty,
      fun p hp => ?_⟩
    have hreference : p.type = .reference (ClassName.interfaceName x) := by
      rw [htype p hp, hname]
    refine ⟨hreference, Interface.exists_write_eq_propertyLine hp, fun i hi => ?_⟩
    have htext : p.type.text = i.name := by
      rw [hreference, TypeExpr.text, TypeExpr.write, String.ofList_toList,
        Registry.name_of_exportOf? hi]
    refine ⟨mem_written ((mem_processed_iff h).1 hx) hi, htext, ?_, ?_⟩
    · rw [htext]
      rfl
    · rw [htext]
      exact ⟨_, i.write_eq_openingLine⟩
  · rintro report path rfl hpath
    obtain ⟨-, -, -, hfile⟩ := runIn_eq_ok h
    exact (hfile path hpath).2

/-! ### An order of a user -/

/-- An exporter that knows a user and an order. The order names the class of its owner in a spelling
of its own. -/
def orderExporter : Exporter where
  registry := (Registry.empty.register (userEntry "App\\UserDTO")).register
    ⟨.ofNames "App\\OrderDTO" (some "Base") false [], some (.ok (.ofMaps
      (some (.ofList [("owner", .nested " \\App\\UserDTO\n")])) none none)), none⟩
  discovery := .registered
  baseClass := "Base"

/-- The interfaces that it writes. The order comes first. -/
def orderInterfaces : List Interface :=
  [⟨"OrderInterface", [("owner", ⟨.reference "UserInterface", true⟩)]⟩,
    ⟨"UserInterface", [("id", ⟨.number, true⟩)]⟩]

/-- Where it writes. -/
def orderPath : Path := (⟨"/out"⟩ : Path).join ⟨"dtos.ts"⟩

/-- The files that it leaves behind in an empty store. -/
def orderFiles : MemoryFiles :=
  let made := MemoryFiles.empty.addDirectory ⟨"/out"⟩
  { made with
    files := made.files.insert orderPath (fileText (orderInterfaces.map Interface.write) "now") }

/-- The order refers to its owner by the name of an interface that comes later in the file. -/
theorem reference_eq_declared_order :
    (orderExporter.runIn (m := StateM MemoryFiles) .fresh (pure "now") ⟨"/src"⟩ ⟨"/out"⟩
      "dtos.ts").run .empty =
        ((.ok ⟨2, some orderPath, []⟩, ⟨["App\\UserDTO", "App\\OrderDTO"]⟩), orderFiles) ∧
    orderExporter.registry.Filled ∧
    orderExporter.registry.CastsTo "App\\OrderDTO" "owner" " \\App\\UserDTO\n" ∧
    orderExporter.registry.classInfo? "App\\UserDTO" =
      some (.ofNames "App\\UserDTO" (some "Base") false []) ∧
    orderExporter.registry.classInfo? " \\App\\UserDTO\n" =
      some (.ofNames "App\\UserDTO" (some "Base") false []) ∧
    (∃ j, orderExporter.registry.exportOf? "App\\OrderDTO" = some j ∧
      ∀ p, ("owner", p) ∈ j.properties → p.type = .reference "UserInterface") ∧
    orderFiles.readText orderPath =
      .ok (fileText ((orderExporter.written (σ := MemoryFiles) ⟨"/src"⟩ .empty).map
        Interface.write) "now") := by
  have hselected : orderExporter.selected (σ := MemoryFiles) ⟨"/src"⟩ .empty =
      ["App\\OrderDTO", "App\\UserDTO"] := by
    decide +kernel
  have hexport : ["App\\OrderDTO", "App\\UserDTO"].filterMap orderExporter.registry.exportOf? =
      orderInterfaces := by
    rfl
  have hskip : ["App\\OrderDTO", "App\\UserDTO"].filterMap orderExporter.registry.skipOf? = [] := by
    rfl
  have hrun : (orderExporter.runIn (m := StateM MemoryFiles) .fresh (pure "now") ⟨"/src"⟩ ⟨"/out"⟩
      "dtos.ts").run .empty =
        ((.ok ⟨2, some orderPath, []⟩, ⟨["App\\UserDTO", "App\\OrderDTO"]⟩), orderFiles) := by
    refine runIn_run_missing hselected hexport (List.cons_ne_nil _ _) hskip ?_ ?_ ?_ ?_
    all_goals decide +kernel
  have hfilled : orderExporter.registry.Filled := (Registry.Filled.empty.register _).register _
  have hcast : orderExporter.registry.CastsTo "App\\OrderDTO" "owner" " \\App\\UserDTO\n" :=
    ⟨_, rfl, rfl⟩
  have hinfo : orderExporter.registry.classInfo? "App\\UserDTO" =
      some (.ofNames "App\\UserDTO" (some "Base") false []) := by
    rfl
  have hinfo' : orderExporter.registry.classInfo? " \\App\\UserDTO\n" =
      some (.ofNames "App\\UserDTO" (some "Base") false []) := by
    rfl
  obtain ⟨⟨j, hj, -, -, htype⟩, hfile⟩ :=
    reference_eq_declared hfilled hrun (by simp) (by simp) hcast hinfo hinfo'
  refine ⟨hrun, hfilled, hcast, hinfo, hinfo', ⟨j, hj, fun p hp => ?_⟩, ?_⟩
  · have hname : ClassName.interfaceName "App\\UserDTO" = "UserInterface" := by
      decide +kernel
    rw [← hname]
    exact (htype p hp).1
  · exact (Prod.mk.inj (hfile _ _ rfl rfl)).1

end Exporter

end DtoInterfaces
