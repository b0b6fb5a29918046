import DtoInterfaces.Proofs.ClassName
import DtoInterfaces.Proofs.Export.Accounting
import Mathlib.Data.List.Nodup

/-!
# Spellings of one class

A session knows a class by the normal form of the name under which it was found, and the registry
takes the normal form of that name once more to look the class up. The two agree as long as a
normal form is its own normal form. It is, unless it starts with a blank: then looking it up trims
the blanks away and drops the separators behind them. Such a name is written with separators in
front of a blank, as in `\ App\Note`.

So two spellings that stand for one class can be two classes to a session, and an export can
write the interface of the class twice. It does so exactly if a name whose normal form starts with
a blank is a candidate, leaves a trace, and is not the only spelling of its class that is found.

## Why one condition is enough

What becomes of a class depends on the entry that its name stands for. Two contributors of one
entry therefore both leave a trace or neither does, and only their names can differ. If neither
name started with a blank both would be equal to the name of the entry, and hence to each other.

## Main definitions

* `Exporter.contributors` — the classes that leave an interface or an entry among the skipped.

## Main results

* `Exporter.count_contributors_le_one_iff` — when every entry contributes at most once.
-/

namespace DtoInterfaces

/-! ### What depends on the entry of a class -/

namespace Registry

variable {r : Registry} {base name name' : String}

theorem find?_congr (h : ClassName.normalize name = ClassName.normalize name') :
    r.find? name = r.find? name' := by
  rw [find?, find?, h]

theorem isExportable_congr (h : ClassName.normalize name = ClassName.normalize name') :
    r.isExportable name base = r.isExportable name' base := by
  have hinfo : r.classInfo? name = r.classInfo? name' := by
    rw [classInfo?, classInfo?, find?_congr h]
  rw [isExportable, isExportable, inheritsFrom, inheritsFrom, parentOf?, parentOf?, hinfo]

/-- Whether a class has a shape without properties depends on its entry. The shape of a class that
has none would not do here: the failure speaks of the name under which the class was asked for. -/
theorem isSilent_congr (h : ClassName.normalize name = ClassName.normalize name') :
    r.isSilent name = r.isSilent name' := by
  have hfind := find?_congr (r := r) h
  cases hentry : r.find? name' with
  | none =>
    rw [hentry] at hfind
    simp [isSilent, extractShape, instantiate, hfind, hentry]
  | some entry =>
    have hshape : r.extractShape name = r.extractShape name' := by
      rw [hentry] at hfind
      simp only [extractShape, instantiate, hfind, hentry]
    rw [isSilent, isSilent, hshape]

end Registry

/-! ### The contributors of an export -/

namespace Exporter

variable {e : Exporter} {candidates : List String} {name : String}

/-- Whether a class is exportable and leaves a trace. -/
def contributes (e : Exporter) (name : String) : Bool :=
  e.registry.isExportable name e.baseClass && !e.registry.isSilent name

/-- The classes that leave an interface or an entry among the skipped ones. -/
def contributors (e : Exporter) (candidates : List String) : List String :=
  (e.registry.exportable e.baseClass candidates).eraseDups.filter fun name =>
    !e.registry.isSilent name

theorem contributes_congr {name' : String}
    (h : ClassName.normalize name = ClassName.normalize name') :
    e.contributes name = e.contributes name' := by
  rw [contributes, contributes, Registry.isExportable_congr h, Registry.isSilent_congr h]

theorem mem_contributors :
    name ∈ e.contributors candidates ↔
      e.contributes name = true ∧ ∃ c ∈ candidates, ClassName.normalize c = name := by
  simp only [contributors, contributes, Registry.exportable, List.mem_filter, List.mem_eraseDups,
    List.mem_map, Bool.and_eq_true]
  tauto

theorem nodup_contributors : (e.contributors candidates).Nodup :=
  (nodup_eraseDups _).filter _

theorem count_le_one_iff_inj :
    (∀ key, ((e.contributors candidates).map ClassName.normalize).count key ≤ 1) ↔
      ∀ name ∈ e.contributors candidates, ∀ name' ∈ e.contributors candidates,
        ClassName.normalize name = ClassName.normalize name' → name = name' := by
  rw [← List.nodup_iff_count_le_one]
  exact List.nodup_map_iff_inj_on nodup_contributors

/-- The contributors are the exportable classes that become something, so what comes of the classes
of an export can be read off them. -/
theorem filterMap_contributors {α : Type} {f : String → Option α}
    (h : ∀ name, e.registry.isSilent name = true → f name = none) :
    (e.contributors candidates).filterMap f =
      (e.registry.exportable e.baseClass candidates).eraseDups.filterMap f := by
  rw [contributors, List.filterMap_filter]
  refine List.filterMap_congr fun name _ => ?_
  cases hsilent : e.registry.isSilent name with
  | true => rw [h name hsilent]; rfl
  | false => rfl

/-- No entry has two contributors exactly if every contributing candidate whose normal form starts
with a blank is the only spelling of its class. The other candidates cannot clash among themselves,
since their normal forms are the names of their entries. -/
theorem inj_contributors_iff :
    (∀ name ∈ e.contributors candidates, ∀ name' ∈ e.contributors candidates,
      ClassName.normalize name = ClassName.normalize name' → name = name') ↔
      ∀ c ∈ candidates, ClassName.startsBlank c = true →
        e.contributes (ClassName.normalize c) = true → ∀ c' ∈ candidates,
          ClassName.normalize (ClassName.normalize c') =
            ClassName.normalize (ClassName.normalize c) →
          ClassName.normalize c' = ClassName.normalize c := by
  constructor
  · intro hinj c hc _ hcontributes c' hc' hkey
    have hcontributes' : e.contributes (ClassName.normalize c') = true := by
      rw [contributes_congr hkey, hcontributes]
    exact hinj _ (mem_contributors.2 ⟨hcontributes', c', hc', rfl⟩) _
      (mem_contributors.2 ⟨hcontributes, c, hc, rfl⟩) hkey
  · intro honly name hname name' hname' hkey
    obtain ⟨hcontributes, c, hc, rfl⟩ := mem_contributors.1 hname
    obtain ⟨hcontributes', c', hc', rfl⟩ := mem_contributors.1 hname'
    cases hblank : ClassName.startsBlank c with
    | true => exact (honly c hc hblank hcontributes c' hc' hkey.symm).symm
    | false =>
      cases hblank' : ClassName.startsBlank c' with
      | true => exact honly c' hc' hblank' hcontributes' c hc hkey
      | false =>
        rw [← ClassName.normalize_normalize_eq_iff.2 hblank, hkey,
          ClassName.normalize_normalize_eq_iff.2 hblank']

/-- **When every entry contributes at most once.** Whatever the candidates are, what an export
writes and skips comes from its contributors, from each of them one interface or one entry among
the skipped. No entry has two contributors exactly if every contributing candidate whose normal
form starts with a blank is the only spelling of its class among the candidates. -/
theorem count_contributors_le_one_iff (e : Exporter) (s : Session) (candidates : List String) :
    (e.harvest s (e.registry.exportable e.baseClass candidates)).interfaces =
      (e.contributors candidates).filterMap e.registry.exportOf? ∧
    (e.harvest s (e.registry.exportable e.baseClass candidates)).skipped =
      (e.contributors candidates).filterMap e.registry.skipOf? ∧
    (∀ name ∈ e.contributors candidates,
      [(e.registry.exportOf? name).isSome, (e.registry.skipOf? name).isSome].count true = 1) ∧
    ((∀ key, ((e.contributors candidates).map ClassName.normalize).count key ≤ 1) ↔
      ∀ c ∈ candidates, ClassName.startsBlank c = true →
        e.contributes (ClassName.normalize c) = true → ∀ c' ∈ candidates,
          ClassName.normalize (ClassName.normalize c') =
            ClassName.normalize (ClassName.normalize c) →
          ClassName.normalize c' = ClassName.normalize c) := by
  refine ⟨?_, ?_, fun name hname => ?_, count_le_one_iff_inj.trans inj_contributors_iff⟩
  · rw [harvest_eq, filterMap_contributors fun _ h => (Registry.eq_none_of_isSilent h).1]
  · rw [harvest_eq, filterMap_contributors fun _ h => (Registry.eq_none_of_isSilent h).2]
  · have hloud : e.registry.isSilent name = false := by
      simpa using (List.mem_filter.1 hname).2
    have hone := e.registry.count_outcomes name
    rw [hloud] at hone
    simpa [List.count_cons] using hone

/-- Two files that declare one class, the first of them with separators in front of a blank. -/
def spelledTwice : MemoryFiles :=
  (MemoryFiles.empty.addFile ⟨"/src/a.php"⟩ "namespace \\ \\ App; class X").addFile ⟨"/src/b.php"⟩
    "namespace App; class X"

/-- An exporter that knows that class. -/
def spellingExporter : Exporter where
  registry := Registry.empty.register
    ⟨.ofNames "App\\X" (some "Base") false [],
      some (.ok (.ofMaps (some (.ofList [("id", .primitive .integer)])) none none)), none⟩
  discovery := .sourceFiles defaultExtension
  baseClass := "Base"

/-- **One entry contributes twice** where its class is spelled in two ways: both names stand for
the entry, and both become interfaces. -/
theorem count_contributors_spelledTwice :
    spellingExporter.candidatesIn ⟨"/src"⟩ spelledTwice = [" \\ App\\X", "App\\X"] ∧
    ((spellingExporter.contributors [" \\ App\\X", "App\\X"]).map ClassName.normalize).count
      "App\\X" = 2 ∧
    (spellingExporter.harvest .fresh (spellingExporter.registry.exportable "Base"
      [" \\ App\\X", "App\\X"])).interfaces.map (·.name) = ["XInterface", "XInterface"] := by
  refine ⟨?_, ?_, ?_⟩
  · decide +kernel
  · decide +kernel
  · decide +kernel

end Exporter

end DtoInterfaces
