import DtoInterfaces.Export.Run
import DtoInterfaces.Proofs.FileStore.Lawful
import DtoInterfaces.Proofs.FirstOccurrences

/-!
# The account of an export

An export deals with the candidates that can be exported, each once, in the order in which they
are found first. What it writes and what it skips can be read off that list, class by class: a
class with a shape that has properties becomes an interface, one without a shape is skipped with
the reason, and one whose shape is empty leaves no trace.

## The loop and its session

The loop does not work on a list without repetitions. It meets every candidate and asks the
session whether the class has been dealt with. So the statement about the loop is made for any
session, and its list is what is left when the classes that the session knows are taken out and
every other one is kept where it comes first. A class that fails enters the session like any
other, which is why it is skipped once however often it comes.

## Main definitions

* `Registry.exportOf?`, `Registry.skipOf?`, `Registry.isSilent` — what becomes of a class.
* `Exporter.selected` — the classes that an export deals with.

## Main results

* `Registry.outcome_cases` — one of three things becomes of a class.
* `Session.interfaces_eq` — what comes of a list of classes in a session.
* `Exporter.runIn_run_harvest`, `Exporter.runIn_run` — an export is what comes of its selected
  classes, published.
* `Exporter.runIn_eq_ok` — its report, read off the selected classes.
* `Exporter.runIn_accounts` — the account.
-/

namespace DtoInterfaces

/-! ### What becomes of a class -/

namespace Registry

/-- The interface that a class is exported as: it has a shape, and the shape has properties. -/
def exportOf? (r : Registry) (name : String) : Option Interface :=
  match r.extractShape name with
  | .ok shape => if shape.propertyNames = [] then none else some (r.interface name shape)
  | .error _ => none

/-- The entry of a class among the skipped ones: it has no shape. -/
def skipOf? (r : Registry) (name : String) : Option SkippedClass :=
  match r.extractShape name with
  | .ok _ => none
  | .error e => some ⟨name, e.message⟩

/-- Whether a class has a shape without properties. -/
def isSilent (r : Registry) (name : String) : Bool :=
  match r.extractShape name with
  | .ok shape => shape.propertyNames.isEmpty
  | .error _ => false

/-- **One of three things becomes of a class:** an interface, an entry among the skipped ones, or
nothing. -/
theorem outcome_cases (r : Registry) (name : String) :
    (∃ i, r.exportOf? name = some i ∧ r.skipOf? name = none ∧ r.isSilent name = false) ∨
    (∃ c, r.exportOf? name = none ∧ r.skipOf? name = some c ∧ r.isSilent name = false) ∨
    (r.exportOf? name = none ∧ r.skipOf? name = none ∧ r.isSilent name = true) := by
  unfold exportOf? skipOf? isSilent
  cases r.extractShape name with
  | error e => exact .inr (.inl ⟨⟨name, e.message⟩, rfl, rfl, rfl⟩)
  | ok shape =>
    by_cases h : shape.propertyNames = []
    · exact .inr (.inr ⟨if_pos h, rfl, List.isEmpty_iff.2 h⟩)
    · exact .inl ⟨r.interface name shape, if_neg h, rfl, List.isEmpty_eq_false_iff.2 h⟩

theorem eq_none_of_isSilent {r : Registry} {name : String} (h : r.isSilent name = true) :
    r.exportOf? name = none ∧ r.skipOf? name = none := by
  rcases r.outcome_cases name with ⟨_, -, -, hloud⟩ | ⟨_, -, -, hloud⟩ | ⟨hexport, hskip, -⟩
  · exact absurd h (by simp [hloud])
  · exact absurd h (by simp [hloud])
  · exact ⟨hexport, hskip⟩

theorem count_outcomes (r : Registry) (name : String) :
    [(r.exportOf? name).isSome, (r.skipOf? name).isSome, r.isSilent name].count true = 1 := by
  rcases r.outcome_cases name with
    ⟨_, hexport, hskip, hsilent⟩ | ⟨_, hexport, hskip, hsilent⟩ | ⟨hexport, hskip, hsilent⟩
  all_goals
    rw [hexport, hskip, hsilent]
    rfl

theorem length_eq_outcomes (r : Registry) (names : List String) :
    names.length = (names.filterMap r.exportOf?).length + (names.filterMap r.skipOf?).length +
      (names.filter r.isSilent).length := by
  induction names with
  | nil => rfl
  | cons name names ih =>
    rw [List.length_cons, ih, List.filterMap_cons, List.filterMap_cons, List.filter_cons]
    rcases r.outcome_cases name with
      ⟨_, hexport, hskip, hsilent⟩ | ⟨_, hexport, hskip, hsilent⟩ | ⟨hexport, hskip, hsilent⟩
    all_goals
      simp only [hexport, hskip, hsilent, List.length_cons, if_true, Bool.false_eq_true, if_false]
      omega

theorem name_of_skipOf? {r : Registry} {name : String} {c : SkippedClass}
    (h : r.skipOf? name = some c) : c.name = name := by
  unfold skipOf? at h
  split at h
  · cases h
  · cases h
    rfl

/-- Classes that differ are not skipped under one name. -/
theorem nodup_map_name_skipOf? (r : Registry) {names : List String} (h : names.Nodup) :
    ((names.filterMap r.skipOf?).map (·.name)).Nodup := by
  induction names with
  | nil => exact List.nodup_nil
  | cons name names ih =>
    rw [List.nodup_cons] at h
    rw [List.filterMap_cons]
    split
    · exact ih h.2
    · rename_i c hc
      rw [List.map_cons, List.nodup_cons]
      refine ⟨fun hmem => ?_, ih h.2⟩
      obtain ⟨c', hc', hname⟩ := List.mem_map.1 hmem
      obtain ⟨name', hname', hskip⟩ := List.mem_filterMap.1 hc'
      rw [name_of_skipOf? hc, name_of_skipOf? hskip] at hname
      exact h.1 (hname ▸ hname')

theorem isEmpty_interface (r : Registry) (name : String) (shape : Shape) :
    (r.interface name shape).isEmpty = shape.propertyNames.isEmpty := by
  simp [Interface.isEmpty, interface]

end Registry

/-! ### The loop -/

namespace Session

variable {s : Session} {r : Registry} {name : String} {names : List String}

theorem interfaces_cons_of_mem (h : name ∈ s.processed) :
    s.interfaces r (name :: names) = s.interfaces r names := by
  rw [interfaces, interface?, if_pos h]

/-- **One round.** A class that is new leaves what becomes of it, and the session knows it from
then on. -/
theorem interfaces_cons_of_not_mem (h : name ∉ s.processed) :
    s.interfaces r (name :: names) =
      ⟨(r.exportOf? name).toList ++ (interfaces ⟨name :: s.processed⟩ r names).interfaces,
        (r.skipOf? name).toList ++ (interfaces ⟨name :: s.processed⟩ r names).skipped,
        (interfaces ⟨name :: s.processed⟩ r names).session⟩ := by
  rw [interfaces, interface?, if_neg h, Registry.exportOf?, Registry.skipOf?]
  cases r.extractShape name with
  | error e => rfl
  | ok shape =>
    have hempty := r.isEmpty_interface name shape
    by_cases hshape : shape.propertyNames = []
    · rw [hshape] at hempty
      simp [Except.map, hempty, hshape]
    · have hfull : (r.interface name shape).isEmpty = false := by
        rw [hempty]
        exact List.isEmpty_eq_false_iff.2 hshape
      simp [Except.map, hfull, hshape]

/-- **What comes of a list of classes** depends on those that the session does not know, each
where it comes first. By induction on the list: what a class adds to the session is what the
first occurrence takes out of the rest of the list. -/
theorem interfaces_eq (s : Session) (r : Registry) (names : List String) :
    s.interfaces r names =
      let new := (names.filter (· ∉ s.processed)).eraseDups
      ⟨new.filterMap r.exportOf?, new.filterMap r.skipOf?, ⟨new.reverse ++ s.processed⟩⟩ := by
  induction names generalizing s with
  | nil => rfl
  | cons name names ih =>
    by_cases h : name ∈ s.processed
    · rw [interfaces_cons_of_mem h, ih s, List.filter_cons_of_neg (by simpa using h)]
    · have hrest : names.filter (· ∉ name :: s.processed) =
          (names.filter (· ∉ s.processed)).filter fun other => !other == name := by
        rw [List.filter_filter]
        exact List.filter_congr fun other _ => by by_cases hsame : other = name <;> simp [hsame]
      rw [interfaces_cons_of_not_mem h, ih ⟨name :: s.processed⟩,
        List.filter_cons_of_pos (by simpa using h), List.eraseDups_cons, hrest]
      simp only [List.filterMap_cons]
      cases r.exportOf? name <;> cases r.skipOf? name <;> simp

end Session

/-! ### Writing -/

section Writing

variable {σ : Type} [FileStore (StateM σ)] {files files' : σ} {output path : Path}
  {filename text time : String}

/-- Emitting a file, step by step: the directory comes first, and the file only after it. -/
theorem emit_run : (emit output filename text : StateM σ (Except ExportError Path)).run files =
    match (ensureDirectory output : StateM σ (Except FileError Unit)).run files with
    | (.error e, made) => (.error (.createDirectory output e), made)
    | (.ok (), made) =>
      match (FileStore.writeText (output.join ⟨filename⟩) text :
        StateM σ (Except FileError Unit)).run made with
      | (.error e, after) => (.error (.write (output.join ⟨filename⟩) e), after)
      | (.ok (), after) => (.ok (output.join ⟨filename⟩), after) := by
  rw [emit, run_bind_state]
  rcases (ensureDirectory output : StateM σ (Except FileError Unit)).run files with
    ⟨e | _, made⟩
  · rfl
  · simp only [run_bind_state]
    rcases (FileStore.writeText (output.join ⟨filename⟩) text :
      StateM σ (Except FileError Unit)).run made with ⟨e | _, after⟩
    · rfl
    · rfl

/-- **A file that is emitted** stands in the directory under its name, and reads back. -/
theorem emit_eq_ok [LawfulFileStore σ]
    (h : (emit output filename text : StateM σ (Except ExportError Path)).run files =
      (.ok path, files')) :
    path = output.join ⟨filename⟩ ∧
      (FileStore.readText path : StateM σ (Except FileError String)).run files' =
        (.ok text, files') := by
  rw [emit_run] at h
  split at h
  · cases h
  · split at h
    · cases h
    · rename_i hwrite
      cases h
      exact ⟨rfl, LawfulFileStore.readText_writeText hwrite⟩

/-- Publishing what has come of some classes: without an interface nothing is written. -/
theorem publish_run {harvest : Session.Harvest} :
    (Exporter.publish (pure time) output filename harvest :
      StateM σ (Except ExportError ExportReport)).run files =
    if harvest.interfaces = [] then (.ok ⟨0, none, harvest.skipped⟩, files)
    else
      match (emit output filename (fileText (harvest.interfaces.map Interface.write) time) :
        StateM σ (Except ExportError Path)).run files with
      | (.error e, after) => (.error e, after)
      | (.ok path, after) => (.ok ⟨harvest.interfaces.length, some path, harvest.skipped⟩, after) := by
  rw [Exporter.publish]
  by_cases hnil : harvest.interfaces = []
  · simp only [hnil, List.isEmpty_nil, if_true]
    rfl
  · have hfull : harvest.interfaces.isEmpty = false := List.isEmpty_eq_false_iff.2 hnil
    simp only [hfull, Bool.false_eq_true, if_false, if_neg hnil, pure_bind, run_bind_state]
    rcases (emit output filename (fileText (harvest.interfaces.map Interface.write) time) :
      StateM σ (Except ExportError Path)).run files with ⟨e | path, after⟩
    · rfl
    · rfl

/-- **A report that comes with no error** counts the interfaces and hands on the skipped classes.
Without an interface nothing is written; otherwise the file is in the directory and holds them. -/
theorem publish_eq_ok [LawfulFileStore σ] {harvest : Session.Harvest} {report : ExportReport}
    (h : (Exporter.publish (pure time) output filename harvest :
      StateM σ (Except ExportError ExportReport)).run files = (.ok report, files')) :
    report.count = harvest.interfaces.length ∧ report.skipped = harvest.skipped ∧
      (report.file = none ↔ harvest.interfaces = []) ∧
      ∀ path, report.file = some path → path = output.join ⟨filename⟩ ∧
        (FileStore.readText path : StateM σ (Except FileError String)).run files' =
          (.ok (fileText (harvest.interfaces.map Interface.write) time), files') := by
  rw [publish_run] at h
  split at h
  · rename_i hnil
    cases h
    simp [hnil]
  · rename_i hne
    split at h
    · cases h
    · rename_i path after hemit
      cases h
      refine ⟨rfl, rfl, by simp [hne], fun path' hpath' => ?_⟩
      cases hpath'
      exact emit_eq_ok hemit

end Writing

namespace Exporter

variable {σ : Type} [FileStore (StateM σ)] {files files' : σ} {e : Exporter} {s : Session}
  {root output : Path} {filename time : String} {clock : StateM σ String}

/-! ### The export -/

/-- The candidates of an export that finds the files in the state `files`. -/
def candidatesIn (e : Exporter) (root : Path) (files : σ) : List String :=
  ((e.discovery.candidates e.registry root : StateM σ (List String)).run files).1

/-- The classes that an export deals with: the normal forms of the candidates, as far as they can
be exported, each one where it comes first. -/
def selected (e : Exporter) (root : Path) (files : σ) : List String :=
  (e.registry.exportable e.baseClass (e.candidatesIn root files)).eraseDups

theorem declaredClasses_state [LawfulFileStore σ] (ps : List Path) :
    ((declaredClasses ps : StateM σ (List String)).run files).2 = files := by
  induction ps with
  | nil => rfl
  | cons p ps ih =>
    have hread := LawfulFileStore.readText_state p files
    change ((declaredClasses ps : StateM σ (List String)).run
      ((FileStore.readText p : StateM σ (Except FileError String)).run files).2).2 = files
    rw [hread]
    exact ih

theorem candidates_run [LawfulFileStore σ] :
    (e.discovery.candidates e.registry root : StateM σ (List String)).run files =
      (e.candidatesIn root files, files) := by
  refine Prod.ext rfl ?_
  cases hd : e.discovery with
  | registered => rfl
  | sourceFiles extension =>
    have hlist := LawfulFileStore.filesBelow_state root extension files
    change ((declaredClasses _ : StateM σ (List String)).run
      ((FileStore.filesBelow root extension : StateM σ (List Path)).run files).2).2 = files
    rw [hlist]
    exact declaredClasses_state _

/-- What comes of some classes, whatever the exporter has done before. -/
theorem harvest_eq (e : Exporter) (s : Session) (names : List String) :
    e.harvest s names = ⟨names.eraseDups.filterMap e.registry.exportOf?,
      names.eraseDups.filterMap e.registry.skipOf?, ⟨names.eraseDups.reverse⟩⟩ := by
  have hall : names.filter (· ∉ Session.fresh.processed) = names :=
    List.filter_eq_self.2 (by simp [Session.fresh])
  rw [harvest, Session.cleared, Session.interfaces_eq, hall]
  simp [Session.fresh]

/-- **An export is a harvest, published.** The files have not changed when it comes to writing. -/
theorem runIn_run_harvest [LawfulFileStore σ] :
    (e.runIn s clock root output filename).run files =
      let harvest := e.harvest s (e.registry.exportable e.baseClass (e.candidatesIn root files))
      let published := (publish clock output filename harvest).run files
      ((published.1, harvest.session), published.2) := by
  rw [runIn, Discovery.classes]
  simp only [run_bind_state, candidates_run, StateT.run_pure]
  rfl

/-- The harvest of an export comes from its selected classes. The session that it starts in does
not matter. -/
theorem runIn_run [LawfulFileStore σ] :
    (e.runIn s clock root output filename).run files =
      let harvest : Session.Harvest :=
        ⟨(e.selected root files).filterMap e.registry.exportOf?,
          (e.selected root files).filterMap e.registry.skipOf?, ⟨(e.selected root files).reverse⟩⟩
      let published := (publish clock output filename harvest).run files
      ((published.1, harvest.session), published.2) := by
  rw [runIn_run_harvest, harvest_eq]
  rfl

theorem mem_processed_iff [LawfulFileStore σ] {name : String} {s' : Session}
    {answer : Except ExportError ExportReport}
    (h : (e.runIn s (pure time) root output filename :
      StateM σ (Except ExportError ExportReport × Session)).run files = ((answer, s'), files')) :
    name ∈ s'.processed ↔ name ∈ e.selected root files := by
  rw [runIn_run] at h
  obtain ⟨hanswer, -⟩ := Prod.mk.inj h
  rw [← (Prod.mk.inj hanswer).2, List.mem_reverse]

/-- A report that comes with no error, read off the selected classes. -/
theorem runIn_eq_ok [LawfulFileStore σ] {report : ExportReport} {s' : Session}
    (h : (e.runIn s (pure time) root output filename :
      StateM σ (Except ExportError ExportReport × Session)).run files =
        ((.ok report, s'), files')) :
    report.count = ((e.selected root files).filterMap e.registry.exportOf?).length ∧
    report.skipped = (e.selected root files).filterMap e.registry.skipOf? ∧
    (report.file = none ↔ (e.selected root files).filterMap e.registry.exportOf? = []) ∧
    ∀ path, report.file = some path → path = output.join ⟨filename⟩ ∧
      (FileStore.readText path : StateM σ (Except FileError String)).run files' =
        (.ok (fileText (((e.selected root files).filterMap e.registry.exportOf?).map
          Interface.write) time), files') := by
  rw [runIn_run] at h
  obtain ⟨hanswer, hstate⟩ := Prod.mk.inj h
  exact publish_eq_ok (Prod.ext (Prod.mk.inj hanswer).1 hstate)

/-- **The account of an export.** Whatever the files, the registry, the way of discovery and the
session: an export deals with the normal forms of the candidates that can be exported, each where it
comes first. One that ends well has written a file exactly if it counts an interface. The file holds
the interfaces of the selected classes that have a shape with properties, in the order of the
selection; the selected classes without a shape are skipped in that order, each once and with the
reason; and one of three things has become of every selected class. -/
theorem runIn_accounts [LawfulFileStore σ] {report : ExportReport} {s' : Session}
    (h : (e.runIn s (pure time) root output filename :
      StateM σ (Except ExportError ExportReport × Session)).run files =
        ((.ok report, s'), files')) :
    let candidates :=
      ((e.discovery.candidates e.registry root : StateM σ (List String)).run files).1
    let selected := ((candidates.map ClassName.normalize).filter fun name =>
      e.registry.isExportable name e.baseClass).eraseDups
    (∀ path, report.file = some path → path = output.join ⟨filename⟩ ∧
      (FileStore.readText path : StateM σ (Except FileError String)).run files' =
        (.ok (fileText ((selected.filterMap e.registry.exportOf?).map Interface.write) time),
          files')) ∧
    report.skipped = selected.filterMap e.registry.skipOf? ∧
    (report.skipped.map (·.name)).Nodup ∧
    (∀ name ∈ selected, [(e.registry.exportOf? name).isSome, (e.registry.skipOf? name).isSome,
      e.registry.isSilent name].count true = 1) ∧
    selected.length =
      report.count + report.skipped.length + (selected.filter e.registry.isSilent).length ∧
    report.count = (selected.filterMap e.registry.exportOf?).length ∧
    (report.file = none ↔ report.count = 0) := by
  intro candidates selected
  have hselected : e.selected root files = selected := rfl
  obtain ⟨hcount, hskipped, hnone, hfile⟩ := runIn_eq_ok h
  rw [hselected] at hcount hskipped hnone hfile
  refine ⟨hfile, hskipped, ?_, fun name _ => e.registry.count_outcomes name, ?_, hcount, ?_⟩
  · rw [hskipped]
    exact e.registry.nodup_map_name_skipOf? (nodup_eraseDups _)
  · rw [hcount, hskipped]
    exact e.registry.length_eq_outcomes _
  · rw [hnone, hcount, List.length_eq_zero_iff]

/-- A class below the base class that is constructed with some casts. -/
def castEntry (name : String) (isAbstract : Bool) (casts : List (String × Cast)) : ClassEntry :=
  ⟨.ofNames name (some "Base") isAbstract [],
    some (.ok (.ofMaps (some (.ofList casts)) none none)), none⟩

/-- An exporter that knows a class with one property, twice under names with one normal form, a
class that cannot be constructed, one without properties, and an abstract one. -/
def noteExporter : Exporter where
  registry := ([castEntry "Note" false [("id", .primitive .integer)],
      castEntry "\\ Note" false [("text", .primitive .string)], castEntry "Mute" false [],
      castEntry "Draft" true [("id", .primitive .integer)]].foldl Registry.register .empty).register
    ⟨.ofNames "Gone" (some "Base") false [], some (.error "no data"), some (.error "no class")⟩
  discovery := .registered
  baseClass := "Base"

/-- The interface that it exports. -/
def noteInterface : Interface := ⟨"NoteInterface", [("id", ⟨.number, true⟩)]⟩

/-- Where it writes. -/
def notePath : Path := (⟨"/out"⟩ : Path).join ⟨"dtos.ts"⟩

/-- What it reports. -/
def noteReport : ExportReport where
  count := 1
  file := some notePath
  skipped := [⟨"Gone", ExtractError.message ⟨.failed "no data", .failed "no class"⟩⟩]

/-- The files that it leaves behind in an empty store. -/
def noteFiles : MemoryFiles :=
  let made := MemoryFiles.empty.addDirectory ⟨"/out"⟩
  { made with files := made.files.insert notePath (fileText [noteInterface.write] "now") }

/-- The account where one class is written, one is skipped and one leaves no trace. The written class
is found under two names, and the session knows it already, which changes nothing. -/
theorem runIn_accounts_noteExporter :
    (noteExporter.runIn (m := StateM MemoryFiles) ⟨["Note"]⟩ (pure "now") ⟨"/src"⟩ ⟨"/out"⟩
      "dtos.ts").run .empty = ((.ok noteReport, ⟨["Mute", "Gone", "Note"]⟩), noteFiles) ∧
    noteExporter.candidatesIn (σ := MemoryFiles) ⟨"/src"⟩ .empty =
      [" Note", "Draft", "Gone", "Mute", "Note"] ∧
    (FileStore.readText (m := StateM MemoryFiles) notePath).run noteFiles =
      (.ok (fileText [noteInterface.write] "now"), noteFiles) ∧
    ["Note", "Gone", "Mute"].filterMap noteExporter.registry.skipOf? = noteReport.skipped ∧
    ["Note", "Gone", "Mute"].length = noteReport.count + noteReport.skipped.length +
      (["Note", "Gone", "Mute"].filter noteExporter.registry.isSilent).length := by
  have hselected : noteExporter.selected (σ := MemoryFiles) ⟨"/src"⟩ .empty =
      ["Note", "Gone", "Mute"] := by
    decide +kernel
  have hexport : ["Note", "Gone", "Mute"].filterMap noteExporter.registry.exportOf? =
      [noteInterface] := by
    rfl
  have hskip : ["Note", "Gone", "Mute"].filterMap noteExporter.registry.skipOf? =
      noteReport.skipped := by
    rfl
  have hmake : (ensureDirectory (m := StateM MemoryFiles) ⟨"/out"⟩).run .empty =
      (.ok (), MemoryFiles.empty.addDirectory ⟨"/out"⟩) := by
    rfl
  have hwrite : (FileStore.writeText (m := StateM MemoryFiles) notePath
      (fileText [noteInterface.write] "now")).run (MemoryFiles.empty.addDirectory ⟨"/out"⟩) =
      (.ok (), noteFiles) := by
    rfl
  have hemit : (emit (m := StateM MemoryFiles) ⟨"/out"⟩ "dtos.ts"
      (fileText [noteInterface.write] "now")).run .empty = (.ok notePath, noteFiles) := by
    rw [emit_run, hmake, ← notePath]
    simp only [hwrite]
  have hrun : (noteExporter.runIn (m := StateM MemoryFiles) ⟨["Note"]⟩ (pure "now") ⟨"/src"⟩ ⟨"/out"⟩
      "dtos.ts").run .empty = ((.ok noteReport, ⟨["Mute", "Gone", "Note"]⟩), noteFiles) := by
    rw [runIn_run]
    simp only [hselected, hexport, hskip, publish_run, List.map_cons, List.map_nil, hemit]
    rfl
  obtain ⟨hfile, hskipped, -, -, hlength, -⟩ := runIn_accounts hrun
  have hread := (hfile notePath rfl).2
  have hspelled : (((noteExporter.discovery.candidates noteExporter.registry ⟨"/src"⟩ :
      StateM MemoryFiles (List String)).run .empty).1.map ClassName.normalize |>.filter fun name =>
        noteExporter.registry.isExportable name noteExporter.baseClass).eraseDups =
      ["Note", "Gone", "Mute"] := hselected
  rw [hspelled] at hskipped hlength hread
  rw [hexport] at hread
  exact ⟨hrun, by decide +kernel, hread, hskipped.symm, hlength⟩

end Exporter

end DtoInterfaces
