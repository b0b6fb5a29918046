import DtoInterfaces.Manifest
import DtoInterfaces.Proofs.SortedMap
import DtoInterfaces.Proofs.Text.ByteOrder
import DtoInterfaces.Registry.DtoType

/-!
# What a registry holds after any registrations

A registry is filled step by step: by single classes and enums, by classes and enums that a host
declares, and by whole manifests. Two steps can name one class in two spellings, and then the later
one counts. So what a registry answers can be read off the log of the steps, without any table: it
is the last entry of the log whose name has the normal form of the name that is asked for.

## One log for each table

A manifest is many registrations in one step. The log spells them out, so that a step is as many
writes to each table as it has entries in the log of that table; the induction over the steps
needs no more than that. Classes and enums have separate logs because their tables never meet,
except that a failing look-up of an enum says whether there is a class of that name.

## Main definitions

* `NamedClass` — a class with the spelling of the name under which it is registered.
* `Registration`, `Registry.ofSteps` — a step, and the registry after some steps.
* `Registry.classLog`, `Registry.enumLog` — the logs.
* `Registry.lastUnder?` — the last entry of a log under a name.

## Main results

* `Registry.classes_ofSteps`, `Registry.enums_ofSteps` — the tables are their logs, written entry by
  entry.
* `Registry.find?_ofSteps` — a name stands for the class that was registered last under it.
* `Registry.ofSteps_answers` — all answers, read off the logs.
-/

namespace DtoInterfaces

/-! ### Steps -/

/-- A class with the name under which it is registered, in any spelling. -/
structure NamedClass where
  name : String
  entry : ClassEntry
  /-- The facts about the class are made for that name. -/
  name_entry : entry.info.name = ClassName.normalize name

namespace NamedClass

/-- The class that a manifest describes under a name. -/
def ofDescription (described : String × ClassDescription) : NamedClass where
  name := described.1
  entry := described.2.entry described.1
  name_entry := by
    rw [ClassDescription.entry]
    cases described.2.construction <;> rfl

/-- The class that a host declares. -/
def ofType (t : DtoType) : NamedClass := ⟨t.name, t.entry, rfl⟩

end NamedClass

/-- A step that registers something. -/
inductive Registration where
  | oneClass (c : NamedClass)
  | hostClass (t : DtoType)
  | oneEnum (name : String) (cases : List EnumCase)
  | hostEnum (t : EnumType)
  | manifest (m : Manifest)

namespace Registration

/-- The registry after a step. -/
def apply (step : Registration) (r : Registry) : Registry :=
  match step with
  | oneClass c => r.register c.entry
  | hostClass t => r.registerType t
  | oneEnum name cases => r.registerEnum name cases
  | hostEnum t => r.registerEnumType t
  | manifest m => r.extend m

/-- The classes that a step registers, in order. -/
def classes : Registration → List NamedClass
  | oneClass c => [c]
  | hostClass t => [.ofType t]
  | oneEnum _ _ => []
  | hostEnum _ => []
  | manifest m => m.classes.toList.map .ofDescription

/-- The enums that a step registers, in order. -/
def enums : Registration → List (String × List EnumCase)
  | oneClass _ => []
  | hostClass _ => []
  | oneEnum name cases => [(name, cases)]
  | hostEnum t => [(t.name, t.cases)]
  | manifest m => m.enums.toList

end Registration

namespace Registry

/-- The registry after some steps that start from nothing. -/
def ofSteps (steps : List Registration) : Registry :=
  steps.foldl (fun r step => step.apply r) empty

/-- Every class that is registered in some steps, in order. -/
def classLog (steps : List Registration) : List NamedClass := steps.flatMap (·.classes)

/-- Every enum that is registered in some steps, in order. -/
def enumLog (steps : List Registration) : List (String × List EnumCase) := steps.flatMap (·.enums)

/-- The last entry of a log whose name has the same normal form as `name`. -/
def lastUnder? {ι : Type} (nameOf : ι → String) (log : List ι) (name : String) : Option ι :=
  (log.filter fun e => ClassName.normalize (nameOf e) = ClassName.normalize name).getLast?

/-! ### The tables -/

/-- Write a class to the table of classes. -/
def writeClass (table : SortedMap String ClassEntry) (c : NamedClass) :
    SortedMap String ClassEntry :=
  table.insert (ClassName.normalize c.name) c.entry

/-- Write an enum to the table of enums. -/
def writeEnum (table : SortedMap String (List EnumCase)) (e : String × List EnumCase) :
    SortedMap String (List EnumCase) :=
  table.insert (ClassName.normalize e.1) e.2

theorem classes_register (r : Registry) (c : NamedClass) :
    (r.register c.entry).classes = writeClass r.classes c := by
  rw [register, writeClass, c.name_entry]

theorem foldl_keeps {σ τ ι : Type} (part : σ → τ) (round : σ → ι → σ)
    (h : ∀ s i, part (round s i) = part s) (is : List ι) (s : σ) :
    part (is.foldl round s) = part s := by
  induction is generalizing s with
  | nil => rfl
  | cons i is ih => rw [List.foldl_cons, ih, h]

/-- A manifest writes its classes to the table of classes. Its enums come after them and leave that
table alone. -/
theorem classes_extend (r : Registry) (m : Manifest) :
    (r.extend m).classes =
      (m.classes.toList.map NamedClass.ofDescription).foldl writeClass r.classes := by
  rw [extend, foldl_keeps classes (fun r (d : String × List EnumCase) => r.registerEnum d.1 d.2)
    fun _ _ => rfl, List.foldl_map]
  exact (List.foldl_hom classes fun r d => (classes_register r (.ofDescription d)).symm).symm

theorem enums_extend (r : Registry) (m : Manifest) :
    (r.extend m).enums = m.enums.toList.foldl writeEnum r.enums := by
  have hclasses := foldl_keeps enums (fun r (d : String × ClassDescription) =>
    r.register (d.2.entry d.1)) (fun _ _ => rfl) m.classes.toList r
  rw [extend, ← hclasses]
  exact (List.foldl_hom enums fun _ _ => rfl).symm

/-- **One step** writes its classes to the table of classes, one after another. -/
theorem classes_apply (r : Registry) (step : Registration) :
    (step.apply r).classes = step.classes.foldl writeClass r.classes := by
  cases step with
  | oneClass c => exact classes_register r c
  | hostClass t => exact classes_register r (.ofType t)
  | oneEnum name cases => rfl
  | hostEnum t => rfl
  | manifest m => exact classes_extend r m

/-- **One step** writes its enums to the table of enums, one after another. -/
theorem enums_apply (r : Registry) (step : Registration) :
    (step.apply r).enums = step.enums.foldl writeEnum r.enums := by
  cases step with
  | oneClass c => rfl
  | hostClass t => rfl
  | oneEnum name cases => rfl
  | hostEnum t => rfl
  | manifest m => exact enums_extend r m

/-- **Some steps** write their whole log to a table to which every step writes its part. -/
theorem table_foldl_apply {τ ι : Type} {table : Registry → τ} {log : Registration → List ι}
    {write : τ → ι → τ} (h : ∀ r step, table (step.apply r) = (log step).foldl write (table r))
    (r : Registry) (steps : List Registration) :
    table (steps.foldl (fun r step => step.apply r) r) =
      (steps.flatMap log).foldl write (table r) := by
  rw [List.foldl_flatMap]
  exact (List.foldl_hom table fun r step => (h r step).symm).symm

variable (steps : List Registration) (name : String)

theorem classes_ofSteps : (ofSteps steps).classes = (classLog steps).foldl writeClass .empty :=
  table_foldl_apply classes_apply empty steps

theorem enums_ofSteps : (ofSteps steps).enums = (enumLog steps).foldl writeEnum .empty :=
  table_foldl_apply enums_apply empty steps

/-! ### Answers -/

/-- **The last registration of a class counts.** -/
theorem find?_ofSteps :
    (ofSteps steps).find? name =
      (lastUnder? NamedClass.name (classLog steps) name).map (·.entry) := by
  rw [find?, classes_ofSteps]
  exact (SortedMap.get?_foldl_insert _ _ _ _).trans (Option.or_none ..)

theorem get?_enums_ofSteps :
    (ofSteps steps).enums.get? (ClassName.normalize name) =
      (lastUnder? Prod.fst (enumLog steps) name).map Prod.snd := by
  rw [enums_ofSteps]
  exact (SortedMap.get?_foldl_insert _ _ _ _).trans (Option.or_none ..)

/-- **The classes are listed** under the normal forms of the names in the log. -/
theorem mem_classNames_ofSteps {name : String} :
    name ∈ (ofSteps steps).classNames ↔
      ∃ c ∈ classLog steps, ClassName.normalize c.name = name := by
  have hget : ((classLog steps).foldl writeClass .empty).get? name = _ :=
    SortedMap.get?_foldl_insert _ _ _ _
  rw [classNames, SortedMap.mem_keys_iff, classes_ofSteps, hget]
  simp

theorem sorted_classNames (r : Registry) :
    (r.classNames.map Text.bytes).Pairwise (· < ·) := by
  refine List.pairwise_map.2 (r.classes.pairwise_keys.imp fun hlt => ?_)
  exact Text.bytes_lt_bytes (compareOfLessAndEq_eq_lt.1 hlt)

/-- **All answers, read off the logs.** Whatever has been registered in whatever order and under
whatever spellings: the facts about a class are those of the class that was registered last under
its name; the cases of an enum are those that were registered last, and where there are none the
failure says whether there is a class of that name; the names of the classes are listed in strictly
increasing order of their bytes, one for every normal form in the log, and are as many as the
registry counts. -/
theorem ofSteps_answers (steps : List Registration) :
    (∀ name, (ofSteps steps).classInfo? name =
      (lastUnder? NamedClass.name (classLog steps) name).map (·.entry.info)) ∧
    (∀ name, (ofSteps steps).enumCases name =
      match lastUnder? Prod.fst (enumLog steps) name,
        lastUnder? NamedClass.name (classLog steps) name with
      | some e, _ => .ok e.2
      | none, some _ => .error (.notAnEnum (ClassName.normalize name))
      | none, none => .error (.notFound (ClassName.normalize name))) ∧
    ((ofSteps steps).classNames.map Text.bytes).Pairwise (· < ·) ∧
    (∀ name, name ∈ (ofSteps steps).classNames ↔
      ∃ c ∈ classLog steps, ClassName.normalize c.name = name) ∧
    (ofSteps steps).size = (ofSteps steps).classNames.length := by
  refine ⟨fun name => ?_, fun name => ?_, sorted_classNames _,
    fun _ => mem_classNames_ofSteps steps, ?_⟩
  · rw [classInfo?, find?_ofSteps, Option.map_map]
    rfl
  · have hclass : (ofSteps steps).classes.contains (ClassName.normalize name) =
        (lastUnder? NamedClass.name (classLog steps) name).isSome := by
      rw [SortedMap.contains, ← find?, find?_ofSteps, Option.isSome_map]
    rw [enumCases, get?_enums_ofSteps, hclass]
    cases lastUnder? Prod.fst (enumLog steps) name <;>
      cases lastUnder? NamedClass.name (classLog steps) name <;> rfl
  · rw [size, classNames, SortedMap.size, SortedMap.keys, List.length_map]

end Registry

end DtoInterfaces
