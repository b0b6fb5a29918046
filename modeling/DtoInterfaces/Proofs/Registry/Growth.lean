import DtoInterfaces.Proofs.Inheritance
import DtoInterfaces.Proofs.Registry.Described

/-!
# Registries that grow

A registry that takes in a class under a new name still knows every class that it has known, with
the same facts and the same ways of construction. This alone carries over what was answered before.
A line of parents that led to a base leads there still, since each of its classes is where it was; a
shape is taken from the class itself.

It does not matter where the new class stands. It can be the parent at which a line of parents ended
because nobody knew it, so that the line goes on now, and it can close the line to a circle. Either
way the walk along the parents meets the base as it did, because its answer depends on what can be
reached and not on where the walk ends.

Answers in the negative are not kept. A class that had no known ancestor behind its parent can have
one now.

## Main definitions

* `Registry.IsPartOf` — every class of one registry is known to another, as it is.
* `Registry.KeepsAnswers` — what has been answered about the classes of a registry stays.

## Main results

* `Registry.IsPartOf.keepsAnswers` — a larger registry gives the answers of its parts.
* `Registry.find?_of_classes` — what a name stands for after further registrations.
* `Registry.keepsAnswers_of_new` — registering classes under new names keeps all answers.
-/

namespace DtoInterfaces

namespace Registry

variable {r r' : Registry} {name base : String} {log : List NamedClass}

/-! ### Parts -/

/-- Every class that the one registry knows is known to the other, and it is the same class. -/
def IsPartOf (r r' : Registry) : Prop :=
  ∀ name entry, r.find? name = some entry → r'.find? name = some entry

/-- What is said about the classes of the one registry is said by the other: which of them are
exportable, what they inherit from, and what their shapes are. -/
structure KeepsAnswers (r r' : Registry) : Prop where
  exportable : ∀ name base, r.isExportable name base = true → r'.isExportable name base = true
  ancestors : ∀ name base, r.inheritsFrom name base = true → r'.inheritsFrom name base = true
  shapes : ∀ name, (r.classInfo? name).isSome = true → r'.extractShape name = r.extractShape name

namespace IsPartOf

theorem classInfo? (h : r.IsPartOf r') {info : ClassInfo} (hinfo : r.classInfo? name = some info) :
    r'.classInfo? name = some info := by
  obtain ⟨entry, hentry, rfl⟩ := Option.map_eq_some_iff.1 hinfo
  rw [Registry.classInfo?, h name entry hentry, Option.map_some]

theorem parent_eq (h : r.IsPartOf r') {parent : String} (hparent : r.Extends name parent) :
    r'.Extends name parent := by
  obtain ⟨info, hinfo, hparent⟩ := Option.bind_eq_some_iff.1 hparent
  rw [Extends, parentOf?, h.classInfo? hinfo, Option.bind_some, hparent]

/-- **A class keeps its ancestors**: the steps that led to one still lead there. -/
theorem inheritsFrom (h : r.IsPartOf r') (hbase : r.inheritsFrom name base = true) :
    r'.inheritsFrom name base = true := by
  rw [inheritsFrom_iff_transGen] at hbase ⊢
  exact Relation.TransGen.mono (fun _ _ => h.parent_eq) _ _ hbase

theorem isExportable (h : r.IsPartOf r') (hexport : r.isExportable name base = true) :
    r'.isExportable name base = true := by
  rw [Registry.isExportable] at hexport
  split at hexport
  · cases hexport
  · rename_i info hinfo
    rw [Bool.and_eq_true] at hexport
    rw [Registry.isExportable, h.classInfo? hinfo, Bool.and_eq_true]
    exact ⟨hexport.1, h.inheritsFrom hexport.2⟩

theorem extractShape (h : r.IsPartOf r') (hknown : (r.classInfo? name).isSome = true) :
    r'.extractShape name = r.extractShape name := by
  rw [Registry.classInfo?, Option.isSome_map] at hknown
  obtain ⟨entry, hentry⟩ := Option.isSome_iff_exists.1 hknown
  have hinstantiate : ∀ construction,
      r'.instantiate name construction = r.instantiate name construction := by
    intro construction
    rw [instantiate, instantiate, hentry, h name entry hentry]
  rw [Registry.extractShape, Registry.extractShape, hinstantiate, hinstantiate]

/-- **A larger registry gives the answers of its parts.** -/
theorem keepsAnswers (h : r.IsPartOf r') : r.KeepsAnswers r' where
  exportable _ _ := h.isExportable
  ancestors _ _ := h.inheritsFrom
  shapes _ := h.extractShape

end IsPartOf

/-! ### Growing -/

/-- **Further registrations**: a name stands for the last class under it in the log, and for what it
has stood for if there is none. -/
theorem find?_of_classes (h : r'.classes = log.foldl writeClass r.classes) (name : String) :
    r'.find? name =
      ((lastUnder? NamedClass.name log name).map (·.entry)).or (r.find? name) := by
  rw [find?, h]
  exact SortedMap.get?_foldl_insert _ _ _ _

theorem isSome_classInfo?_of_classes (h : r'.classes = log.foldl writeClass r.classes) :
    ∀ c ∈ log, (r'.classInfo? c.name).isSome = true := by
  intro c hc
  have hspelling : ClassName.normalize c.name = ClassName.normalize c.name := rfl
  obtain ⟨last, hlast, -⟩ := exists_lastUnder? hc hspelling
  rw [classInfo?, find?_of_classes h, hlast]
  rfl

theorem mem_classNames_of_find? {entry : ClassEntry} (h : r.find? name = some entry) :
    ClassName.normalize name ∈ r.classNames :=
  SortedMap.mem_keys_iff.2 (Option.isSome_iff_exists.2 ⟨entry, h⟩)

theorem isPartOf_register {entry : ClassEntry} (hnew : entry.info.name ∉ r.classNames) :
    r.IsPartOf (r.register entry) := by
  intro name known hknown
  have hother : ClassName.normalize name ≠ entry.info.name := by
    intro heq
    exact hnew (heq ▸ mem_classNames_of_find? hknown)
  rw [find?_register, if_neg hother, hknown]

/-- Classes under new names change no known class. Two of them may have one name. -/
theorem isPartOf_of_classes (hnew : ∀ c ∈ log, ClassName.normalize c.name ∉ r.classNames)
    (h : r'.classes = log.foldl writeClass r.classes) : r.IsPartOf r' := by
  intro name known hknown
  have hother : lastUnder? NamedClass.name log name = none := by
    rw [lastUnder?, List.getLast?_eq_none_iff, List.filter_eq_nil_iff]
    intro c hc heq
    rw [decide_eq_true_eq] at heq
    exact hnew c hc (heq ▸ mem_classNames_of_find? hknown)
  rw [find?_of_classes h, hother, Option.map_none, Option.none_or, hknown]

theorem forall_classes_manifest {m : Manifest} {p : String → Prop} :
    (∀ c ∈ (Registration.manifest m).classes, p c.name) ↔ ∀ key ∈ m.classes.keys, p key := by
  rw [Registration.classes, List.forall_mem_map, PropertyMap.keys, List.forall_mem_map]
  rfl

/-- **Registering classes under new names keeps all answers.** Whatever a registry has answered
about the classes that it knows, it answers after taking in a class under a name that it did not
have, wherever the class stands in the hierarchy; after taking in a manifest all of whose classes
have such names; and after any registrations of which none uses a name of its classes. What has been
taken in is known from then on. -/
theorem keepsAnswers_of_new (r : Registry) :
    (∀ entry : ClassEntry, entry.info.name ∉ r.classNames →
      r.KeepsAnswers (r.register entry) ∧
        ∀ name, ClassName.normalize name = entry.info.name →
          (r.register entry).classInfo? name = some entry.info) ∧
    (∀ m : Manifest, (∀ key ∈ m.classes.keys, ClassName.normalize key ∉ r.classNames) →
      r.KeepsAnswers (r.extend m) ∧
        ∀ key ∈ m.classes.keys, ((r.extend m).classInfo? key).isSome = true) ∧
    ∀ steps : List Registration,
      (∀ c ∈ classLog steps, ClassName.normalize c.name ∉ r.classNames) →
        r.KeepsAnswers (steps.foldl (fun r step => step.apply r) r) ∧
          ∀ c ∈ classLog steps,
            ((steps.foldl (fun r step => step.apply r) r).classInfo? c.name).isSome = true := by
  refine ⟨fun entry hnew => ?_, fun m hnew => ?_, fun steps hnew => ?_⟩
  · refine ⟨(isPartOf_register hnew).keepsAnswers, fun name hname => ?_⟩
    rw [classInfo?, find?_register, if_pos hname, Option.map_some]
  · have hclasses := classes_extend r m
    rw [← forall_classes_manifest] at hnew ⊢
    exact ⟨(isPartOf_of_classes hnew hclasses).keepsAnswers,
      isSome_classInfo?_of_classes hclasses⟩
  · have hclasses := table_foldl_apply classes_apply r steps
    exact ⟨(isPartOf_of_classes hnew hclasses).keepsAnswers,
      isSome_classInfo?_of_classes hclasses⟩

/-- A class whose parent nobody knows. -/
def noteClass : ClassEntry := ⟨.ofNames "Note" "Base" false [], none, none⟩

/-- The parent, which has the class as its own parent. -/
def circularBase : ClassEntry := ⟨.ofNames "Base" "Note" true [], none, none⟩

/-- The parent becomes known and closes a circle. The class is exportable as before, and it is found
to inherit from itself now, which nobody has said before. -/
theorem keepsAnswers_of_new_circle :
    circularBase.info.name ∉ (empty.register noteClass).classNames ∧
    (empty.register noteClass).isExportable "Note" "Base" = true ∧
    ((empty.register noteClass).register circularBase).isExportable "Note" "Base" = true ∧
    (empty.register noteClass).inheritsFrom "Note" "Note" = false ∧
    ((empty.register noteClass).register circularBase).inheritsFrom "Note" "Note" = true := by
  have hnew : circularBase.info.name ∉ (empty.register noteClass).classNames := by decide +kernel
  have hbefore : (empty.register noteClass).isExportable "Note" "Base" = true := by
    decide +kernel
  refine ⟨hnew, hbefore, ?_, by decide +kernel, by decide +kernel⟩
  exact ((keepsAnswers_of_new _).1 circularBase hnew).1.exportable "Note" "Base" hbefore

end Registry

end DtoInterfaces
