import DtoInterfaces.Proofs.ClassName
import DtoInterfaces.Proofs.Registry.Registrations

/-!
# Looking listed classes up

A registry lists its classes by the names that it has stored. Whoever takes a name from the
listing and asks for it has its normal form taken once more. So a listed name leads back to its
class exactly if it is its own normal form, which it is unless it starts with a blank.

A class comes to be listed under such a name when it is registered with separators in front of a
blank, as in `\ App\Note`. The name ` App\Note` in the listing then leads to no class, or to a
different one that is registered as `App\Note`.

## Main definitions

* `Registry.Filled` — the registries that registrations lead to.
* `Registry.Resolves` — a name leads to a class of that name.

## Main results

* `Registry.Filled.name_of_classInfo?` — the class that is found has the normal form of the name.
* `Registry.resolves_iff_not_blank` — which listed names resolve.
-/

namespace DtoInterfaces

namespace Registry

/-! ### Entries and their names -/

section Filled

variable {r : Registry} {name name' : String} {entry : ClassEntry} {info : ClassInfo}

/-- The registries that registrations lead to. Nothing is asked of the name of a class: it need not
be a normal form. -/
inductive Filled : Registry → Prop
  | empty : Filled empty
  | register {r : Registry} (entry : ClassEntry) : Filled r → Filled (r.register entry)
  | registerEnum {r : Registry} (name : String) (cases : List EnumCase) :
    Filled r → Filled (r.registerEnum name cases)

theorem Filled.foldl {ι : Type} {round : Registry → ι → Registry}
    (h : ∀ r i, Filled r → Filled (round r i)) (is : List ι) (hr : Filled r) :
    Filled (is.foldl round r) := by
  induction is generalizing r with
  | nil => exact hr
  | cons i is ih => exact ih (h r i hr)

/-- A step of whatever kind registers classes and enums one by one. -/
theorem Filled.apply (step : Registration) (hr : Filled r) : Filled (step.apply r) := by
  cases step with
  | oneClass c => exact hr.register c.entry
  | hostClass t => exact hr.register t.entry
  | oneEnum name cases => exact hr.registerEnum name cases
  | hostEnum t => exact hr.registerEnum t.name t.cases
  | manifest m =>
    exact .foldl (fun _ d h => h.registerEnum d.1 d.2) _
      (.foldl (fun _ d h => h.register (d.2.entry d.1)) _ hr)

theorem filled_ofSteps (steps : List Registration) : Filled (ofSteps steps) :=
  .foldl (fun _ step h => h.apply step) steps .empty

/-- **An entry carries the normal form of the name that leads to it.** By induction on the
registrations: a class is found under the name that it carries, and no other entry is touched. -/
theorem Filled.name_of_find? (hr : r.Filled) (h : r.find? name = some entry) :
    entry.info.name = ClassName.normalize name := by
  induction hr with
  | empty => cases h
  | register entry' _ ih =>
    rw [find?_register] at h
    split at h
    · rename_i hname
      cases h
      exact hname.symm
    · exact ih h
  | registerEnum name' cases _ ih => exact ih (find?_registerEnum _ _ _ _ ▸ h)

/-- The class that a name leads to has the normal form of the name. -/
theorem Filled.name_of_classInfo? (hr : r.Filled) (h : r.classInfo? name = some info) :
    info.name = ClassName.normalize name := by
  obtain ⟨entry, hentry, rfl⟩ := Option.map_eq_some_iff.1 h
  exact hr.name_of_find? hentry

theorem Filled.normalize_eq (hr : r.Filled) (h : r.classInfo? name = some info)
    (h' : r.classInfo? name' = some info) :
    ClassName.normalize name = ClassName.normalize name' := by
  rw [← hr.name_of_classInfo? h, hr.name_of_classInfo? h']

end Filled

/-! ### Listed names -/

/-- A name resolves if it leads to a class of exactly that name. -/
def Resolves (r : Registry) (name : String) : Prop :=
  ∃ info, r.classInfo? name = some info ∧ info.name = name

variable {steps : List Registration} {name : String}

theorem isSome_classInfo?_iff :
    ((ofSteps steps).classInfo? name).isSome = true ↔
      ClassName.normalize name ∈ (ofSteps steps).classNames := by
  rw [classInfo?, Option.isSome_map, find?, classNames, SortedMap.mem_keys_iff]

/-- A listed name resolves exactly if it is its own normal form. -/
theorem resolves_iff_normalize_eq (h : name ∈ (ofSteps steps).classNames) :
    (ofSteps steps).Resolves name ↔ ClassName.normalize name = name := by
  constructor
  · rintro ⟨info, hinfo, hname⟩
    rw [← (filled_ofSteps steps).name_of_classInfo? hinfo, hname]
  · intro hnormal
    obtain ⟨info, hinfo⟩ : ∃ info, (ofSteps steps).classInfo? name = some info := by
      rw [← Option.isSome_iff_exists, isSome_classInfo?_iff, hnormal]
      exact h
    exact ⟨info, hinfo, ((filled_ofSteps steps).name_of_classInfo? hinfo).trans hnormal⟩

/-- **A listed name resolves** exactly if it does not start with a blank, whatever has been
registered under whatever spellings. -/
theorem resolves_iff_not_blank (steps : List Registration) {name : String}
    (h : name ∈ (ofSteps steps).classNames) :
    (ofSteps steps).Resolves name ↔ name.toList.head?.any Text.isBlank = false := by
  obtain ⟨c, -, rfl⟩ := (mem_classNames_ofSteps steps).1 h
  rw [resolves_iff_normalize_eq h, ClassName.normalize_normalize_eq_iff, ClassName.startsBlank,
    ClassName.toList_normalize]

/-- A class whose name is spelled with a separator in front of a blank. -/
def blankNote : NamedClass where
  name := "\\ App\\Note"
  entry := ⟨.ofNames "\\ App\\Note" (some "Base") false [], none, none⟩
  name_entry := rfl

/-- A class whose name is what is left of the other one behind the blank. -/
def plainNote : NamedClass where
  name := "App\\Note"
  entry := ⟨.ofNames "App\\Note" (some "Base") true [], none, none⟩
  name_entry := rfl

/-- Of two classes that are listed side by side one resolves. The name of the other leads to the
first one. -/
theorem resolves_iff_not_blank_notes :
    (ofSteps [.oneClass blankNote, .oneClass plainNote]).classNames = [" App\\Note", "App\\Note"] ∧
    (ofSteps [.oneClass blankNote, .oneClass plainNote]).Resolves "App\\Note" ∧
    (ofSteps [.oneClass blankNote, .oneClass plainNote]).classInfo? " App\\Note" =
      some plainNote.entry.info ∧
    ¬ (ofSteps [.oneClass blankNote, .oneClass plainNote]).Resolves " App\\Note" := by
  have hnames : (ofSteps [.oneClass blankNote, .oneClass plainNote]).classNames =
      [" App\\Note", "App\\Note"] := by
    decide +kernel
  have hplain : "App\\Note" ∈
      (ofSteps [.oneClass blankNote, .oneClass plainNote]).classNames := by
    simp [hnames]
  have hblank : " App\\Note" ∈
      (ofSteps [.oneClass blankNote, .oneClass plainNote]).classNames := by
    simp [hnames]
  refine ⟨hnames, (resolves_iff_not_blank _ hplain).2 ?_, ?_, fun hresolves => ?_⟩
  · decide +kernel
  · decide +kernel
  · exact absurd ((resolves_iff_not_blank _ hblank).1 hresolves) (by decide +kernel)

/-- **A class that is listed and not found.** -/
theorem classNames_blankNote :
    (ofSteps [.oneClass blankNote]).classNames = [" App\\Note"] ∧
    (ofSteps [.oneClass blankNote]).classInfo? " App\\Note" = none ∧
    ¬ (ofSteps [.oneClass blankNote]).Resolves " App\\Note" := by
  have hnone : (ofSteps [.oneClass blankNote]).classInfo? " App\\Note" = none := by
    decide +kernel
  refine ⟨by decide +kernel, hnone, ?_⟩
  rintro ⟨info, hinfo, -⟩
  rw [hnone] at hinfo
  cases hinfo

end Registry

end DtoInterfaces
