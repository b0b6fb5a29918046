import DtoInterfaces.Registry.Basic

/-!
# Inheritance

A class inherits from its parent and from whatever its parent inherits from. Parents need not be
registered, and a hierarchy can run in a circle, so the walk along the parents remembers the ones
that it has passed and ends at the first one that comes a second time.

## Why the walk ends

Every parent but the first is the parent of some registered class, and the walk goes on only if it
has not passed it before. So each step leaves fewer registered parents that the walk has not met,
and `Walk.unmet` counts them. A first parent that no registered class has is why the count is not
taken over the passed parents alone: it includes the one that the walk stands before.

## Main definitions

* `Registry.parentOf?` — the parent of a class.
* `Registry.Walk`, `Registry.Walk.step`, `Registry.Walk.run` — the walk along the parents.
* `Registry.inheritsFrom` — whether a class has a given ancestor.
* `Registry.isExportable` — whether a class is known, concrete, and inherits from a base.

## Main results

* `Registry.Walk.unmet_lt_of_step` — a step leaves fewer parents unmet.
-/

namespace DtoInterfaces

namespace Registry

/-- The parent of a class, if the class is known and has one. -/
def parentOf? (r : Registry) (name : String) : Option String :=
  (r.classInfo? name).bind (·.parent)

/-- Every parent of a registered class. -/
def parents (r : Registry) : List String := r.classes.toList.filterMap fun e => e.2.info.parent

theorem length_parents_le (r : Registry) : r.parents.length ≤ r.size :=
  List.length_filterMap_le _ _

theorem mem_parents {r : Registry} {name parent : String} (h : r.parentOf? name = some parent) :
    parent ∈ r.parents := by
  obtain ⟨info, hinfo, hparent⟩ := Option.bind_eq_some_iff.1 h
  obtain ⟨entry, hentry, rfl⟩ := Option.map_eq_some_iff.1 hinfo
  obtain ⟨key, hkey⟩ := SortedMap.exists_mem_of_get? hentry
  exact List.mem_filterMap.2 ⟨(key, entry), hkey, hparent⟩

/-! ### The walk along the parents -/

/-- A walk along the parents: the ones that it has passed, the last one first, and the one that it
stands before. -/
structure Walk where
  passed : List String
  next : Option String

namespace Walk

/-- One step: the answer, or the walk behind one more parent. The answer is positive at `base`,
and negative where there is no parent or one that has been passed before. -/
def step (r : Registry) (base : String) (w : Walk) : Bool ⊕ Walk :=
  match w.next with
  | none => .inl false
  | some parent =>
    if parent = base then .inl true
    else if parent ∈ w.passed then .inl false
    else .inr ⟨parent :: w.passed, r.parentOf? parent⟩

/-- The number of parents of registered classes that the walk has not met, and one more for the
parent that it stands before if that is a new one. -/
def unmet (r : Registry) (w : Walk) : Nat :=
  match w.next with
  | none => 0
  | some parent =>
    if parent ∈ w.passed then 0
    else (r.parents.filter fun p => p ∉ parent :: w.passed).length + 1

theorem step_eq_inr {r : Registry} {base : String} {w w' : Walk} (h : w.step r base = .inr w') :
    ∃ parent, w.next = some parent ∧ parent ≠ base ∧ parent ∉ w.passed ∧
      w' = ⟨parent :: w.passed, r.parentOf? parent⟩ := by
  unfold step at h
  split at h
  · cases h
  · rename_i parent hnext
    split at h
    · cases h
    · split at h
      · cases h
      · exact ⟨parent, hnext, ‹_›, ‹_›, (Sum.inr.inj h).symm⟩

/-- **A step leaves fewer parents unmet.** The next parent is one of a registered class: if it is
new it was counted before the step and is not counted behind it. -/
theorem unmet_lt_of_step {r : Registry} {base : String} {w w' : Walk}
    (h : w.step r base = .inr w') : w'.unmet r < w.unmet r := by
  obtain ⟨parent, hnext, -, hnew, rfl⟩ := step_eq_inr h
  simp only [unmet, hnext, if_neg hnew]
  split
  · omega
  · rename_i later hlater
    split
    · omega
    · rename_i hlaterNew
      have hsplit : (r.parents.filter fun p => p ∉ later :: parent :: w.passed) =
          (r.parents.filter fun p => p ∉ parent :: w.passed).filter fun p => p ≠ later := by
        rw [List.filter_filter]
        exact List.filter_congr fun p _ => by simp [not_or]
      have hmem : later ∈ r.parents.filter fun p => p ∉ parent :: w.passed :=
        List.mem_filter.2 ⟨mem_parents hlater, by simpa using hlaterNew⟩
      have hlt : ((r.parents.filter fun p => p ∉ parent :: w.passed).filter
          fun p => p ≠ later).length < (r.parents.filter fun p => p ∉ parent :: w.passed).length :=
        List.length_filter_lt_length_iff_exists.2 ⟨later, hmem, by simp⟩
      rw [hsplit]
      omega

/-- Walk on until there is an answer. -/
def run (r : Registry) (base : String) (w : Walk) : Bool :=
  match _h : w.step r base with
  | .inl answer => answer
  | .inr w' => w'.run r base
termination_by w.unmet r
decreasing_by exact unmet_lt_of_step _h

theorem run_of_step_inl {r : Registry} {base : String} {w : Walk} {answer : Bool}
    (h : w.step r base = .inl answer) : w.run r base = answer := by
  rw [run]
  split
  · rename_i answer' h'
    rw [h] at h'
    exact (Sum.inl.inj h').symm
  · rename_i w' h'
    rw [h] at h'
    cases h'

theorem run_of_step_inr {r : Registry} {base : String} {w w' : Walk}
    (h : w.step r base = .inr w') : w.run r base = w'.run r base := by
  rw [run]
  split
  · rename_i answer h'
    rw [h] at h'
    cases h'
  · rename_i w'' h'
    rw [h] at h'
    rw [Sum.inr.inj h']

end Walk

/-- Whether a class has `base` as an ancestor. The class itself is not one, unless its hierarchy
runs in a circle. -/
def inheritsFrom (r : Registry) (name base : String) : Bool :=
  Walk.run r (ClassName.normalize base) ⟨[], r.parentOf? name⟩

/-- Whether a class is known, is not abstract, and has `base` as an ancestor. -/
def isExportable (r : Registry) (name base : String) : Bool :=
  match r.classInfo? name with
  | none => false
  | some info => !info.isAbstract && r.inheritsFrom name base

end Registry

end DtoInterfaces
