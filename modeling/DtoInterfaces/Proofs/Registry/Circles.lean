import DtoInterfaces.Proofs.Inheritance
import DtoInterfaces.Proofs.Registry.Registrations
import Mathlib.Data.List.Perm.Subperm
import Mathlib.Data.Nat.Find

/-!
# Classes that are their own ancestors

The walk along the parents compares every parent with the base, and the first one to be compared is
the parent of the class. So a class is found to inherit from itself exactly if the line of its
parents comes back to it, and it is then exportable even where it is the base itself.

## How far to look

If an ancestor can be reached at all, the shortest way to it passes no parent twice, because a part
of the way between two visits could be left out. All parents on the way are parents of registered
classes, so the way is no longer than there are classes.

## Main definitions

* `Registry.ancestor?` — the class that one comes to by some steps from class to parent.
* `Registry.IsOnCircle` — the line of parents of a class comes back to it.

## Main results

* `Registry.inheritsFrom_iff_ancestor?` — ancestors are found within as many steps as there are
  classes.
* `Registry.inheritsFrom_self_iff` — which classes inherit from themselves.
-/

namespace DtoInterfaces

namespace Registry

variable {r : Registry} {name ancestor : String}

/-- The class that one comes to by that many steps from class to parent. -/
def ancestor? (r : Registry) : Nat → String → Option String
  | 0, name => some name
  | n + 1, name => (r.parentOf? name).bind (r.ancestor? n)

theorem ancestor?_add (m n : Nat) (name : String) :
    r.ancestor? (m + n) name = (r.ancestor? m name).bind (r.ancestor? n) := by
  induction m generalizing name with
  | zero => rw [Nat.zero_add, ancestor?, Option.bind_some]
  | succ m ih =>
    rw [Nat.succ_add, ancestor?, ancestor?, Option.bind_assoc]
    exact congrArg _ (funext ih)

theorem exists_ancestor?_of_le {m n : Nat} (h : r.ancestor? n name = some ancestor) (hle : m ≤ n) :
    ∃ between, r.ancestor? m name = some between := by
  rw [← Nat.add_sub_of_le hle, ancestor?_add, Option.bind_eq_some_iff] at h
  obtain ⟨between, hbetween, -⟩ := h
  exact ⟨between, hbetween⟩

theorem mem_parents_of_ancestor? {n : Nat} (h : r.ancestor? (n + 1) name = some ancestor) :
    ancestor ∈ r.parents := by
  rw [ancestor?_add, Option.bind_eq_some_iff] at h
  obtain ⟨child, -, hparent⟩ := h
  rw [ancestor?, Option.bind_eq_some_iff] at hparent
  obtain ⟨parent, hparent, hself⟩ := hparent
  rw [ancestor?, Option.some_inj] at hself
  exact hself ▸ mem_parents hparent

/-- What can be reached is reached by some number of steps, at least one. -/
theorem transGen_extends_iff_ancestor? : Relation.TransGen r.Extends name ancestor ↔
    ∃ n, r.ancestor? (n + 1) name = some ancestor := by
  constructor
  · intro h
    induction h with
    | single hparent =>
      refine ⟨0, ?_⟩
      rw [ancestor?, hparent, Option.bind_some, ancestor?]
    | tail _ hparent ih =>
      obtain ⟨n, hn⟩ := ih
      refine ⟨n + 1, ?_⟩
      rw [ancestor?_add (n + 1) 1, hn, Option.bind_some, ancestor?, hparent, Option.bind_some,
        ancestor?]
  · rintro ⟨n, hn⟩
    induction n generalizing name with
    | zero =>
      rw [ancestor?, Option.bind_eq_some_iff] at hn
      obtain ⟨parent, hparent, hself⟩ := hn
      rw [ancestor?, Option.some_inj] at hself
      exact .single (hself ▸ hparent)
    | succ n ih =>
      rw [ancestor?, Option.bind_eq_some_iff] at hn
      obtain ⟨parent, hparent, hn⟩ := hn
      exact .head hparent (ih hn)

/-- On a shortest way no two places are the same: the steps between them could be left out. -/
theorem ancestor?_ne_of_lt {n i j : Nat} (h : r.ancestor? (n + 1) name = some ancestor)
    (hleast : ∀ m < n, r.ancestor? (m + 1) name ≠ some ancestor) (hij : i < j) (hj : j ≤ n) :
    r.ancestor? (i + 1) name ≠ r.ancestor? (j + 1) name := by
  intro hsame
  refine hleast (i + (n - j)) (by omega) ?_
  calc r.ancestor? (i + (n - j) + 1) name
      = r.ancestor? ((i + 1) + (n - j)) name := by rw [Nat.add_right_comm]
    _ = (r.ancestor? (j + 1) name).bind (r.ancestor? (n - j)) := by rw [ancestor?_add, hsame]
    _ = r.ancestor? ((j + 1) + (n - j)) name := (ancestor?_add _ _ _).symm
    _ = r.ancestor? (n + 1) name := by rw [show (j + 1) + (n - j) = n + 1 by omega]
    _ = some ancestor := h

/-- **The shortest way to an ancestor** is no longer than there are classes. The places on it are
pairwise different, and each is the parent of a registered class. -/
theorem lt_size_of_least {n : Nat} (h : r.ancestor? (n + 1) name = some ancestor)
    (hleast : ∀ m < n, r.ancestor? (m + 1) name ≠ some ancestor) : n < r.size := by
  have hnodup : ((List.range (n + 1)).map fun i => r.ancestor? (i + 1) name).Nodup := by
    refine List.Nodup.map_on (fun i hi j hj hsame => ?_) List.nodup_range
    rw [List.mem_range] at hi hj
    rcases Nat.lt_trichotomy i j with hij | hij | hij
    · exact absurd hsame (ancestor?_ne_of_lt h hleast hij (by omega))
    · exact hij
    · exact absurd hsame.symm (ancestor?_ne_of_lt h hleast hij (by omega))
  have hparents : ((List.range (n + 1)).map fun i => r.ancestor? (i + 1) name) ⊆
      r.parents.map some := by
    intro place hplace
    obtain ⟨i, hi, rfl⟩ := List.mem_map.1 hplace
    rw [List.mem_range] at hi
    obtain ⟨parent, hparent⟩ := exists_ancestor?_of_le (m := i + 1) h (by omega)
    rw [hparent]
    exact List.mem_map_of_mem (mem_parents_of_ancestor? hparent)
  have hle := (hnodup.subperm hparents).length_le
  rw [List.length_map, List.length_range, List.length_map] at hle
  exact hle.trans r.length_parents_le

/-- **Ancestors are found within as many steps as there are classes.** -/
theorem inheritsFrom_iff_ancestor? (r : Registry) (name base : String) :
    r.inheritsFrom name base = true ↔
      ∃ n < r.size, r.ancestor? (n + 1) name = some (ClassName.normalize base) := by
  rw [inheritsFrom_iff_transGen, transGen_extends_iff_ancestor?]
  constructor
  · intro hreach
    exact ⟨Nat.find hreach, lt_size_of_least (Nat.find_spec hreach) fun m => Nat.find_min hreach,
      Nat.find_spec hreach⟩
  · rintro ⟨n, -, hn⟩
    exact ⟨n, hn⟩

/-! ### Circles -/

/-- The line of parents of a class comes back to it, within as many steps as there are classes. -/
def IsOnCircle (r : Registry) (name : String) : Prop :=
  ∃ n < r.size, r.ancestor? (n + 1) name = some (ClassName.normalize name)

instance (r : Registry) (name : String) : Decidable (r.IsOnCircle name) :=
  inferInstanceAs (Decidable (∃ n < r.size,
    r.ancestor? (n + 1) name = some (ClassName.normalize name)))

theorem inheritsFrom_congr {base base' : String}
    (h : ClassName.normalize base = ClassName.normalize base') :
    r.inheritsFrom name base = r.inheritsFrom name base' := by
  rw [inheritsFrom, inheritsFrom, h]

theorem isExportable_iff {base : String} : r.isExportable name base = true ↔
    (∃ info, r.classInfo? name = some info ∧ info.isAbstract = false) ∧
      r.inheritsFrom name base = true := by
  rw [isExportable]
  cases r.classInfo? name with
  | none => simp
  | some info => simp

/-- **A class inherits from itself** exactly if the line of its parents comes back to it. Under
whatever spelling it is configured as the base, it is then exportable unless it is abstract, and it
is not exportable otherwise. -/
theorem inheritsFrom_self_iff (r : Registry) (name : String) :
    (r.inheritsFrom name name = true ↔ r.IsOnCircle name) ∧
    ∀ base, ClassName.normalize base = ClassName.normalize name →
      (r.isExportable name base = true ↔
        (∃ info, r.classInfo? name = some info ∧ info.isAbstract = false) ∧ r.IsOnCircle name) := by
  have hself : r.inheritsFrom name name = true ↔ r.IsOnCircle name :=
    inheritsFrom_iff_ancestor? r name name
  refine ⟨hself, fun base hbase => ?_⟩
  rw [isExportable_iff, inheritsFrom_congr hbase, hself]

/-- A class with a parent and nothing else. -/
def childClass (name parent : String) : NamedClass where
  name := name
  entry := ⟨.ofNames name (some parent) false [], none, none⟩
  name_entry := rfl

/-- Two classes that extend each other, and a third one that extends one of them. -/
def circleRegistry : Registry :=
  ofSteps [.oneClass (childClass "App\\Draft" "App\\Note"),
    .oneClass (childClass "App\\Note" "\\App\\Draft"),
    .oneClass (childClass "App\\Page" "App\\Note")]

/-- The third class leads into the circle and does not lie on it. The others are exportable as their
own base. -/
theorem inheritsFrom_self_iff_circle :
    circleRegistry.inheritsFrom "App\\Page" "App\\Draft" = true ∧
    circleRegistry.inheritsFrom "App\\Page" "App\\Page" = false ∧
    circleRegistry.isExportable "App\\Note" "\\App\\Note" = true := by
  refine ⟨(inheritsFrom_iff_ancestor? _ _ _).2 ⟨1, by decide +kernel, by decide +kernel⟩, ?_, ?_⟩
  · rw [← Bool.not_eq_true, (inheritsFrom_self_iff circleRegistry "App\\Page").1]
    decide +kernel
  · refine ((inheritsFrom_self_iff circleRegistry "App\\Note").2 "\\App\\Note" ?_).2 ⟨?_, ?_⟩
    · decide +kernel
    · exact ⟨.ofNames "App\\Note" (some "\\App\\Draft") false [], by decide +kernel, rfl⟩
    · decide +kernel

/-- A class that extends itself. -/
def loopRegistry : Registry := ofSteps [.oneClass (childClass "App\\Loop" "App\\Loop")]

/-- **A class that inherits from itself**, because its parent has it as a parent, and another one
because it is its own parent. Each is exportable as its own base. -/
theorem inheritsFrom_self_circle :
    circleRegistry.inheritsFrom "App\\Draft" "App\\Draft" = true ∧
    circleRegistry.isExportable "App\\Draft" "App\\Draft" = true ∧
    loopRegistry.inheritsFrom "App\\Loop" "App\\Loop" = true ∧
    loopRegistry.isExportable "App\\Loop" "App\\Loop" = true := by
  have hdraft : circleRegistry.inheritsFrom "App\\Draft" "App\\Draft" = true :=
    (inheritsFrom_iff_ancestor? _ _ _).2 ⟨1, by decide +kernel, by decide +kernel⟩
  have hloop : loopRegistry.inheritsFrom "App\\Loop" "App\\Loop" = true :=
    (inheritsFrom_iff_ancestor? _ _ _).2 ⟨0, by decide +kernel, by decide +kernel⟩
  refine ⟨hdraft, isExportable_iff.2 ⟨?_, hdraft⟩, hloop, isExportable_iff.2 ⟨?_, hloop⟩⟩
  · exact ⟨.ofNames "App\\Draft" (some "App\\Note") false [], by decide +kernel, rfl⟩
  · exact ⟨.ofNames "App\\Loop" (some "App\\Loop") false [], by decide +kernel, rfl⟩

end Registry

end DtoInterfaces
