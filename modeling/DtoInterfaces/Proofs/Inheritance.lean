import DtoInterfaces.Registry.Inheritance
import Mathlib.Data.List.Chain
import Mathlib.Logic.Relation

/-!
# Inheritance is reachability

The walk along the parents answers whether one class can be reached from another by going from
class to parent, at least once. That it finds no ancestor that is not there is seen step by step.
The other half is where circles matter: the walk ends at the first parent that comes a second
time, and might have missed an ancestor further on.

## Why nothing is missed

A class has at most one parent, so whatever is reached from a passed parent is passed itself or
lies behind the one that the walk stands before. Once that one has been passed too, the passed
parents are closed under taking parents, and `base` is none of them. This is `Walk.Searching`,
which every step keeps; nothing in it says how the circle came about or whether the start lies
on it.

## Main definitions

* `Registry.Extends` — one class is the parent of another.
* `Registry.Walk.Searching` — what a walk keeps as long as it has no answer.
* `Registry.Walk.steps` — the walk after some steps, or its answer.

## Main results

* `Registry.inheritsFrom_iff_transGen` — inheritance is the transitive closure of extension.
* `Registry.inheritsFrom_iff_exists_lineage` — the walk is over after at most one more step than
  there are classes, and its answer is whether a line of parents leads to the base.
-/

namespace DtoInterfaces

namespace Registry

variable {r : Registry} {base : String}

/-- `parent` is the parent of the class that `name` stands for. -/
def Extends (r : Registry) (name parent : String) : Prop := r.parentOf? name = some parent

namespace Walk

/-! ### What a walk keeps -/

/-- A walk that has no answer yet: it has not passed `base`, and the parent of whatever it has
passed is passed too or comes next. -/
structure Searching (r : Registry) (base : String) (w : Walk) : Prop where
  /-- The base is not among the passed parents. -/
  base_not_passed : base ∉ w.passed
  /-- Only the parent that comes next leads out of the passed ones. -/
  closed : ∀ name ∈ w.passed, ∀ parent, r.Extends name parent →
    parent ∈ w.passed ∨ w.next = some parent

theorem searching_start (r : Registry) (base : String) (next : Option String) :
    Searching r base ⟨[], next⟩ :=
  ⟨by simp, by simp⟩

/-- **Every step keeps it.** -/
theorem Searching.step {w w' : Walk} (h : Searching r base w) (hstep : w.step r base = .inr w') :
    Searching r base w' := by
  obtain ⟨parent, hnext, hbase, -, rfl⟩ := step_eq_inr hstep
  refine ⟨?_, ?_⟩
  · simp only [List.mem_cons, not_or]
    exact ⟨Ne.symm hbase, h.base_not_passed⟩
  · intro name hname later hlater
    rcases List.mem_cons.1 hname with rfl | hname
    · exact .inr hlater
    · rcases h.closed name hname later hlater with hpassed | hcomes
      · exact .inl (List.mem_cons_of_mem _ hpassed)
      · rw [hnext, Option.some.injEq] at hcomes
        exact .inl (hcomes ▸ List.mem_cons_self)

/-- Where the walk stands before a passed parent, it has met everything that can be reached. -/
theorem Searching.not_reaches {w : Walk} {parent : String} (h : Searching r base w)
    (hnext : w.next = some parent) (hpassed : parent ∈ w.passed) :
    ¬ Relation.ReflTransGen r.Extends parent base := by
  intro hreach
  have hall : ∀ name, Relation.ReflTransGen r.Extends parent name → name ∈ w.passed := by
    intro name hname
    induction hname with
    | refl => exact hpassed
    | tail _ hlast ih =>
      rcases h.closed _ ih _ hlast with hin | hcomes
      · exact hin
      · rw [hnext, Option.some.injEq] at hcomes
        exact hcomes ▸ hpassed
  exact h.base_not_passed (hall base hreach)

/-! ### The answer -/

/-- The answer of one step that has one. -/
theorem Searching.answer_iff {w : Walk} {answer : Bool} (h : Searching r base w)
    (hstep : w.step r base = .inl answer) :
    answer = true ↔ ∃ parent, w.next = some parent ∧ Relation.ReflTransGen r.Extends parent base := by
  unfold Walk.step at hstep
  split at hstep
  · rename_i hnext
    cases hstep
    simp [hnext]
  · rename_i parent hnext
    split at hstep
    · rename_i hbase
      cases hstep
      exact ⟨fun _ => ⟨parent, hnext, hbase ▸ .refl⟩, fun _ => rfl⟩
    · split at hstep
      · rename_i hpassed
        cases hstep
        refine ⟨fun hfalse => absurd hfalse Bool.false_ne_true, ?_⟩
        rintro ⟨parent', hnext', hreach⟩
        rw [hnext, Option.some.injEq] at hnext'
        exact absurd (hnext' ▸ hreach) (h.not_reaches hnext hpassed)
      · cases hstep

/-- What can be reached from the parent that comes next, apart from that parent, can be reached
from the one behind it. -/
theorem reaches_iff_of_step {w w' : Walk} (hstep : w.step r base = .inr w') :
    (∃ parent, w'.next = some parent ∧ Relation.ReflTransGen r.Extends parent base) ↔
      ∃ parent, w.next = some parent ∧ Relation.ReflTransGen r.Extends parent base := by
  obtain ⟨parent, hnext, hbase, -, rfl⟩ := step_eq_inr hstep
  constructor
  · rintro ⟨later, hlater, hreach⟩
    exact ⟨parent, hnext, .head hlater hreach⟩
  · rintro ⟨parent', hnext', hreach⟩
    rw [hnext, Option.some.injEq] at hnext'
    subst hnext'
    rcases hreach.cases_head with heq | ⟨later, hlater, hreach⟩
    · exact absurd heq hbase
    · exact ⟨later, hlater, hreach⟩

/-- **The answer of a walk.** By induction along the walk: a step with an answer answers right,
and a step without one changes nothing about what is asked. -/
theorem Searching.run_iff {w : Walk} (h : Searching r base w) :
    w.run r base = true ↔
      ∃ parent, w.next = some parent ∧ Relation.ReflTransGen r.Extends parent base := by
  fun_induction Walk.run r base w with
  | case1 w answer hstep => exact h.answer_iff hstep
  | case2 w w' hstep ih => rw [ih (h.step hstep), reaches_iff_of_step hstep]

/-! ### The end -/

/-- The walk after some steps, or its answer if that has come by then. -/
def steps (r : Registry) (base : String) : Nat → Walk → Bool ⊕ Walk
  | 0, w => .inr w
  | n + 1, w =>
    match w.step r base with
    | .inl answer => .inl answer
    | .inr w' => steps r base n w'

/-- The answer has come after more steps than there are unmet parents. -/
theorem steps_of_unmet_lt {n : Nat} {w : Walk} (h : w.unmet r < n) :
    w.steps r base n = .inl (w.run r base) := by
  induction n generalizing w with
  | zero => omega
  | succ n ih =>
    rw [steps]
    split
    · rename_i answer hstep
      rw [run_of_step_inl hstep]
    · rename_i w' hstep
      have hlt := unmet_lt_of_step hstep
      rw [run_of_step_inr hstep]
      exact ih (by omega)

/-- A walk that starts at a class has no more parents to meet than there are classes. -/
theorem unmet_start_le (r : Registry) (name : String) :
    unmet r ⟨[], r.parentOf? name⟩ ≤ r.size := by
  unfold unmet
  split
  · omega
  · rename_i parent hparent
    have hlt : (r.parents.filter fun p => p ∉ [parent]).length < r.parents.length :=
      List.length_filter_lt_length_iff_exists.2 ⟨parent, mem_parents hparent, by simp⟩
    have hle := r.length_parents_le
    simp only [List.not_mem_nil, if_false]
    omega

end Walk

/-! ### Ancestors -/

/-- Inheritance is the transitive closure of extension. -/
theorem inheritsFrom_iff_transGen (r : Registry) (name base : String) :
    r.inheritsFrom name base = true ↔
      Relation.TransGen r.Extends name (ClassName.normalize base) := by
  rw [inheritsFrom, (Walk.searching_start r _ _).run_iff, Relation.TransGen.head'_iff]
  rfl

/-- A class is reached from another along parents exactly if a list of parents leads there. -/
theorem transGen_extends_iff_exists_chain {name ancestor : String} :
    Relation.TransGen r.Extends name ancestor ↔
      ∃ parents : List String, (name :: parents).IsChain r.Extends ∧
        parents.getLast? = some ancestor := by
  rw [Relation.TransGen.head'_iff]
  constructor
  · rintro ⟨parent, hparent, hreach⟩
    obtain ⟨later, hchain, hlast⟩ := List.exists_isChain_cons_of_relationReflTransGen hreach
    refine ⟨parent :: later, .cons_cons hparent hchain, ?_⟩
    rw [List.getLast?_eq_some_getLast (List.cons_ne_nil _ _), hlast]
  · rintro ⟨parents, hchain, hlast⟩
    cases parents with
    | nil => cases hlast
    | cons parent later =>
      rw [List.isChain_cons_cons] at hchain
      rw [List.getLast?_eq_some_getLast (List.cons_ne_nil _ _), Option.some.injEq] at hlast
      exact ⟨parent, hchain.1, List.relationReflTransGen_of_exists_isChain_cons later hchain.2 hlast⟩

/-- **The walk decides ancestry and ends.** After at most one more step than there are classes it
has its answer, and the answer is positive exactly if there are parents `p₁, …, pₖ`, at least one,
each the parent of the class before it, the first one that of `name`, and the last one the class
that `base` stands for. -/
theorem inheritsFrom_iff_exists_lineage (r : Registry) (name base : String) :
    (∃ n ≤ r.size + 1, Walk.steps r (ClassName.normalize base) n ⟨[], r.parentOf? name⟩ =
      .inl (r.inheritsFrom name base)) ∧
    (r.inheritsFrom name base = true ↔
      ∃ parents : List String,
        (name :: parents).IsChain (fun c p => (r.classInfo? c).bind (·.parent) = some p) ∧
          parents.getLast? = some (ClassName.normalize base)) := by
  constructor
  · have hle := Walk.unmet_start_le r name
    exact ⟨r.size + 1, le_rfl, Walk.steps_of_unmet_lt (by omega)⟩
  · rw [inheritsFrom_iff_transGen]
    exact transGen_extends_iff_exists_chain

end Registry

end DtoInterfaces
