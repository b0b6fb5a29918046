import DtoInterfaces.Proofs.FirstOccurrences
import DtoInterfaces.TypeExpr.Simplify

/-!
# What simplifying keeps

A type is a tree of unions, and simplifying reads off its leaves: whatever stands in a union at any
depth and is no union itself. A union without members counts as the leaf `any`, which is what it is
simplified to, also inside another union. Every leaf is kept once, where it comes first.

## Stages

Simplifying works from the inside: the members of a union are simplified first, each of them drops
its own repetitions, and what is left is put side by side and freed from repetitions again. It comes
to the same as listing all leaves and freeing the list from repetitions once. What carries this
through the tree is that the alternatives of a simplified member are exactly its leaves, kept once:
they hold no union that would be opened a second time, and there is at least one of them.

## Main definitions

* `TypeExpr.leaves` — the leaves of a type, in order.

## Main results

* `TypeExpr.simplify_eq` — a type is simplified to the type of its leaves, kept once.
* `TypeExpr.leaves_simplify` — the leaves of what it is simplified to.
* `TypeExpr.simplify_keeps_leaves` — what simplifying keeps.
-/

namespace DtoInterfaces

namespace TypeExpr

/-! ### Leaves -/

/-- Whether a type is a union. -/
def isUnion : TypeExpr → Bool
  | union _ => true
  | _ => false

mutual

/-- The leaves of a type. An array is a leaf, whatever its items are. -/
def leaves : TypeExpr → List TypeExpr
  | union [] => [any]
  | union (t :: ts) => t.leaves ++ leavesAll ts
  | t => [t]

/-- The leaves of some types, one after the other. -/
def leavesAll : List TypeExpr → List TypeExpr
  | [] => []
  | t :: ts => t.leaves ++ leavesAll ts

end

theorem leavesAll_eq_flatMap (ts : List TypeExpr) : leavesAll ts = ts.flatMap leaves := by
  induction ts with
  | nil => rfl
  | cons t ts ih => rw [leavesAll, ih, List.flatMap_cons]

theorem leaves_union {ts : List TypeExpr} (h : ts ≠ []) : (union ts).leaves = ts.flatMap leaves := by
  cases ts with
  | nil => exact absurd rfl h
  | cons t ts => rw [leaves, leavesAll_eq_flatMap, List.flatMap_cons]

theorem leaves_of_not_isUnion {t : TypeExpr} (h : t.isUnion = false) : t.leaves = [t] := by
  cases t with
  | union ts => cases h
  | _ => simp [leaves]

theorem leaves_ne_nil : ∀ t : TypeExpr, t.leaves ≠ []
  | union [] => by simp [leaves]
  | union (t :: ts) => by simp [leaves, leaves_ne_nil t]
  | any | string | number | boolean | object | array _ | reference _ | literal _ => by simp [leaves]

mutual

/-- No leaf is a union. -/
theorem isUnion_of_mem_leaves : ∀ {t x : TypeExpr}, x ∈ t.leaves → x.isUnion = false
  | union [], x, h => by
    rw [leaves, List.mem_singleton] at h
    rw [h]
    rfl
  | union (t :: ts), x, h => by
    rw [leaves, List.mem_append] at h
    exact h.elim isUnion_of_mem_leaves isUnion_of_mem_leavesAll
  | any, x, h | string, x, h | number, x, h | boolean, x, h | object, x, h | array _, x, h
  | reference _, x, h | literal _, x, h => by
    rw [leaves_of_not_isUnion rfl, List.mem_singleton] at h
    rw [h]
    rfl

theorem isUnion_of_mem_leavesAll : ∀ {ts : List TypeExpr} {x : TypeExpr}, x ∈ leavesAll ts →
    x.isUnion = false
  | [], x, h => by simp [leavesAll] at h
  | t :: ts, x, h => by
    rw [leavesAll, List.mem_append] at h
    exact h.elim isUnion_of_mem_leaves isUnion_of_mem_leavesAll

end

/-! ### The type of some alternatives -/

theorem ofDistinct_of_two_le {ts : List TypeExpr} (h : 2 ≤ ts.length) : ofDistinct ts = union ts := by
  match ts, h with
  | _ :: _ :: _, _ => rfl

theorem alternatives_of_not_isUnion {t : TypeExpr} (h : t.isUnion = false) :
    t.alternatives = [t] := by
  cases t with
  | union ts => cases h
  | _ => rfl

section Distinct

variable {ts : List TypeExpr} (hsome : ts ≠ []) (hflat : ∀ t ∈ ts, t.isUnion = false)

include hsome hflat

theorem alternatives_ofDistinct : (ofDistinct ts).alternatives = ts := by
  match ts, hsome, hflat with
  | [t], _, hflat => exact alternatives_of_not_isUnion (hflat t List.mem_cons_self)
  | _ :: _ :: _, _, _ => rfl

theorem leaves_ofDistinct : (ofDistinct ts).leaves = ts := by
  have hself : ts.flatMap leaves = ts := by
    rw [List.flatMap_congr fun t ht => leaves_of_not_isUnion (hflat t ht)]
    exact List.flatMap_singleton' ts
  match ts, hsome, hflat with
  | [t], _, hflat => exact leaves_of_not_isUnion (hflat t List.mem_cons_self)
  | _ :: _ :: _, _, _ => exact (leaves_union (List.cons_ne_nil _ _)).trans hself

end Distinct

/-! ### Simplifying -/

theorem eraseDups_leaves_ne_nil (t : TypeExpr) : t.leaves.eraseDups ≠ [] := by
  obtain ⟨x, hx⟩ := List.exists_mem_of_ne_nil _ t.leaves_ne_nil
  exact List.ne_nil_of_mem (List.mem_eraseDups.2 hx)

theorem isUnion_of_mem_eraseDups_leaves {t x : TypeExpr} (h : x ∈ t.leaves.eraseDups) :
    x.isUnion = false :=
  isUnion_of_mem_leaves (List.mem_eraseDups.1 h)

mutual

/-- **A type is simplified to the type of its leaves, kept once.** By induction on the type: the
alternatives of the simplified members are their leaves, kept once member by member. -/
theorem simplify_eq : ∀ t : TypeExpr, t.simplify = ofDistinct t.leaves.eraseDups
  | union [] => rfl
  | union (t :: ts) => by
    rw [simplify, simplifyAll_eq (t :: ts), eraseDups_flatMap_eraseDups,
      leaves_union (List.cons_ne_nil _ _)]
  | any | string | number | boolean | object | array _ | reference _ | literal _ => rfl

theorem simplifyAll_eq : ∀ ts : List TypeExpr,
    simplifyAll ts = ts.flatMap fun t => t.leaves.eraseDups
  | [] => rfl
  | t :: ts => by
    rw [simplifyAll, simplify_eq t, simplifyAll_eq ts, List.flatMap_cons,
      alternatives_ofDistinct t.eraseDups_leaves_ne_nil fun _ => isUnion_of_mem_eraseDups_leaves]

end

/-- The leaves of what a type is simplified to are its leaves, kept once. -/
theorem leaves_simplify (t : TypeExpr) : t.simplify.leaves = t.leaves.eraseDups := by
  rw [simplify_eq]
  exact leaves_ofDistinct t.eraseDups_leaves_ne_nil fun _ => isUnion_of_mem_eraseDups_leaves

/-- What is simplified is in simplified form: its leaves are distinct, and are kept as they are. -/
theorem simplify_simplify (t : TypeExpr) : t.simplify.simplify = t.simplify := by
  rw [simplify_eq t.simplify, leaves_simplify, eraseDups_eq_self (nodup_eraseDups _), ← simplify_eq]

/-- The leaves of a union are those of its members; without members it is `any`. -/
theorem mem_leaves_union_iff {ts : List TypeExpr} {x : TypeExpr} :
    x ∈ (union ts).leaves ↔ ts = [] ∧ x = any ∨ ∃ t ∈ ts, x ∈ t.leaves := by
  by_cases h : ts = []
  · simp [h, leaves]
  · simp [h, leaves_union, List.mem_flatMap]

/-- **What simplifying keeps.** A type of any depth is simplified to its leaf, if keeping the first
occurrences of its leaves leaves a single one, and otherwise to the union of what is left, which are
two or more distinct types in the order of their first occurrences, none of them a union. So
simplifying once is enough, and the simplified union of some types has exactly their leaves, each of
them once. -/
theorem simplify_keeps_leaves (t : TypeExpr) :
    ((∃ x, t.leaves.eraseDups = [x] ∧ t.simplify = x) ∨
      (2 ≤ t.leaves.eraseDups.length ∧ t.simplify = union t.leaves.eraseDups)) ∧
    t.leaves.eraseDups.Nodup ∧ t.leaves.eraseDups.Sublist t.leaves ∧
    (∀ x ∈ t.leaves.eraseDups, x.isUnion = false) ∧
    t.simplify.simplify = t.simplify ∧
    ∀ ts, ofAlternatives ts = (union ts).simplify ∧
      (ofAlternatives ts).leaves = (union ts).leaves.eraseDups ∧
      (ofAlternatives ts).leaves.Nodup ∧
      ∀ x, x ∈ (ofAlternatives ts).leaves ↔ ts = [] ∧ x = any ∨ ∃ t ∈ ts, x ∈ t.leaves := by
  refine ⟨?_, nodup_eraseDups _, eraseDups_sublist _, fun x => isUnion_of_mem_eraseDups_leaves,
    t.simplify_simplify, fun ts => ⟨rfl, leaves_simplify _, ?_, fun x => ?_⟩⟩
  · rw [simplify_eq]
    match hleaves : t.leaves.eraseDups with
    | [] => exact absurd hleaves t.eraseDups_leaves_ne_nil
    | [x] => exact .inl ⟨x, rfl, rfl⟩
    | x :: y :: xs => exact .inr ⟨by simp, rfl⟩
  · rw [ofAlternatives, leaves_simplify]
    exact nodup_eraseDups _
  · rw [ofAlternatives, leaves_simplify, List.mem_eraseDups, mem_leaves_union_iff]

-- an inner union without members is the leaf `any`, and arrays are not looked into
example : (union [union [], string, union [array (union []), string]]).simplify =
    union [any, string, array (union [])] := by
  decide +kernel

end TypeExpr

end DtoInterfaces
