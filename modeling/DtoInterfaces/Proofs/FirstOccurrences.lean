import Mathlib.Data.List.Basic

/-!
# First occurrences

A list in which every member is kept once, where it comes first. Keeping first occurrences in
stages, part by part and then of all parts together, is the same as doing it once, and so is doing
it after a selection.

## Main results

* `eraseDups_eq_self` — a list without repetition is kept as it is.
* `eraseDups_filter` — selecting and keeping first occurrences commute.
* `eraseDups_flatMap_eraseDups` — the parts of a list can be treated on their own first.
* `eraseDups_map_of_injective` — so can the members be, as long as different ones stay different.
-/

namespace DtoInterfaces

section FirstOccurrences

variable {α ι : Type} [BEq α]

theorem eraseDups_sublist : ∀ l : List α, l.eraseDups.Sublist l
  | [] => .slnil
  | a :: l => by
    rw [List.eraseDups_cons]
    exact ((eraseDups_sublist _).trans List.filter_sublist).cons_cons a
termination_by l => l.length
decreasing_by exact Nat.lt_succ_of_le (List.length_filter_le _ _)

variable [LawfulBEq α]

theorem nodup_eraseDups : ∀ l : List α, l.eraseDups.Nodup
  | [] => by simp
  | a :: l => by
    rw [List.eraseDups_cons, List.nodup_cons]
    refine ⟨fun hmem => ?_, nodup_eraseDups _⟩
    have hmem := (List.mem_filter.1 (List.mem_eraseDups.1 hmem)).2
    simp at hmem
termination_by l => l.length
decreasing_by exact Nat.lt_succ_of_le (List.length_filter_le _ _)

/-- A list without repetition is kept as it is. -/
theorem eraseDups_eq_self {l : List α} (h : l.Nodup) : l.eraseDups = l := by
  induction l with
  | nil => rfl
  | cons a l ih =>
    rw [List.nodup_cons] at h
    have hrest : l.filter (fun b => !b == a) = l := by
      refine List.filter_eq_self.2 fun b hb => ?_
      have hne : b ≠ a := fun hsame => h.1 (hsame ▸ hb)
      simpa using hne
    rw [List.eraseDups_cons, hrest, ih h.2]

/-- Selecting and keeping first occurrences commute. -/
theorem eraseDups_filter (p : α → Bool) :
    ∀ l : List α, (l.filter p).eraseDups = l.eraseDups.filter p
  | [] => rfl
  | a :: l => by
    have hcomm : (l.filter p).filter (fun b => !b == a) =
        (l.filter fun b => !b == a).filter p := List.filter_comm _ _ _
    have hrest := eraseDups_filter p (l.filter fun b => !b == a)
    rw [List.eraseDups_cons, List.filter_cons, List.filter_cons]
    cases hp : p a with
    | true =>
      rw [if_pos rfl, if_pos rfl, List.eraseDups_cons, hcomm, hrest]
    | false =>
      -- a member that is not selected is taken out of the rest by the selection as well
      have hout : (l.filter fun b => !b == a).filter p = l.filter p := by
        rw [List.filter_filter]
        refine List.filter_congr fun b _ => ?_
        by_cases hsame : b = a <;> simp [hsame, hp]
      rw [if_neg Bool.false_ne_true, if_neg Bool.false_ne_true, ← hrest, hout]
termination_by l => l.length
decreasing_by exact Nat.lt_succ_of_le (List.length_filter_le _ _)

/-- **Keeping first occurrences in stages.** If every part of a list is treated on its own first,
nothing changes for the whole. By induction on the parts: what the first one takes out of the rest
depends on its members alone. -/
theorem eraseDups_flatMap_eraseDups (f : ι → List α) (is : List ι) :
    (is.flatMap fun i => (f i).eraseDups).eraseDups = (is.flatMap f).eraseDups := by
  induction is with
  | nil => rfl
  | cons i is ih =>
    have hseen : ∀ rest : List α, rest.removeAll (f i).eraseDups = rest.removeAll (f i) :=
      fun rest => List.filter_congr fun a _ => by
        rw [List.elem_eq_contains, List.elem_eq_contains, Bool.eq_iff_iff]
        simp
    have hrest : ∀ rest : List α,
        (rest.removeAll (f i)).eraseDups = rest.eraseDups.removeAll (f i) :=
      fun rest => eraseDups_filter _ rest
    rw [List.flatMap_cons, List.flatMap_cons, List.eraseDups_append, List.eraseDups_append,
      eraseDups_eq_self (nodup_eraseDups _), hseen, hrest, ih, hrest]

/-- Keeping first occurrences, before and after a translation that confuses nothing. -/
theorem eraseDups_map_of_injective {β : Type} [BEq β] [LawfulBEq β] {f : α → β}
    (hf : Function.Injective f) : ∀ l : List α, (l.map f).eraseDups = l.eraseDups.map f
  | [] => rfl
  | a :: l => by
    have hrest : (l.map f).filter (fun b => !b == f a) = (l.filter fun b => !b == a).map f := by
      rw [List.filter_map]
      refine congrArg (List.map f) (List.filter_congr fun b _ => ?_)
      by_cases hsame : b = a
      · simp [hsame]
      · have hne : f b ≠ f a := fun heq => hsame (hf heq)
        simp [hsame, hne]
    rw [List.map_cons, List.eraseDups_cons, hrest, eraseDups_map_of_injective hf,
      List.eraseDups_cons, List.map_cons]
termination_by l => l.length
decreasing_by exact Nat.lt_succ_of_le (List.length_filter_le _ _)

end FirstOccurrences

end DtoInterfaces
