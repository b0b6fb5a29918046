import DtoInterfaces.ClassName
import Mathlib.Tactic.ByContra

/-!
# Normal forms of normal forms

A normal form is not always its own normal form. Taking the normal form trims first and drops
separators then, so separators in front of a blank leave a text that starts with that blank: the
normal form of `\ App\Note` is ` App\Note`. Taking the normal form again trims the blank away and
drops the separators behind it. Nothing else can go wrong, because a normal form never starts with
a separator and never ends in a blank.

## Main definitions

* `ClassName.startsBlank` — whether the normal form of a name starts with a blank.

## Main results

* `ClassName.normalize_normalize_eq_iff` — which normal forms are their own normal forms.
-/

namespace DtoInterfaces

namespace ClassName

/-- Whether the normal form of a name starts with a blank. -/
def startsBlank (name : String) : Bool := (normalChars name.toList).head?.any Text.isBlank

theorem length_trim_le (cs : List Char) : (Text.trim cs).length ≤ (Text.trimStart cs).length := by
  rw [Text.trim, Text.trimEnd, List.length_reverse]
  have hle := (List.dropWhile_suffix Text.isBlank (l := (Text.trimStart cs).reverse)).length_le
  rwa [List.length_reverse] at hle

theorem length_normalChars_lt {c : Char} {cs : List Char} (h : Text.isBlank c = true) :
    (normalChars (c :: cs)).length < (c :: cs).length :=
  calc (normalChars (c :: cs)).length
      ≤ (Text.trim (c :: cs)).length := (List.dropWhile_suffix _).length_le
    _ ≤ (Text.trimStart (c :: cs)).length := length_trim_le _
    _ = (Text.trimStart cs).length := by rw [Text.trimStart, List.dropWhile_cons_of_pos h]; rfl
    _ ≤ cs.length := (List.dropWhile_suffix _).length_le
    _ < (c :: cs).length := Nat.lt_succ_self _

/-- **A normal form is its own normal form** exactly if it does not start with a blank. -/
theorem normalize_normalize_eq_iff {name : String} :
    normalize (normalize name) = normalize name ↔ startsBlank name = false := by
  rw [← String.toList_inj, toList_normalize, toList_normalize, startsBlank]
  cases hcs : normalChars name.toList with
  | nil => simp [normalChars]
  | cons c cs =>
    rw [List.head?_cons, Option.any_some]
    constructor
    · intro h
      by_contra hblank
      have hlt : (normalChars (c :: cs)).length < (c :: cs).length :=
        length_normalChars_lt (Bool.not_eq_false _ ▸ hblank)
      rw [h] at hlt
      exact Nat.lt_irrefl _ hlt
    · intro hblank
      refine normalChars_eq_self ?_ ?_ ?_
      · simpa using hblank
      · rw [← hcs]
        exact fun _ => getLast?_normalChars_not_blank
      · rw [← hcs]
        exact fun _ => head?_normalChars_ne

end ClassName

end DtoInterfaces
