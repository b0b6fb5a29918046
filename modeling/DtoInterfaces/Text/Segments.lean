/-!
# Segments, occurrences and replacement

The few operations on texts that the rest of the library is built from. A text is worked on as
the list of its characters; each operation is stated once, here, and comes with the lemma that
says what it does to an append.

## Main definitions

* `afterLast` — what follows the last occurrence of a separator.
* `occursIn` — whether one text stands somewhere inside another.
* `replaceAll` — the occurrences of a text, found from the left without overlap, replaced.
* `withoutEnd` — a text without a given ending.

## Main results

* `separator_not_mem_of_mem_splitOn` — a split leaves no separator in the parts.
* `occursIn_iff` — `occursIn` decides the infix relation of lists.
* `afterLast_append_cons` — whatever stands before a separator is ignored.
* `afterLast_eq_self` — a text without separators is its own last segment.
-/

namespace DtoInterfaces

/-! ### Parts between separators -/

/-- The parts between separators hold none. By induction on the list: an element is a separator and
starts a new part, or it is put in front of the first part. -/
theorem separator_not_mem_of_mem_splitOn {α : Type} [DecidableEq α] {sep : α} {l part : List α}
    (h : part ∈ l.splitOn sep) : sep ∉ part := by
  induction l generalizing part with
  | nil =>
    rw [List.splitOn_nil, List.mem_singleton] at h
    rw [h]
    exact List.not_mem_nil
  | cons a l ih =>
    rw [List.splitOn_cons_eq_if_modifyHead] at h
    split at h
    · rcases List.mem_cons.1 h with rfl | h
      · exact List.not_mem_nil
      · exact ih h
    · rename_i ha
      obtain ⟨first, parts, hparts⟩ := List.exists_cons_of_ne_nil (List.splitOn_ne_nil sep l)
      rw [hparts] at h ih
      rcases List.mem_cons.1 h with rfl | h
      · rw [List.mem_cons, not_or]
        exact ⟨fun heq => ha (by simp [heq]), ih List.mem_cons_self⟩
      · exact ih (List.mem_cons_of_mem _ h)

namespace Text

/-! ### The last segment -/

/-- What follows the last occurrence of the separator; the whole text if there is none. -/
def afterLast (separator : Char) : List Char → List Char
  | [] => []
  | c :: cs =>
    if separator ∈ cs then afterLast separator cs
    else if c = separator then cs
    else c :: cs

/-- A text without separators is its own last segment. -/
theorem afterLast_eq_self {separator : Char} {cs : List Char} (h : separator ∉ cs) :
    afterLast separator cs = cs := by
  cases cs with
  | nil => rfl
  | cons c cs =>
    simp only [List.mem_cons, not_or] at h
    rw [afterLast, if_neg h.2, if_neg (Ne.symm h.1)]

/-- What stands before a separator does not reach the last segment. -/
theorem afterLast_append_cons (separator : Char) (before after : List Char) :
    afterLast separator (before ++ separator :: after) = afterLast separator after := by
  induction before with
  | nil =>
    rw [List.nil_append, afterLast]
    split
    · rfl
    · rw [if_pos rfl, afterLast_eq_self ‹_›]
  | cons c before ih => rw [List.cons_append, afterLast, if_pos (by simp), ih]

/-! ### Occurrences -/

/-- Whether the needle stands somewhere in the text. -/
def occursIn (needle : List Char) : List Char → Bool
  | [] => needle.isEmpty
  | c :: cs => needle.isPrefixOf (c :: cs) || occursIn needle cs

/-- `occursIn` decides whether one list is an infix of the other. -/
theorem occursIn_iff {needle cs : List Char} : occursIn needle cs = true ↔ needle <:+: cs := by
  induction cs with
  | nil => simp [occursIn, List.isEmpty_iff]
  | cons c cs ih =>
    simp only [occursIn, Bool.or_eq_true, ih, List.isPrefixOf_iff_prefix, List.infix_cons_iff]

/-! ### Endings and replacement -/

/-- The text without the given ending, once; the text itself if it ends otherwise. -/
def withoutEnd (ending cs : List Char) : List Char :=
  if ending.isSuffixOf cs then cs.take (cs.length - ending.length) else cs

@[simp] theorem withoutEnd_append (cs ending : List Char) :
    withoutEnd ending (cs ++ ending) = cs := by
  simp [withoutEnd]

/-- Every occurrence of `old`, found from the left and without overlap, becomes `new`; an empty
`old` occurs nowhere. -/
def replaceAll (old new : List Char) : List Char → List Char
  | [] => []
  | c :: cs =>
    if old ≠ [] ∧ old.isPrefixOf (c :: cs) then
      new ++ replaceAll old new ((c :: cs).drop old.length)
    else c :: replaceAll old new cs
termination_by cs => cs.length
decreasing_by
  · rename_i h
    have := List.length_pos_iff.2 h.1
    simp only [List.length_drop, List.length_cons]
    omega
  · simp

theorem replaceAll_eq_self {old new cs : List Char} (h : ¬ old <:+: cs) :
    replaceAll old new cs = cs := by
  induction cs with
  | nil => rw [replaceAll]
  | cons c cs ih =>
    rw [List.infix_cons_iff, not_or] at h
    rw [replaceAll, if_neg, ih h.2]
    rintro ⟨-, hold⟩
    exact h.1 (List.isPrefixOf_iff_prefix.1 hold)

end Text

end DtoInterfaces
