import DtoInterfaces.Text.Segments
import Mathlib.Data.List.Basic

/-!
# Endings of segments

A text can be replaced only where a separator follows it, by making the separator part of what is
looked for. If the text itself holds no separator an occurrence cannot reach over one, so it is the
end of a segment, and the replacement acts on each segment by itself: on the one ending of every
segment that is followed by a separator, and on nothing behind the last one.

## Main definitions

* `Text.replaceEnd` — a text with one ending in place of another.

## Main results

* `Text.withoutEnd_cases` — an ending is taken off, or it is not there.
* `Text.replaceAll_append_cons` — replacing in front of separators, segment by segment.
-/

namespace DtoInterfaces

namespace Text

variable {separator : Char} {old new cs : List Char}

/-- A text either has an ending and is what is left of it with the ending put back, or it is left
as it is. -/
theorem withoutEnd_cases (ending cs : List Char) :
    (ending <:+ cs ∧ withoutEnd ending cs ++ ending = cs) ∨
      (¬ ending <:+ cs ∧ withoutEnd ending cs = cs) := by
  by_cases h : ending <:+ cs
  · obtain ⟨front, rfl⟩ := h
    exact .inl ⟨List.suffix_append front ending, by rw [withoutEnd_append]⟩
  · refine .inr ⟨h, ?_⟩
    rw [withoutEnd, if_neg]
    simpa using h

/-- The text with the ending `new` in place of `old`; the text itself if it ends otherwise. -/
def replaceEnd (old new cs : List Char) : List Char :=
  if old <:+ cs then withoutEnd old cs ++ new else cs

theorem replaceEnd_append (old new front : List Char) :
    replaceEnd old new (front ++ old) = front ++ new := by
  rw [replaceEnd, if_pos (List.suffix_append front old), withoutEnd_append]

theorem replaceEnd_self (old new : List Char) : replaceEnd old new old = new :=
  replaceEnd_append old new []

theorem replaceEnd_of_not_suffix (h : ¬ old <:+ cs) : replaceEnd old new cs = cs := by
  rw [replaceEnd, if_neg h]

theorem replaceEnd_cons {c : Char} (h : c :: cs ≠ old) :
    replaceEnd old new (c :: cs) = c :: replaceEnd old new cs := by
  by_cases hend : old <:+ cs
  · obtain ⟨front, rfl⟩ := hend
    rw [← List.cons_append, replaceEnd_append, replaceEnd_append, List.cons_append]
  · rw [replaceEnd_of_not_suffix hend, replaceEnd_of_not_suffix]
    rw [List.suffix_cons_iff, not_or]
    exact ⟨Ne.symm h, hend⟩

/-- A text stands in front of the first separator exactly if it is all that stands there. -/
theorem append_prefix_append_cons_iff (hold : separator ∉ old) (hcs : separator ∉ cs)
    (rest : List Char) : old ++ [separator] <+: cs ++ separator :: rest ↔ cs = old := by
  induction old generalizing cs with
  | nil =>
    cases cs with
    | nil => simp
    | cons c cs =>
      simp only [List.mem_cons, not_or] at hcs
      simp [List.cons_prefix_cons, hcs.1]
  | cons o old ih =>
    simp only [List.mem_cons, not_or] at hold
    cases cs with
    | nil => simp [List.cons_prefix_cons, Ne.symm hold.1]
    | cons c cs =>
      simp only [List.mem_cons, not_or] at hcs
      rw [List.cons_append, List.cons_append, List.cons_prefix_cons, ih hold.2 hcs.2,
        List.cons.injEq, eq_comm (a := c)]

theorem replaceAll_append (hne : old ≠ []) (rest : List Char) :
    replaceAll old new (old ++ rest) = new ++ replaceAll old new rest := by
  obtain ⟨o, old', rfl⟩ := List.exists_cons_of_ne_nil hne
  have hfront : (o :: old').isPrefixOf (o :: (old' ++ rest)) = true :=
    List.isPrefixOf_iff_prefix.2 (List.prefix_append (o :: old') rest)
  rw [List.cons_append, replaceAll, if_pos ⟨hne, hfront⟩, ← List.cons_append, List.drop_left]

theorem replaceAll_cons_of_not_front {c : Char} (h : ¬ old <+: c :: cs) :
    replaceAll old new (c :: cs) = c :: replaceAll old new cs := by
  rw [replaceAll, if_neg]
  rintro ⟨-, hfront⟩
  exact h (List.isPrefixOf_iff_prefix.1 hfront)

/-- **Replacing in front of separators, segment by segment.** By induction on the first segment:
what is looked for starts at the first character exactly if it is the whole segment, and otherwise
the first character stays. -/
theorem replaceAll_append_cons (hold : separator ∉ old) (hcs : separator ∉ cs)
    (rest : List Char) :
    replaceAll (old ++ [separator]) (new ++ [separator]) (cs ++ separator :: rest) =
      replaceEnd old new cs ++
        separator :: replaceAll (old ++ [separator]) (new ++ [separator]) rest := by
  have hwhole : replaceAll (old ++ [separator]) (new ++ [separator]) (old ++ separator :: rest) =
      replaceEnd old new old ++
        separator :: replaceAll (old ++ [separator]) (new ++ [separator]) rest := by
    rw [List.append_cons old separator rest, replaceAll_append (by simp), replaceEnd_self,
      ← List.append_cons]
  induction cs with
  | nil =>
    by_cases h : [] = old
    · rwa [← h] at hwhole ⊢
    · have hfront := (append_prefix_append_cons_iff hold hcs rest).not.2 h
      rw [List.nil_append] at hfront ⊢
      rw [replaceAll_cons_of_not_front hfront, replaceEnd_of_not_suffix, List.nil_append]
      rwa [List.suffix_nil, eq_comm]
  | cons c cs ih =>
    by_cases h : c :: cs = old
    · rwa [← h] at hwhole ⊢
    · have hfront := (append_prefix_append_cons_iff hold hcs rest).not.2 h
      rw [List.cons_append] at hfront ⊢
      rw [replaceAll_cons_of_not_front hfront, ih fun hmem => hcs (List.mem_cons_of_mem _ hmem),
        replaceEnd_cons h, List.cons_append]

end Text

end DtoInterfaces
