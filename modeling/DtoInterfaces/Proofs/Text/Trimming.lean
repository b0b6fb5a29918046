import DtoInterfaces.Text.Blank
import Mathlib.Data.List.Basic

/-!
# What trimming keeps

Trimming takes blanks away and nothing else, and only at the two ends. So a word without blanks
stands in a text exactly if it stands in the trimmed text, and a word at the end of a text is still
there afterwards, with all that was in front of it but the leading blanks.

## Main results

* `Text.infix_trim_iff` — words without blanks are neither lost nor made.
* `Text.trim_append_cons` — a text that ends in a word is trimmed in front alone.
-/

namespace DtoInterfaces

namespace Text

theorem trim_sublist (cs : List Char) : (trim cs).Sublist cs := by
  have hend : (trim cs).Sublist (trimStart cs) := by
    rw [trim, trimEnd, ← List.reverse_sublist, List.reverse_reverse]
    exact (List.dropWhile_suffix _).sublist
  exact hend.trans (List.dropWhile_suffix _).sublist

/-- What is dropped in front is no part of a word without elements of the kind. -/
theorem infix_dropWhile_iff {α : Type} {p : α → Bool} {word : List α} (hne : word ≠ [])
    (hword : ∀ a ∈ word, p a = false) {l : List α} : word <:+: l.dropWhile p ↔ word <:+: l := by
  induction l with
  | nil => rfl
  | cons a l ih =>
    cases ha : p a with
    | false => rw [List.dropWhile_cons_of_neg (by simp [ha])]
    | true =>
      have hfront : ¬ word <+: a :: l := by
        intro hprefix
        obtain hnil | ⟨t, rfl, -⟩ := List.prefix_cons_iff.1 hprefix
        · exact hne hnil
        · rw [hword a List.mem_cons_self] at ha
          cases ha
      rw [List.dropWhile_cons_of_pos ha, ih, List.infix_cons_iff]
      exact (or_iff_right hfront).symm

/-- **A word without blanks** stands in a text exactly if it stands in the trimmed text. -/
theorem infix_trim_iff {word : List Char} (hne : word ≠ [])
    (hword : ∀ c ∈ word, isBlank c = false) {cs : List Char} :
    word <:+: trim cs ↔ word <:+: cs := by
  have hne' : word.reverse ≠ [] := by simpa using hne
  have hword' : ∀ c ∈ word.reverse, isBlank c = false := by simpa using hword
  rw [trim, trimEnd, ← List.reverse_infix, List.reverse_reverse, infix_dropWhile_iff hne' hword',
    List.reverse_infix, trimStart, infix_dropWhile_iff hne hword]

/-- Blanks are dropped no further than up to a character that is not one. -/
theorem trimStart_append_cons {c : Char} (hc : isBlank c = false) (before after : List Char) :
    trimStart (before ++ c :: after) = trimStart before ++ c :: after := by
  induction before with
  | nil => simp [trimStart, hc]
  | cons b before ih =>
    rw [trimStart, trimStart] at ih
    rw [List.cons_append, trimStart, trimStart, List.dropWhile_cons, List.dropWhile_cons]
    split
    · exact ih
    · rfl

/-- **A text that ends in a word** loses the blanks in front and nothing else. -/
theorem trim_append_cons {c : Char} {after : List Char} (hc : isBlank c = false)
    (hlast : ∀ d ∈ (c :: after).getLast?, isBlank d = false) (before : List Char) :
    trim (before ++ c :: after) = trimStart before ++ c :: after := by
  have hend : (trimStart before ++ c :: after).reverse.dropWhile isBlank =
      (trimStart before ++ c :: after).reverse := by
    refine dropWhile_eq_self_of_head? fun d hd => hlast d ?_
    rwa [List.head?_reverse, List.getLast?_append_cons] at hd
  rw [trim, trimStart_append_cons hc, trimEnd, hend, List.reverse_reverse]

end Text

end DtoInterfaces
