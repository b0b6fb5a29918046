import DtoInterfaces.Rules
import Mathlib.Data.List.Basic

/-!
# Words in rules

The rules of a property are searched as one text, with bars between them. A word without a bar
cannot reach from one rule into the next, so it stands in the text exactly if it stands in one of
the rules. This is what makes a statement about rules out of a search in a text.

## Main results

* `infix_intercalate_iff` — what holds no separator stands in one of the parts.
* `Rules.mentions_iff` — a word is mentioned exactly if one of the rules has it.
-/

namespace DtoInterfaces

section Infix

variable {α : Type} {sep : α} {needle : List α}

/-- What holds no separator does not reach over one. -/
theorem infix_append_cons_iff (hsep : sep ∉ needle) (hne : needle ≠ []) {before after : List α} :
    needle <:+: before ++ sep :: after ↔ needle <:+: before ∨ needle <:+: after := by
  -- nothing that starts at the separator is a part of what holds none
  have hreach : ∀ l : List α, l ≠ [] → l <+: sep :: after → sep ∈ l := by
    intro l hl hfront
    obtain hnil | ⟨t, rfl, -⟩ := List.prefix_cons_iff.1 hfront
    · exact absurd hnil hl
    · exact List.mem_cons_self
  constructor
  · intro h
    obtain h | h | ⟨l₁, l₂, -, hl₂, rfl, -, hfront⟩ := List.infix_append_iff_ne_nil.1 h
    · exact .inl h
    · obtain hfront | h := List.infix_cons_iff.1 h
      · exact absurd (hreach needle hne hfront) hsep
      · exact .inr h
    · exact absurd (List.mem_append_right l₁ (hreach l₂ hl₂ hfront)) hsep
  · rintro (h | h)
    · exact List.infix_append_of_infix_left h
    · exact List.infix_append_of_infix_right (List.infix_cons h)

/-- What holds no separator stands in one of the parts. -/
theorem infix_intercalate_iff (hsep : sep ∉ needle) (hne : needle ≠ []) {ls : List (List α)} :
    needle <:+: [sep].intercalate ls ↔ ∃ l ∈ ls, needle <:+: l := by
  induction ls with
  | nil => simp [hne]
  | cons l ls ih =>
    cases ls with
    | nil => simp
    | cons l' ls =>
      rw [List.intercalate_cons_cons, List.append_assoc, List.singleton_append,
        infix_append_cons_iff hsep hne, ih]
      simp

end Infix

/-- **A word is mentioned** exactly if one of the rules has it. -/
theorem Rules.mentions_iff {word : String} (hbar : bar ∉ word.toList) (hne : word.toList ≠ [])
    (rules : Rules) :
    rules.mentions word = true ↔ ∃ token ∈ rules.tokens, word.toList <:+: token.toList := by
  rw [mentions, Text.occursIn_iff, joinedChars, infix_intercalate_iff hbar hne]
  simp

end DtoInterfaces
